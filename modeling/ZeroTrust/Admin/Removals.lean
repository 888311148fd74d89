/-
# `ZeroTrust.Admin.Removals` — what a removal takes away

Access to a resource goes through a chain of four rows:

    access_rules ── access_rule_groups ── user_group_members ── users
    enabled, of        of the rule          of the group         active, with
    the resource                                                 an identity

An administrator removes a group, one membership, a rule, a user or a resource.  Groups,
memberships and users have two routes each, and the routes do not delete the same rows: the
removal of a group also deletes all rules that have no group, that of a rule leaves its groups
behind, and of the two that remove a user one leaves the memberships.

    `grants_removed`      the chains after a removal are those before it that do not use what
                          is removed
    `removal_exact`       so are the identities compiled for the remaining resources; and both
                          routes compile to the same
-/
import ZeroTrust.Admin.PolicyNotifications

namespace ZeroTrust.Admin.Removals

open Lib
open Controller
open PolicyRequests (Tables Env PolicyRequest Outcome handle deleteRulesOf)
open ControlPlane (ampersandController ampersandDatabase)
open PolicyNotifications (Active mem_resourceIdentities policyResource_congr)

inductive Removal where
  | group (groupID : String)
  | member (groupID userID : String)
  | rule (ruleID : String)
  | user (userID : String)
  | resource (resourceID : String)

/-- The requests that ask for it. -/
def Removal.routes : Removal → List PolicyRequest
  | .group groupID => [.deleteGroup groupID, .uiDeleteGroup groupID]
  | .member groupID userID => [.removeMember groupID userID, .uiRemoveMember groupID userID]
  | .rule ruleID => [.uiDeleteAccessRule ruleID]
  | .user userID => [.deleteUser userID, .uiDeleteUser userID]
  | .resource resourceID => [.uiDeleteResource resourceID]

/-! ## Chains -/

structure Chain where
  rule : AccessRuleRow
  ruleGroup : AccessRuleGroupRow
  member : UserGroupMemberRow
  user : UserRow

/-- The rows are in the tables and belong together. -/
structure Chain.Grants (C : Libraries) (db : Database) (resourceID identity : String)
    (c : Chain) : Prop where
  rule : c.rule ∈ db.accessRules.rows
  ruleGroup : c.ruleGroup ∈ db.accessRuleGroups.rows
  member : c.member ∈ db.userGroupMembers.rows
  user : c.user ∈ db.users.rows
  resource : c.rule.resourceId = resourceID
  enabled : c.rule.enabled = 1
  ofRule : c.ruleGroup.ruleId = c.rule.id
  ofGroup : c.member.groupId = c.ruleGroup.groupId
  ofUser : c.user.id = c.member.userId
  active : Active C c.user
  identity : c.user.certificateIdentity = some identity

def Chain.Uses (c : Chain) : Removal → Prop
  | .group groupID => c.ruleGroup.groupId = groupID
  | .member groupID userID => c.member = ⟨userID, groupID⟩
  | .rule ruleID => c.rule.id = ruleID
  | .user userID => c.user.id = userID
  | .resource resourceID => c.rule.resourceId = resourceID

instance (c : Chain) : ∀ removal : Removal, Decidable (c.Uses removal)
  | .group groupID => inferInstanceAs (Decidable (c.ruleGroup.groupId = groupID))
  | .member groupID userID => inferInstanceAs (Decidable (c.member = ⟨userID, groupID⟩))
  | .rule ruleID => inferInstanceAs (Decidable (c.rule.id = ruleID))
  | .user userID => inferInstanceAs (Decidable (c.user.id = userID))
  | .resource resourceID => inferInstanceAs (Decidable (c.rule.resourceId = resourceID))

section Chains

variable {C : Libraries} {db db' : Database} {resourceID identity : String} {c : Chain}

theorem mem_resourceIdentities_iff_chain :
    identity ∈ resourceIdentities C db resourceID ↔
      identity ≠ "" ∧ ∃ c : Chain, c.Grants C db resourceID identity := by
  rw [mem_resourceIdentities]
  refine and_congr_right fun _ => ?_
  simp only [usersGranted, List.mem_flatMap, List.mem_filter, decide_eq_true_eq]
  constructor
  · rintro ⟨u, ⟨ar, ⟨har, hres, henabled⟩, arg, ⟨harg, hrule⟩, gm, ⟨hgm, hgroup⟩, hu, huser⟩,
      hactive, hi⟩
    exact ⟨⟨ar, arg, gm, u⟩,
      ⟨har, harg, hgm, hu, hres, henabled, hrule, hgroup, huser, hactive, hi⟩⟩
  · rintro ⟨⟨ar, arg, gm, u⟩, h⟩
    exact ⟨u, ⟨ar, ⟨h.rule, h.resource, h.enabled⟩, arg, ⟨h.ruleGroup, h.ofRule⟩, gm,
      ⟨h.member, h.ofGroup⟩, h.user, h.ofUser⟩, h.active, h.identity⟩

/-- What a chain needs of the tables, and nothing else, may change. -/
theorem Chain.Grants.of_rows (h : c.Grants C db resourceID identity)
    (hrule : c.rule ∈ db'.accessRules.rows) (hruleGroup : c.ruleGroup ∈ db'.accessRuleGroups.rows)
    (hmember : c.member ∈ db'.userGroupMembers.rows) (huser : c.user ∈ db'.users.rows) :
    c.Grants C db' resourceID identity :=
  { h with rule := hrule, ruleGroup := hruleGroup, member := hmember, user := huser }

theorem grants_deleteGroupRows {t : Tables} {groupID : String} :
    c.Grants C (PolicyRequests.deleteGroupRows t groupID).db resourceID identity ↔
      c.Grants C t.db resourceID identity ∧ ¬ c.Uses (.group groupID) := by
  simp only [PolicyRequests.deleteGroupRows]
  constructor
  · intro h
    obtain ⟨hruleGroup, hne⟩ := List.mem_filter.mp h.ruleGroup
    rw [decide_eq_true_eq] at hne
    exact ⟨h.of_rows (List.mem_filter.mp h.rule).1 hruleGroup (List.mem_filter.mp h.member).1
      h.user, hne⟩
  · rintro ⟨h, hne⟩
    have hruleGroup : c.ruleGroup ∈ (t.db.accessRuleGroups.filter fun arg =>
        arg.groupId ≠ groupID).rows := List.mem_filter.mpr ⟨h.ruleGroup, decide_eq_true hne⟩
    refine h.of_rows (List.mem_filter.mpr ⟨h.rule, ?_⟩) hruleGroup
      (List.mem_filter.mpr ⟨h.member, decide_eq_true (h.ofGroup ▸ hne)⟩) h.user
    -- the rule still has the group of the chain
    rw [List.any_eq_true]
    exact ⟨c.ruleGroup, hruleGroup, decide_eq_true h.ofRule⟩

theorem grants_removeMemberRow {t : Tables} {groupID userID : String} :
    c.Grants C (PolicyRequests.removeMemberRow t groupID userID).db resourceID identity ↔
      c.Grants C t.db resourceID identity ∧ ¬ c.Uses (.member groupID userID) := by
  simp only [PolicyRequests.removeMemberRow]
  constructor
  · intro h
    obtain ⟨hmember, hne⟩ := List.mem_filter.mp h.member
    rw [decide_eq_true_eq] at hne
    exact ⟨h.of_rows h.rule h.ruleGroup hmember h.user, hne⟩
  · rintro ⟨h, hne⟩
    exact h.of_rows h.rule h.ruleGroup (List.mem_filter.mpr ⟨h.member, decide_eq_true hne⟩) h.user

theorem grants_deleteAccessRule {ruleID : String} :
    c.Grants C { db with accessRules := db.accessRules.filter fun ar => ar.id ≠ ruleID }
      resourceID identity ↔ c.Grants C db resourceID identity ∧ ¬ c.Uses (.rule ruleID) := by
  constructor
  · intro h
    obtain ⟨hrule, hne⟩ := List.mem_filter.mp h.rule
    rw [decide_eq_true_eq] at hne
    exact ⟨h.of_rows hrule h.ruleGroup h.member h.user, hne⟩
  · rintro ⟨h, hne⟩
    exact h.of_rows (List.mem_filter.mpr ⟨h.rule, decide_eq_true hne⟩) h.ruleGroup h.member h.user

/-- Without the user's row the memberships that name the user are of no account. -/
theorem grants_deleteUser {userID : String} {members : Table id}
    (hsub : ∀ gm ∈ members.rows, gm ∈ db.userGroupMembers.rows)
    (hothers : ∀ gm ∈ db.userGroupMembers.rows, gm.userId ≠ userID → gm ∈ members.rows) :
    c.Grants C { db with
      userGroupMembers := members
      users := db.users.filter fun u => u.id ≠ userID } resourceID identity ↔
    c.Grants C db resourceID identity ∧ ¬ c.Uses (.user userID) := by
  constructor
  · intro h
    obtain ⟨huser, hne⟩ := List.mem_filter.mp h.user
    rw [decide_eq_true_eq] at hne
    exact ⟨h.of_rows h.rule h.ruleGroup (hsub _ h.member) huser, hne⟩
  · rintro ⟨h, hne⟩
    exact h.of_rows h.rule h.ruleGroup (hothers _ h.member (h.ofUser ▸ hne))
      (List.mem_filter.mpr ⟨h.user, decide_eq_true hne⟩)

theorem grants_deleteResource {removed : String} {resources : Table ResourceRow.id} :
    c.Grants C { deleteRulesOf db removed with resources } resourceID identity ↔
      c.Grants C db resourceID identity ∧ ¬ c.Uses (.resource removed) := by
  constructor
  · intro h
    obtain ⟨hrule, hne⟩ := List.mem_filter.mp h.rule
    rw [decide_eq_true_eq] at hne
    exact ⟨h.of_rows hrule (List.mem_filter.mp h.ruleGroup).1 h.member h.user, hne⟩
  · rintro ⟨h, hne⟩
    refine h.of_rows (List.mem_filter.mpr ⟨h.rule, decide_eq_true hne⟩)
      (List.mem_filter.mpr ⟨h.ruleGroup, ?_⟩) h.member h.user
    -- the rule of the chain is the only one with its id, and not one of the removed resource
    rw [Bool.not_eq_true', List.any_eq_false]
    intro ar har hsame
    rw [Bool.and_eq_true, decide_eq_true_eq, decide_eq_true_eq] at hsame
    obtain rfl : ar = c.rule :=
      List.inj_on_of_nodup_map db.accessRules.keys_nodup har h.rule (hsame.2.trans h.ofRule)
    exact hne hsame.1

end Chains

/-! ## The requests -/

section Requests

variable {C : Libraries} {env : Env} {t : Tables} {removal : Removal}
  {req : PolicyRequest} {resourceID identity : String} {c : Chain}

theorem fail_ne_ok {status : Nat} {message : String} : (t.fail status message).outcome ≠ .ok := by
  intro h
  cases h

/-- A check that an answered request has passed. -/
theorem passed_check {p : Prop} [Decidable p] {r : PolicyRequests.Reply} {status : Nat}
    {message : String} (hok : (if p then t.fail status message else r).outcome = .ok) :
    (if p then t.fail status message else r) = r := by
  by_cases hp : p
  · rw [if_pos hp] at hok
    exact absurd hok fail_ne_ok
  · exact if_neg hp

/-- Two of them. -/
theorem passed_checks {p q : Prop} [Decidable p] [Decidable q] {r : PolicyRequests.Reply}
    {status status' : Nat} {message message' : String}
    (hok : (if p then t.fail status message
      else if q then t.fail status' message' else r).outcome = .ok) :
    (if p then t.fail status message else if q then t.fail status' message' else r) = r := by
  have hfirst := passed_check hok
  rw [hfirst] at hok ⊢
  exact passed_check hok

/-- What a removal makes of the tables. -/
def removed (t : Tables) : Removal → Database
  | .group groupID => (PolicyRequests.deleteGroupRows t groupID).db
  | .member groupID userID => (PolicyRequests.removeMemberRow t groupID userID).db
  | .rule ruleID => { t.db with accessRules := t.db.accessRules.filter fun ar => ar.id ≠ ruleID }
  | .user userID =>
      { t.db with
        userGroupMembers := t.db.userGroupMembers.filter fun gm => gm.userId ≠ userID
        users := t.db.users.filter fun u => u.id ≠ userID }
  | .resource resourceID =>
      { deleteRulesOf t.db resourceID with
        resources := t.db.resources.filter fun r => r.id ≠ resourceID }

/-- `DELETE /api/users` leaves the memberships; all other routes do as `removed` says. -/
theorem handle_removal (hreq : req ∈ removal.routes)
    (hok : (handle C env t req).outcome = .ok) :
    (handle C env t req).tables.db = removed t removal ∨
      ∃ userID, removal = .user userID ∧ (handle C env t req).tables.db =
        { t.db with users := t.db.users.filter fun u => u.id ≠ userID } := by
  cases removal with
  | group groupID =>
      have heq : handle C env t req =
          (PolicyRequests.deleteGroupRows t groupID).notifyAndReply := by
        rcases List.mem_pair.mp hreq with rfl | rfl
        · exact passed_checks hok
        · exact passed_checks hok
      exact Or.inl (congrArg (fun r => r.tables.db) heq)
  | member groupID userID =>
      have heq : handle C env t req =
          (PolicyRequests.removeMemberRow t groupID userID).notifyAndReply := by
        rcases List.mem_pair.mp hreq with rfl | rfl
        · have hrest := passed_check hok
          exact hrest.trans (passed_checks (hrest ▸ hok))
        · exact passed_check hok
      exact Or.inl (congrArg (fun r => r.tables.db) heq)
  | rule ruleID =>
      obtain rfl := List.mem_singleton.mp hreq
      have heq := passed_check hok
      exact Or.inl (congrArg (fun r => r.tables.db) heq)
  | user userID =>
      rcases List.mem_pair.mp hreq with rfl | rfl
      · have heq := passed_checks hok
        exact Or.inl (congrArg (fun r => r.tables.db) heq)
      · have heq := passed_checks hok
        exact Or.inr ⟨userID, rfl, congrArg (fun r => r.tables.db) heq⟩
  | resource resourceID =>
      obtain rfl := List.mem_singleton.mp hreq
      have heq := passed_checks hok
      exact Or.inl (congrArg (fun r => r.tables.db) heq)

theorem grants_removed : c.Grants C (removed t removal) resourceID identity ↔
    c.Grants C t.db resourceID identity ∧ ¬ c.Uses removal := by
  cases removal with
  | group groupID => exact grants_deleteGroupRows
  | member groupID userID => exact grants_removeMemberRow
  | rule ruleID => exact grants_deleteAccessRule
  | user userID =>
      refine grants_deleteUser (fun gm hgm => (List.mem_filter.mp hgm).1) fun gm hgm hne => ?_
      exact List.mem_filter.mpr ⟨hgm, decide_eq_true hne⟩
  | resource resourceID => exact grants_deleteResource

theorem grants_handle (hreq : req ∈ removal.routes) (hok : (handle C env t req).outcome = .ok) :
    c.Grants C (handle C env t req).tables.db resourceID identity ↔
      c.Grants C t.db resourceID identity ∧ ¬ c.Uses removal := by
  rcases handle_removal hreq hok with heq | ⟨userID, rfl, heq⟩
  · rw [heq]
    exact grants_removed
  · rw [heq]
    exact grants_deleteUser (fun gm hgm => hgm) fun gm hgm _ => hgm

theorem flatMap_filter_of_nil {α β : Type} {f : α → List β} {p : α → Bool} :
    ∀ {l : List α}, (∀ x ∈ l, p x = false → f x = []) → (l.filter p).flatMap f = l.flatMap f
  | [], _ => rfl
  | x :: l, h => by
      obtain ⟨hx, hl⟩ := List.forall_mem_cons.mp h
      rw [List.filter_cons]
      cases hp : p x with
      | true => rw [if_pos rfl, List.flatMap_cons, List.flatMap_cons, flatMap_filter_of_nil hl]
      | false =>
          rw [if_neg Bool.false_ne_true, List.flatMap_cons, hx hp, List.nil_append,
            flatMap_filter_of_nil hl]

/-- Memberships of a user who has no row are no part of the join. -/
theorem usersGranted_withoutMembers (db : Database) (userID resourceID : String) :
    usersGranted { db with
      userGroupMembers := db.userGroupMembers.filter fun gm => gm.userId ≠ userID
      users := db.users.filter fun u => u.id ≠ userID } resourceID =
    usersGranted { db with users := db.users.filter fun u => u.id ≠ userID } resourceID := by
  simp only [usersGranted, Table.filter]
  refine List.flatMap_congr fun ar _ => List.flatMap_congr fun arg _ => ?_
  rw [List.filter_comm]
  refine flatMap_filter_of_nil fun gm _ hgm => ?_
  rw [decide_eq_false_iff_not, not_not] at hgm
  rw [List.filter_filter, List.filter_eq_nil_iff]
  intro u _
  simp [hgm]

theorem mem_policyResources {networkID : String} {p : PolicyResource} :
    p ∈ policyResources C db networkID ↔
      ∃ row ∈ db.resources.rows, row.remoteNetworkId = networkID ∧ policyResource C db row = p := by
  simp only [policyResources, List.mem_map, List.mem_insertionSort, List.mem_filter,
    decide_eq_true_eq, and_assoc]

theorem policyResources_congr {db db' : Database} (hresources : db'.resources = db.resources)
    (hgranted : ∀ id, usersGranted db' id = usersGranted db id) (networkID : String) :
    policyResources C db' networkID = policyResources C db networkID := by
  unfold policyResources
  rw [hresources]
  exact List.map_congr_left fun row _ => policyResource_congr (hgranted row.id)

/-- Every route leaves the same to be compiled. -/
theorem policyResources_handle (hreq : req ∈ removal.routes)
    (hok : (handle C env t req).outcome = .ok) (networkID : String) :
    policyResources C (handle C env t req).tables.db networkID =
      policyResources C (removed t removal) networkID := by
  rcases handle_removal hreq hok with heq | ⟨userID, rfl, heq⟩
  · rw [heq]
  · rw [heq]
    refine policyResources_congr ?_ ?_ networkID
    · rfl
    · exact fun id => (usersGranted_withoutMembers t.db userID id).symm

/-- Only the removal of a resource takes a row of the resources. -/
theorem mem_resources_removed {row : ResourceRow} :
    row ∈ (removed t removal).resources.rows ↔
      row ∈ t.db.resources.rows ∧ removal ≠ .resource row.id := by
  cases removal with
  | resource resourceID =>
      have hne : Removal.resource resourceID ≠ .resource row.id ↔ row.id ≠ resourceID := by
        rw [ne_eq, Removal.resource.injEq, eq_comm]
      rw [hne]
      show row ∈ (t.db.resources.filter fun r => r.id ≠ resourceID).rows ↔ _
      simp only [Table.filter, List.mem_filter, decide_eq_true_eq]
  | group | member | rule | user =>
      exact (and_iff_left (by intro heq; cases heq)).symm

end Requests

/-- **A removal takes away the access that went through what is removed, and no other.**
After a successful removal, by any of its routes, the identities compiled for each remaining
resource are those that some chain granted before without using the object removed; every
resource but a removed one is still compiled for its network; and the routes of one removal
compile to the same. -/
theorem removal_exact (C : Libraries) (env : Env) (t : Tables) (removal : Removal)
    (req : PolicyRequest) (hreq : req ∈ removal.routes)
    (hok : (handle C env t req).outcome = .ok) :
    (∀ networkID, ∀ p ∈ policyResources C (handle C env t req).tables.db networkID, ∀ identity,
      identity ∈ p.allowedIdentities ↔ identity ≠ "" ∧
        ∃ c : Chain, c.Grants C t.db p.resourceId identity ∧ ¬ c.Uses removal) ∧
    (∀ row ∈ t.db.resources.rows, removal ≠ .resource row.id →
      ∃ p ∈ policyResources C (handle C env t req).tables.db row.remoteNetworkId,
        p.resourceId = row.id) ∧
    ∀ env' req', req' ∈ removal.routes → (handle C env' t req').outcome = .ok → ∀ networkID,
      policyResources C (handle C env' t req').tables.db networkID =
        policyResources C (handle C env t req).tables.db networkID := by
  refine ⟨fun networkID p hp identity => ?_, fun row hrow hkept => ?_,
    fun env' req' hreq' hok' networkID => ?_⟩
  · obtain ⟨row, -, rfl⟩ := List.mem_map.mp hp
    refine mem_resourceIdentities_iff_chain.trans (and_congr_right fun _ => ?_)
    exact exists_congr fun c => grants_handle hreq hok
  · rw [policyResources_handle hreq hok]
    have hcompiled := mem_resources_removed.mpr ⟨hrow, hkept⟩
    exact ⟨_, mem_policyResources.mpr ⟨row, hcompiled, rfl, rfl⟩, rfl⟩
  · rw [policyResources_handle hreq' hok', policyResources_handle hreq hok]

/-- A user who reaches the resource through two groups of one rule. -/
def twoGroups : Tables where
  db := { ampersandDatabase with
    accessRuleGroups := ⟨[⟨"rule_1", "grp_1"⟩, ⟨"rule_1", "grp_2"⟩], by decide⟩
    userGroupMembers := ⟨[⟨"usr_1", "grp_1"⟩, ⟨"usr_1", "grp_2"⟩], by decide⟩ }
  userGroups := ∅
  remoteNetworks := ∅

/-- One of the groups is deleted: the other one is still a way. -/
theorem deletedGroup_leaves_other :
    (policyResources ampersandController
      (handle ampersandController ⟨false, ""⟩ twoGroups (.uiDeleteGroup "grp_1")).tables.db
      "net_1").length = 1 ∧
    ∀ p ∈ policyResources ampersandController
      (handle ampersandController ⟨false, ""⟩ twoGroups (.uiDeleteGroup "grp_1")).tables.db "net_1",
      "identity-1" ∈ p.allowedIdentities := by
  refine ⟨by rw [policyResources, List.length_map, List.length_insertionSort]; decide, ?_⟩
  intro p hp
  refine ((removal_exact ampersandController ⟨false, ""⟩ twoGroups (.group "grp_1")
    (.uiDeleteGroup "grp_1") (by simp [Removal.routes]) rfl).1 "net_1" p hp "identity-1").mpr ?_
  obtain ⟨row, hrow, rfl⟩ := List.mem_map.mp hp
  obtain rfl := List.mem_singleton.mp (List.mem_filter.mp ((List.mem_insertionSort _).mp hrow)).1
  refine ⟨by decide, ⟨⟨"rule_1", "res_1", 1⟩, ⟨"rule_1", "grp_2"⟩, ⟨"usr_1", "grp_2"⟩,
    ⟨"usr_1", "Active", some "identity-1"⟩⟩, ?_, by decide⟩
  exact ⟨by decide, by decide, by decide, by decide, rfl, rfl, rfl, rfl, rfl, rfl, rfl⟩

end ZeroTrust.Admin.Removals
