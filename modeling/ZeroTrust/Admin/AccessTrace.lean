/-
# `ZeroTrust.Admin.AccessTrace` — what the diagnostics say about an access path

`handleUIDiagnosticsTrace` (`ui_diagnostics.go`) tells an administrator whether a user
reaches a resource, and through which group and rule.  The policy compiler decides it
with a join of five tables (`policy_snapshot.go`), the handler with loops over rows it
fetches one table at a time:

                         handler                      compiler
    rule                 enabled ≠ 0                  enabled = 1
    group                a row of `user_groups`       —
    user                 —                            active, whatever the case
    identity             —                            not NULL, not empty
    whose                this user                    any user with the identity

They answer alike in a state iff none of the differences shows in it (`Exact`).  A
difference in one row can be made up for by another row: a second rule, a second group,
or another user with the same identity.

    `allowed_loop`        what the loop over the rules finds
    `reportsAllowed_iff`  the handler's answer
    `compiles_iff`        the compiler's answer
-/
import ZeroTrust.Admin.PolicyNotifications

namespace ZeroTrust.Admin.AccessTrace

open Lib
open Controller
open PolicyRequests (Tables UserGroupRow)
open PolicyNotifications (Active mem_resourceIdentities)
open ControlPlane (ampersandController)

/-! ## The handler -/

/-- Columns that only the handler reads, by primary key, and the stream checker. -/
structure Labels where
  userName : String → String
  resourceName : String → String
  ruleName : String → String
  /-- Name and status. -/
  connector : String → String × String
  isStreamActive : Option (String → Bool)

structure SimpleRule where
  id : String
  name : String
  enabled : Bool

structure TraceHop where
  type : String
  id : String
  name : String
  status : String
  healthy : Bool

structure TraceReply where
  allowed : Bool
  reason : String
  path : List TraceHop
  /-- Id and name. -/
  userGroups : List (String × String)
  matchedRules : List SimpleRule

section Handler

variable (unicode : UnicodeData) (labels : Labels) (t : Tables)

/-- `SELECT ug.id, ug.name FROM user_group_members ugm JOIN user_groups ug …`. -/
def fetchUserGroups (userID : String) : List (String × String) :=
  (t.db.userGroupMembers.rows.filter fun gm => gm.userId = userID).filterMap fun gm =>
    (t.userGroups.get gm.groupId).map fun ug => (ug.id, ug.name)

/-- `SELECT group_id FROM access_rule_groups WHERE rule_id = ?`. -/
def fetchRuleGroups (ruleID : String) : List String :=
  (t.db.accessRuleGroups.rows.filter fun arg => arg.ruleId = ruleID).map
    AccessRuleGroupRow.groupId

/-- The variables that the loop over the rules assigns. -/
structure Found where
  allowed : Bool
  matchedGroupName : String
  matchedRuleName : String
  matchedRulesOut : List SimpleRule

/-- One turn of the loop; `userGroupIDs` maps the ids of the user's groups to names. -/
def matchRule (userGroupIDs : List (String × String)) (found : Found) (rule : AccessRuleRow) :
    Found :=
  if rule.enabled = 0 then found
  else
    match (fetchRuleGroups t rule.id).findSome? (userGroupIDs.lookup ·) with
    | some gname =>
        { allowed := true
          matchedGroupName := gname
          matchedRuleName := labels.ruleName rule.id
          matchedRulesOut := found.matchedRulesOut ++
            [{ id := rule.id, name := labels.ruleName rule.id, enabled := true }] }
    | none => found

def determineAccess (userGroupIDs : List (String × String)) (allRules : List AccessRuleRow) :
    Found :=
  allRules.foldl (matchRule labels t userGroupIDs)
    { allowed := false, matchedGroupName := "", matchedRuleName := "", matchedRulesOut := [] }

def reason (found : Found) (allRules : List AccessRuleRow) : String :=
  if found.allowed then
    "Group '" ++ found.matchedGroupName ++ "' has access via rule '" ++ found.matchedRuleName ++ "'"
  else if allRules ≠ [] then "User is not in any group that has access to this resource"
  else "No matching access rules found"

/-- The remote network of the resource and one of its connectors that are online. -/
def networkHops (networkID : String) : List TraceHop :=
  if networkID = "" then []
  else
    ((t.remoteNetworks.get networkID).toList.map fun rn =>
      { type := "remote_network", id := networkID, name := rn.name, status := "active",
        healthy := true }) ++
    ((t.db.connectors.rows.filter fun c =>
        c.remoteNetworkId = networkID ∧ (labels.connector c.id).2 = "online").take 1).map fun c =>
      { type := "connector", id := c.id, name := (labels.connector c.id).1,
        status := (labels.connector c.id).2,
        healthy := labels.isStreamActive.any fun active => active c.id }

/-- `POST /api/diagnostics/trace`. -/
def handleUIDiagnosticsTrace (userID resourceID : String) : Except (Nat × String) TraceReply :=
  if userID = "" ∨ resourceID = "" then .error (400, "userId and resourceId are required")
  else
    match t.db.users.get userID with
    | none => .error (404, "user not found")
    | some user =>
        let userGroups := fetchUserGroups t userID
        match t.db.resources.get resourceID with
        | none => .error (404, "resource not found")
        | some resource =>
            let allRules := t.db.accessRules.rows.filter fun ar => ar.resourceId = resourceID
            let found := determineAccess labels t userGroups allRules
            let userStatus := unicode.stringsToLower user.status
            .ok {
              allowed := found.allowed
              reason := reason found allRules
              path :=
                { type := "user", id := userID, name := labels.userName userID,
                  status := userStatus, healthy := userStatus = "active" } ::
                ((userGroups.take 1).map fun g =>
                  { type := "group", id := g.1, name := g.2, status := "member",
                    healthy := true }) ++
                { type := "resource", id := resourceID, name := labels.resourceName resourceID,
                  status := if found.allowed then "allowed" else "denied",
                  healthy := found.allowed } ::
                networkHops labels t resource.remoteNetworkId
              userGroups := userGroups
              matchedRules := found.matchedRulesOut }

/-- The endpoint reports that the user is allowed. -/
def ReportsAllowed (userID resourceID : String) : Prop :=
  ∃ reply, handleUIDiagnosticsTrace unicode labels t userID resourceID = .ok reply ∧
    reply.allowed = true

end Handler

/-- The user's identity is among those that are compiled for the resource. -/
def Compiles (C : Libraries) (db : Database) (u : UserRow) (row : ResourceRow) : Prop :=
  ∃ r ∈ policyResources C db row.remoteNetworkId, r.resourceId = row.id ∧
    ∃ i, u.certificateIdentity = some i ∧ i ∈ r.allowedIdentities

/-! ## The rows behind the two answers -/

/-- The user is in a group of a rule of the resource, with the rule and the group as asked. -/
def InGroupOf (db : Database) (userID resourceID : String) (rule : AccessRuleRow → Prop)
    (group : String → Prop) : Prop :=
  ∃ ar ∈ db.accessRules.rows, ar.resourceId = resourceID ∧ rule ar ∧
    ∃ groupID, ⟨ar.id, groupID⟩ ∈ db.accessRuleGroups.rows ∧
      ⟨userID, groupID⟩ ∈ db.userGroupMembers.rows ∧ group groupID

/-- In an existing group of a rule that is not switched off; a request must name both. -/
def Traced (t : Tables) (userID resourceID : String) : Prop :=
  (userID ≠ "" ∧ resourceID ≠ "") ∧
    InGroupOf t.db userID resourceID (fun ar => ar.enabled ≠ 0)
      fun groupID => t.userGroups.get groupID ≠ none

/-- In a group of a rule with `enabled = 1`. -/
def Granted (db : Database) (userID resourceID : String) : Prop :=
  InGroupOf db userID resourceID (fun ar => ar.enabled = 1) fun _ => True

/-- Active, and with an identity of its own right. -/
def Entitled (C : Libraries) (db : Database) (u : UserRow) (resourceID : String) : Prop :=
  Active C u ∧ u.certificateIdentity ≠ none ∧ u.certificateIdentity ≠ some "" ∧
    Granted db u.id resourceID

/-- Another user with the same identity is entitled. -/
def Borrows (C : Libraries) (db : Database) (u : UserRow) (resourceID : String) : Prop :=
  ∃ other ∈ db.users.rows, other.id ≠ u.id ∧
    other.certificateIdentity = u.certificateIdentity ∧ Entitled C db other resourceID

/-- None of the differences between handler and compiler shows. -/
structure Exact (C : Libraries) (t : Tables) (u : UserRow) (resourceID : String) : Prop where
  /-- Who is in an existing group of a rule that is not switched off is active, has an
  identity and is in a group of a rule with `enabled = 1`, or borrows the identity of
  somebody who is and does. -/
  entitled : Traced t u.id resourceID → Entitled C t.db u resourceID ∨ Borrows C t.db u resourceID
  /-- Who is entitled is so through groups that exist. -/
  grounded : Entitled C t.db u resourceID → Traced t u.id resourceID
  /-- Who is not in such a group has an identity of its own. -/
  unshared : Borrows C t.db u resourceID → Traced t u.id resourceID

/-! ## The handler's answer -/

section Answers

variable {unicode : UnicodeData} {labels : Labels} {t : Tables}

theorem lookup_ne_none {groups : List (String × String)} {groupID : String} :
    groups.lookup groupID ≠ none ↔ ∃ g ∈ groups, g.1 = groupID := by
  rw [← Option.isSome_iff_ne_none, List.lookup_isSome_iff]
  simp only [beq_iff_eq]
  exact exists_congr fun g => and_congr_right fun _ => eq_comm

/-- The user's groups that exist. -/
theorem lookup_fetchUserGroups {userID groupID : String} :
    (fetchUserGroups t userID).lookup groupID ≠ none ↔
      ⟨userID, groupID⟩ ∈ t.db.userGroupMembers.rows ∧ t.userGroups.get groupID ≠ none := by
  rw [lookup_ne_none]
  constructor
  · rintro ⟨g, hg, rfl⟩
    simp only [fetchUserGroups, List.mem_filterMap, List.mem_filter, decide_eq_true_eq,
      Option.map_eq_some_iff] at hg
    obtain ⟨gm, ⟨hgm, rfl⟩, ug, hug, rfl⟩ := hg
    have hid : ug.id = gm.groupId := (Table.mem_of_get hug).2
    rw [hid, hug]
    exact ⟨hgm, Option.some_ne_none _⟩
  · rintro ⟨hgm, hgroup⟩
    obtain ⟨ug, hug⟩ := Option.ne_none_iff_exists'.mp hgroup
    refine ⟨(ug.id, ug.name), ?_, (Table.mem_of_get hug).2⟩
    simp only [fetchUserGroups, List.mem_filterMap, List.mem_filter, decide_eq_true_eq]
    exact ⟨⟨userID, groupID⟩, ⟨hgm, rfl⟩, by rw [hug]; rfl⟩

/-- The rule is not switched off and has one of the user's groups. -/
def Matches (t : Tables) (userGroupIDs : List (String × String)) (rule : AccessRuleRow) : Prop :=
  rule.enabled ≠ 0 ∧ ∃ groupID ∈ fetchRuleGroups t rule.id, userGroupIDs.lookup groupID ≠ none

theorem allowed_matchRule {userGroupIDs : List (String × String)} {found : Found}
    {rule : AccessRuleRow} :
    (matchRule labels t userGroupIDs found rule).allowed = true ↔
      found.allowed = true ∨ Matches t userGroupIDs rule := by
  unfold matchRule Matches
  by_cases henabled : rule.enabled = 0
  · simp [henabled]
  · rw [if_neg henabled]
    split
    next gname hfound =>
      obtain ⟨groupID, hmem, hlookup⟩ := List.exists_of_findSome?_eq_some hfound
      refine iff_of_true rfl (Or.inr ⟨henabled, groupID, hmem, ?_⟩)
      rw [hlookup]
      exact Option.some_ne_none _
    next hnone =>
      rw [List.findSome?_eq_none_iff] at hnone
      refine (or_iff_left ?_).symm
      rintro ⟨-, groupID, hmem, hlookup⟩
      exact hlookup (hnone groupID hmem)

/-- What the loop over the rules finds, by induction on the rules with the variables as
the loop left them. -/
theorem allowed_loop {userGroupIDs : List (String × String)} {allRules : List AccessRuleRow}
    {found : Found} :
    (allRules.foldl (matchRule labels t userGroupIDs) found).allowed = true ↔
      found.allowed = true ∨ ∃ rule ∈ allRules, Matches t userGroupIDs rule := by
  induction allRules generalizing found with
  | nil => simp
  | cons rule allRules ih =>
      rw [List.foldl_cons, ih, allowed_matchRule, or_assoc]
      simp

theorem reportsAllowed_iff {u : UserRow} {row : ResourceRow} (hu : u ∈ t.db.users.rows)
    (hrow : row ∈ t.db.resources.rows) :
    ReportsAllowed unicode labels t u.id row.id ↔ Traced t u.id row.id := by
  by_cases hempty : u.id = "" ∨ row.id = ""
  · have hnamed : ¬ (u.id ≠ "" ∧ row.id ≠ "") := by tauto
    simp [ReportsAllowed, handleUIDiagnosticsTrace, Traced, hempty, hnamed]
  · have hnamed : u.id ≠ "" ∧ row.id ≠ "" := by tauto
    have hreply : ∃ reply, handleUIDiagnosticsTrace unicode labels t u.id row.id = .ok reply ∧
        reply.allowed = (determineAccess labels t (fetchUserGroups t u.id)
          (t.db.accessRules.rows.filter fun ar => ar.resourceId = row.id)).allowed := by
      unfold handleUIDiagnosticsTrace
      rw [if_neg hempty, Table.get_of_mem hu, Table.get_of_mem hrow]
      exact ⟨_, rfl, rfl⟩
    obtain ⟨reply, hok, hallowed⟩ := hreply
    simp only [ReportsAllowed, hok, Except.ok.injEq, exists_eq_left', hallowed, determineAccess,
      allowed_loop, Bool.false_eq_true, false_or, Traced, hnamed, ne_eq, not_false_eq_true,
      and_self, true_and]
    simp only [Matches, InGroupOf, List.mem_filter, decide_eq_true_eq, lookup_fetchUserGroups,
      fetchRuleGroups, List.mem_map]
    constructor
    · rintro ⟨ar, ⟨har, hres⟩, henabled, _, ⟨⟨ruleID, groupID⟩, ⟨harg, hrule⟩, rfl⟩, hgm, hgroup⟩
      exact ⟨ar, har, hres, henabled, groupID, hrule ▸ harg, hgm, hgroup⟩
    · rintro ⟨ar, har, hres, henabled, groupID, harg, hgm, hgroup⟩
      exact ⟨ar, ⟨har, hres⟩, henabled, groupID, ⟨⟨ar.id, groupID⟩, ⟨harg, rfl⟩, rfl⟩, hgm, hgroup⟩

/-! ## The compiler's answer -/

variable {C : Libraries} {db : Database}

theorem mem_usersGranted {u : UserRow} {resourceID : String} :
    u ∈ usersGranted db resourceID ↔ u ∈ db.users.rows ∧ Granted db u.id resourceID := by
  simp only [usersGranted, Granted, InGroupOf, List.mem_flatMap, List.mem_filter,
    decide_eq_true_eq, and_true]
  constructor
  · rintro ⟨ar, ⟨har, hres, henabled⟩, ⟨ruleID, groupID⟩, ⟨harg, hrule⟩, ⟨userID, groupID'⟩,
      ⟨hgm, hgroup⟩, hu, huser⟩
    obtain rfl : ruleID = ar.id := hrule
    obtain rfl : groupID' = groupID := hgroup
    obtain rfl : u.id = userID := huser
    exact ⟨hu, ar, har, hres, henabled, groupID', harg, hgm⟩
  · rintro ⟨hu, ar, har, hres, henabled, groupID, harg, hgm⟩
    exact ⟨ar, ⟨har, hres, henabled⟩, _, ⟨harg, rfl⟩, _, ⟨hgm, rfl⟩, hu, rfl⟩

theorem mem_resourceIdentities_iff {resourceID i : String} :
    i ∈ resourceIdentities C db resourceID ↔
      ∃ u ∈ db.users.rows, u.certificateIdentity = some i ∧ Entitled C db u resourceID := by
  rw [mem_resourceIdentities]
  constructor
  · rintro ⟨hne, u, hu, hactive, hi⟩
    obtain ⟨hmem, hgranted⟩ := mem_usersGranted.mp hu
    refine ⟨u, hmem, hi, hactive, ?_, ?_, hgranted⟩
    · rw [hi]
      exact Option.some_ne_none _
    · rw [hi]
      exact fun h => hne (Option.some.inj h)
  · rintro ⟨u, hmem, hi, hactive, -, hne, hgranted⟩
    refine ⟨fun h => hne (h ▸ hi), u, mem_usersGranted.mpr ⟨hmem, hgranted⟩, hactive, hi⟩

theorem compiles_iff {u : UserRow} {row : ResourceRow} (hu : u ∈ db.users.rows)
    (hrow : row ∈ db.resources.rows) :
    Compiles C db u row ↔ Entitled C db u row.id ∨ Borrows C db u row.id := by
  have hcompiled : Compiles C db u row ↔
      ∃ i, u.certificateIdentity = some i ∧ i ∈ resourceIdentities C db row.id := by
    unfold Compiles policyResources
    simp only [List.mem_map, List.mem_insertionSort, List.mem_filter, decide_eq_true_eq]
    constructor
    · rintro ⟨_, ⟨row', ⟨-, -⟩, rfl⟩, hid, i, hi, hmem⟩
      exact ⟨i, hi, hid ▸ hmem⟩
    · rintro ⟨i, hi, hmem⟩
      exact ⟨_, ⟨row, ⟨hrow, rfl⟩, rfl⟩, rfl, i, hi, hmem⟩
  rw [hcompiled]
  simp only [mem_resourceIdentities_iff]
  constructor
  · rintro ⟨i, hi, other, hother, hi', hentitled⟩
    by_cases hid : other.id = u.id
    · obtain rfl : other = u :=
        List.inj_on_of_nodup_map db.users.keys_nodup hother hu hid
      exact Or.inl hentitled
    · exact Or.inr ⟨other, hother, hid, hi'.trans hi.symm, hentitled⟩
  · rintro (hentitled | ⟨other, hother, -, hsame, hentitled⟩)
    · obtain ⟨i, hi⟩ := Option.ne_none_iff_exists'.mp hentitled.2.1
      exact ⟨i, hi, u, hu, hi, hentitled⟩
    · obtain ⟨i, hi⟩ := Option.ne_none_iff_exists'.mp hentitled.2.1
      exact ⟨i, hsame ▸ hi, other, hother, hi, hentitled⟩

end Answers

/-- **When the trace tells what the compiler does.** -/
theorem trace_agrees_iff (C : Libraries) (unicode : UnicodeData) (labels : Labels) (t : Tables)
    (u : UserRow) (row : ResourceRow) (hu : u ∈ t.db.users.rows)
    (hrow : row ∈ t.db.resources.rows) :
    (ReportsAllowed unicode labels t u.id row.id ↔ Compiles C t.db u row) ↔
      Exact C t u row.id := by
  rw [reportsAllowed_iff hu hrow, compiles_iff hu hrow]
  constructor
  · intro h
    exact ⟨h.mp, fun he => h.mpr (Or.inl he), fun hb => h.mpr (Or.inr hb)⟩
  · intro h
    refine ⟨h.entitled, ?_⟩
    rintro (he | hb)
    · exact h.grounded he
    · exact h.unshared hb

/-- One user, in the one group of the one rule of a resource. -/
def memberRow (status : String) : UserRow := ⟨"usr_1", status, some "identity-1"⟩

def resourceRow : ResourceRow where
  id := "res_1"
  type := "dns"
  address := "wiki.internal"
  protocol := "TCP"
  portFrom := none
  portTo := none
  remoteNetworkId := "net_1"
  firewallStatus := "unprotected"

def oneMember (status : String) : Tables where
  db := {
    connectors := ∅
    remoteNetworkConnectors := ∅
    resources := .single resourceRow
    accessRules := .single ⟨"rule_1", "res_1", 1⟩
    accessRuleGroups := .single ⟨"rule_1", "grp_1"⟩
    userGroupMembers := .single ⟨"usr_1", "grp_1"⟩
    users := .single (memberRow status)
    connectorPolicyVersions := ∅ }
  userGroups := .single ⟨"grp_1", "Engineering", ""⟩
  remoteNetworks := ∅

def exampleLabels : Labels where
  userName _ := "Ada"
  resourceName _ := "Wiki"
  ruleName _ := "Engineering to Wiki"
  connector _ := ("edge", "online")
  isStreamActive := none

theorem traced_oneMember (status : String) : Traced (oneMember status) "usr_1" "res_1" := by
  refine ⟨⟨by decide, by decide⟩, ⟨"rule_1", "res_1", 1⟩, List.mem_cons_self, rfl, by decide,
    "grp_1", List.mem_cons_self, List.mem_cons_self, ?_⟩
  exact Option.some_ne_none _

/-- An active user: both answers are yes. -/
theorem active_member_agrees :
    ReportsAllowed .ascii exampleLabels (oneMember "Active") "usr_1" "res_1" ↔
      Compiles ampersandController (oneMember "Active").db (memberRow "Active") resourceRow := by
  refine (trace_agrees_iff ampersandController .ascii exampleLabels (oneMember "Active")
    (memberRow "Active") resourceRow List.mem_cons_self List.mem_cons_self).mpr ?_
  have htraced := traced_oneMember "Active"
  refine ⟨fun _ => Or.inl ⟨?_, Option.some_ne_none _, ?_, ?_⟩, fun _ => htraced, fun _ => htraced⟩
  · show ampersandController.sqlLower (sqlTrim "Active") = "active"
    decide
  · decide
  · exact ⟨⟨"rule_1", "res_1", 1⟩, List.mem_cons_self, rfl, rfl, "grp_1", List.mem_cons_self,
      List.mem_cons_self, trivial⟩

/-- A user who was set inactive: the trace says allowed, the policy has no such identity. -/
theorem inactive_member_disagrees :
    ¬ ∀ (C : Libraries) (unicode : UnicodeData) (labels : Labels) (t : Tables) (u : UserRow)
      (row : ResourceRow), u ∈ t.db.users.rows → row ∈ t.db.resources.rows →
      (ReportsAllowed unicode labels t u.id row.id ↔ Compiles C t.db u row) := by
  intro hall
  have hu : memberRow "inactive" ∈ (oneMember "inactive").db.users.rows := List.mem_cons_self
  have hrow : resourceRow ∈ (oneMember "inactive").db.resources.rows := List.mem_cons_self
  have hreports : ReportsAllowed .ascii exampleLabels (oneMember "inactive") "usr_1" "res_1" :=
    (reportsAllowed_iff hu hrow).mpr (traced_oneMember "inactive")
  have hcompiles := (hall ampersandController .ascii exampleLabels _ _ _ hu hrow).mp hreports
  rcases (compiles_iff hu hrow).mp hcompiles with ⟨hactive, -⟩ | ⟨other, hother, hid, -⟩
  · have hlower : ampersandController.sqlLower (sqlTrim "inactive") = "active" := hactive
    exact absurd hlower (by decide)
  · obtain rfl := List.mem_singleton.mp hother
    exact hid rfl

end ZeroTrust.Admin.AccessTrace
