/-
# `ZeroTrust.Admin.DeletedResources` — what a deleted resource leaves behind

Three routes delete resources.  What is kept about who may use a resource is in three tables
and in the ACL store in memory, and each route cleans up some of it:

    DELETE                         rules and   authorizations   ACL store
                                   their groups
    /api/admin/resources/{id}          —             —            yes
    /api/resources/{id}               yes            —             —
    /api/remote-networks/{id}         yes           yes           yes

What is left lets its users in again when a resource with the same id is created, as
`POST /api/admin/resources` allows.  Here all statements take the effect they are written for.

    `network_leavesNothing`   the third route leaves nothing of any resource of the network
    `cleans_iff`              the other two do iff there was nothing that they leave
-/
import ZeroTrust.Admin.Removals
import ZeroTrust.Admin.ErrorReplies

namespace ZeroTrust.Admin.DeletedResources

open Lib
open Controller
open Controller.AclStore (ACLStore AuthorizationRow HttpError)
open ErrorReplies (Store Deletion Handler uiDeleteResource uiDeleteNetwork networkDeletions
  connectorsIn resourcesIn deleteNetworkRow)
open Removals (mem_policyResources mem_resourceIdentities_iff_chain)
open ControlPlane (ampersandController)

/-! ## The routes -/

/-- The database, and the ACL store in memory. -/
structure World where
  store : Store
  acls : ACLStore

inductive Route where
  /-- `DELETE /api/admin/resources/{id}` -/
  | admin (resourceID : String)
  /-- `DELETE /api/resources/{id}` -/
  | ui (resourceID : String)
  /-- `DELETE /api/remote-networks/{id}` -/
  | network (networkID : String)

/-- The statement of `DeleteResourceFromDB`. -/
def adminDeleteResource (resourceID : String) : Handler :=
  ErrorReplies.required (resourceID = "") "resource id required" <|
    Script.execAll [(Deletion.resource resourceID).statement] ErrorReplies.ok

/-- What a handler leaves when nothing fails. -/
def carriedOut (handler : Handler) (s : Store) : Store :=
  (handler.run (fun _ => false) 0 s).2

def World.after (w : World) : Route → World
  | .admin resourceID =>
      { store := carriedOut (adminDeleteResource resourceID) w.store
        acls := if resourceID = "" then w.acls else w.acls.deleteResource resourceID }
  | .ui resourceID => { w with store := carriedOut (uiDeleteResource resourceID) w.store }
  | .network networkID =>
      { store := carriedOut (uiDeleteNetwork networkID) w.store
        acls :=
          if networkID = "" then w.acls
          else (resourcesIn networkID w.store).foldl ACLStore.deleteResource w.acls }

/-- The ids of the resources that the route deletes. -/
def Route.deleted (w : World) : Route → List String
  | .admin resourceID | .ui resourceID => if resourceID = "" then [] else [resourceID]
  | .network networkID => if networkID = "" then [] else resourcesIn networkID w.store

/-! ## What may be left -/

/-- Neither a rule, nor a group of a former rule, nor an authorization of the resource. -/
structure Gone (before s : Store) (resourceID : String) : Prop where
  rules : ∀ ar ∈ s.tables.db.accessRules.rows, ar.resourceId ≠ resourceID
  ruleGroups : ∀ ar ∈ before.tables.db.accessRules.rows, ar.resourceId = resourceID →
    ∀ arg ∈ s.tables.db.accessRuleGroups.rows, arg.ruleId ≠ ar.id
  authorizations : ∀ a ∈ s.authorizations.rows, a.resourceId ≠ resourceID

/-- The ACL store does not know the resource. -/
structure Unknown (acls : ACLStore) (resourceID : String) : Prop where
  resource : ∀ r ∈ acls.resources.rows, r.id ≠ resourceID
  authorizations : ∀ a ∈ acls.authorizations, a.resourceId ≠ resourceID

/-- `POST /api/admin/resources`, with the row that `SaveResourceToDB` writes. -/
def World.postResource (w : World) (res : AclStore.Resource) : Except String World :=
  (w.acls.upsertResource res).map fun acls =>
    let firewallStatus := ((w.store.tables.db.resources.get res.id).map
      ResourceRow.firewallStatus).getD "unprotected"
    let row : ResourceRow :=
      { id := res.id, type := res.type, address := res.address, protocol := res.protocol
        portFrom := res.portFrom, portTo := res.portTo, remoteNetworkId := res.remoteNetworkId
        firewallStatus }
    { acls
      store := { w.store with
        tables.db.resources := w.store.tables.db.resources.put row } }

/-- Nobody is let into the resource, neither by the policy nor by the ACL store. -/
def GrantsNobody (C : Libraries) (w : World) (resourceID : String) : Prop :=
  (∀ networkID, ∀ p ∈ policyResources C w.store.tables.db networkID, p.resourceId = resourceID →
    p.allowedIdentities = []) ∧
  ∀ a ∈ w.acls.authorizations, a.resourceId ≠ resourceID

/-- Nothing is left of any resource that is deleted, and one that is created with its id lets
nobody in. -/
def Cleans (C : Libraries) (w : World) (route : Route) : Prop :=
  ∀ id ∈ route.deleted w,
    Gone w.store (w.after route).store id ∧ Unknown (w.after route).acls id ∧
      ∀ res w', res.id = id → (w.after route).postResource res = .ok w' → GrantsNobody C w' id

/-! ## Deletions only delete -/

section Deletions

variable {before s s' : Store} {d : Deletion} {ds : List Deletion} {resourceID networkID : String}

/-- The three tables have no row in `s'` that they do not have in `s`. -/
structure Less (s' s : Store) : Prop where
  rules : s'.tables.db.accessRules.rows ⊆ s.tables.db.accessRules.rows
  ruleGroups : s'.tables.db.accessRuleGroups.rows ⊆ s.tables.db.accessRuleGroups.rows
  authorizations : s'.authorizations.rows ⊆ s.authorizations.rows

theorem Less.refl (s : Store) : Less s s :=
  ⟨List.Subset.refl _, List.Subset.refl _, List.Subset.refl _⟩

theorem Less.trans {s'' : Store} (h : Less s'' s') (h' : Less s' s) : Less s'' s :=
  ⟨List.Subset.trans h.rules h'.rules, List.Subset.trans h.ruleGroups h'.ruleGroups,
    List.Subset.trans h.authorizations h'.authorizations⟩

theorem less_apply : Less (d.apply s) s := by
  cases d with
  | ruleGroupsOf resourceID => exact { Less.refl s with ruleGroups := List.filter_subset_self _ }
  | rulesOf resourceID => exact { Less.refl s with rules := List.filter_subset_self _ }
  | authorizationsOf resourceID =>
      exact { Less.refl s with authorizations := List.filter_subset_self _ }
  | _ => exact ⟨(Less.refl s).rules, (Less.refl s).ruleGroups, (Less.refl s).authorizations⟩

theorem less_foldl : Less (ds.foldl Deletion.apply s) s := by
  induction ds generalizing s with
  | nil => exact Less.refl s
  | cons d ds ih => exact ih.trans less_apply

theorem Gone.of_less (h : Gone before s resourceID) (hless : Less s' s) :
    Gone before s' resourceID where
  rules ar har := h.rules ar (hless.rules har)
  ruleGroups ar har hresource arg harg := h.ruleGroups ar har hresource arg (hless.ruleGroups harg)
  authorizations a ha := h.authorizations a (hless.authorizations ha)

/-- The rules of the resource are all still there. -/
def RulesKept (before s : Store) (resourceID : String) : Prop :=
  ∀ ar ∈ before.tables.db.accessRules.rows, ar.resourceId = resourceID →
    ar ∈ s.tables.db.accessRules.rows

/-- What is deleted for each resource of a network. -/
def ofResource (resourceID : String) : List Deletion :=
  [.ruleGroupsOf resourceID, .rulesOf resourceID, .authorizationsOf resourceID]

theorem notMem_ruleGroupsOf (h : RulesKept before s resourceID) {ar : AccessRuleRow}
    (har : ar ∈ before.tables.db.accessRules.rows) (hresource : ar.resourceId = resourceID)
    {arg : AccessRuleGroupRow}
    (harg : arg ∈ ((Deletion.ruleGroupsOf resourceID).apply s).tables.db.accessRuleGroups.rows) :
    arg.ruleId ≠ ar.id := by
  intro heq
  have hnone := (List.mem_filter.mp harg).2
  have hsome : Deletion.ofResource s.tables.db resourceID arg = true := by
    rw [Deletion.ofResource, List.any_eq_true]
    exact ⟨ar, h ar har hresource, by simp [hresource, heq]⟩
  rw [hsome] at hnone
  cases hnone

theorem gone_ofResource (h : RulesKept before s resourceID) :
    Gone before ((ofResource resourceID).foldl Deletion.apply s) resourceID where
  rules _ har := of_decide_eq_true (List.mem_filter.mp har).2
  ruleGroups _ har hresource _ harg := notMem_ruleGroupsOf h har hresource harg
  authorizations _ ha := of_decide_eq_true (List.mem_filter.mp ha).2

theorem RulesKept.ofResource {other : String} (h : RulesKept before s resourceID)
    (hne : other ≠ resourceID) :
    RulesKept before ((ofResource other).foldl Deletion.apply s) resourceID := by
  rintro ar har rfl
  exact List.mem_filter.mpr ⟨h ar har rfl, decide_eq_true hne.symm⟩

/-- The resources of a network one after the other: the rules of each are there until its turn
comes, so that their groups are found. -/
theorem gone_flatMap {resourceIDs : List String} (hmem : resourceID ∈ resourceIDs)
    (h : RulesKept before s resourceID) :
    Gone before ((resourceIDs.flatMap ofResource).foldl Deletion.apply s) resourceID := by
  induction resourceIDs generalizing s with
  | nil => cases hmem
  | cons other resourceIDs ih =>
      rw [List.flatMap_cons, List.foldl_append]
      by_cases heq : other = resourceID
      · subst heq
        exact (gone_ofResource h).of_less less_foldl
      · have hrest : resourceID ∈ resourceIDs := List.mem_of_ne_of_mem (Ne.symm heq) hmem
        exact ih hrest (h.ofResource heq)

theorem afterAll_statements {n : Nat} :
    Script.afterAll (fun _ => false) n (ds.map Deletion.statement) s =
      ds.foldl Deletion.apply s := by
  induction ds generalizing n s with
  | nil => rfl
  | cons d ds ih => exact ih

theorem networkDeletions_eq (networkID : String) (connectorIDs resourceIDs : List String) :
    ∃ rest, networkDeletions networkID connectorIDs resourceIDs =
      resourceIDs.flatMap ofResource ++ rest := by
  rw [networkDeletions]
  simp only [List.append_assoc]
  exact ⟨_, rfl⟩

theorem less_deleteNetworkRow {n : Nat} {e : HttpError} :
    Less ((Script.checked e (deleteNetworkRow networkID) ErrorReplies.ok).run
      (fun _ => false) n s).2 s :=
  ⟨List.Subset.refl _, List.Subset.refl _, List.Subset.refl _⟩

theorem less_deleteNetwork (hne : networkID ≠ "") :
    Less (carriedOut (uiDeleteNetwork networkID) s)
      (((resourcesIn networkID s).flatMap ofResource).foldl Deletion.apply s) := by
  obtain ⟨rest, hrest⟩ :=
    networkDeletions_eq networkID (connectorsIn networkID s) (resourcesIn networkID s)
  have hrow : Less (carriedOut (uiDeleteNetwork networkID) s)
      ((networkDeletions networkID (connectorsIn networkID s)
        (resourcesIn networkID s)).foldl Deletion.apply s) := by
    rw [carriedOut, uiDeleteNetwork, ErrorReplies.required, if_neg hne]
    simp only [Script.run, Script.run_execAll, afterAll_statements]
    exact less_deleteNetworkRow
  refine hrow.trans ?_
  rw [hrest, List.foldl_append]
  exact less_foldl

/-- **The deletion of a network leaves nothing of its resources.** -/
theorem network_leavesNothing (hne : networkID ≠ "") (hmem : resourceID ∈ resourcesIn networkID s) :
    Gone s (carriedOut (uiDeleteNetwork networkID) s) resourceID :=
  (gone_flatMap hmem fun _ har _ => har).of_less (less_deleteNetwork hne)

end Deletions

/-! ## When a route cleans up -/

section Routes

variable {C : Libraries} {w w' : World} {resourceID networkID : String}

/-- No row of the resource in `authorizations`. -/
def NoAuthorizations (s : Store) (resourceID : String) : Prop :=
  ∀ a ∈ s.authorizations.rows, a.resourceId ≠ resourceID

def NoRules (s : Store) (resourceID : String) : Prop :=
  ∀ ar ∈ s.tables.db.accessRules.rows, ar.resourceId ≠ resourceID

theorem unknown_deleteResource (acls : ACLStore) :
    Unknown (acls.deleteResource resourceID) resourceID where
  resource _ hr := of_decide_eq_true (List.mem_filter.mp hr).2
  authorizations _ ha := of_decide_eq_true (List.mem_filter.mp ha).2

theorem Unknown.deleteResource {acls : ACLStore} (h : Unknown acls resourceID) (other : String) :
    Unknown (acls.deleteResource other) resourceID where
  resource r hr := h.resource r (List.mem_filter.mp hr).1
  authorizations a ha := h.authorizations a (List.mem_filter.mp ha).1

theorem Unknown.foldl {acls : ACLStore} (h : Unknown acls resourceID) (resourceIDs : List String) :
    Unknown (resourceIDs.foldl ACLStore.deleteResource acls) resourceID := by
  induction resourceIDs generalizing acls with
  | nil => exact h
  | cons other resourceIDs ih => exact ih (h.deleteResource other)

theorem unknown_foldl {acls : ACLStore} {resourceIDs : List String}
    (hmem : resourceID ∈ resourceIDs) :
    Unknown (resourceIDs.foldl ACLStore.deleteResource acls) resourceID := by
  obtain ⟨first, last, rfl⟩ := List.append_of_mem hmem
  rw [List.foldl_append, List.foldl_cons]
  exact (unknown_deleteResource _).foldl last

/-- A resource of which nothing is left lets nobody in when it is created again. -/
theorem grantsNobody_of_gone {before : Store} (hgone : Gone before w.store resourceID)
    (hunknown : Unknown w.acls resourceID) {res : AclStore.Resource}
    (hpost : w.postResource res = .ok w') : GrantsNobody C w' resourceID := by
  rw [World.postResource, ACLStore.upsertResource] at hpost
  split at hpost
  · cases hpost
  · obtain rfl := Except.ok.inj hpost
    refine ⟨fun networkID p hp hp' => ?_, hunknown.authorizations⟩
    obtain ⟨row, -, -, rfl⟩ := mem_policyResources.mp hp
    refine List.eq_nil_iff_forall_not_mem.mpr fun i hi => ?_
    obtain ⟨-, c, hc⟩ := mem_resourceIdentities_iff_chain.mp hi
    exact hgone.rules c.rule hc.rule (hc.resource.trans hp')

/-- What is created later need not be looked at. -/
theorem cleans_iff_gone {route : Route} :
    Cleans C w route ↔ ∀ id ∈ route.deleted w,
      Gone w.store (w.after route).store id ∧ Unknown (w.after route).acls id := by
  constructor
  · intro h id hid
    exact ⟨(h id hid).1, (h id hid).2.1⟩
  · intro h id hid
    obtain ⟨hgone, hunknown⟩ := h id hid
    exact ⟨hgone, hunknown, fun res w' hres hpost =>
      grantsNobody_of_gone hgone hunknown hpost⟩

theorem gone_admin (hne : resourceID ≠ "") :
    Gone w.store (w.after (.admin resourceID)).store resourceID ↔
      NoRules w.store resourceID ∧ NoAuthorizations w.store resourceID := by
  have hstore : (w.after (.admin resourceID)).store =
      (Deletion.resource resourceID).apply w.store := by
    rw [World.after, carriedOut, adminDeleteResource, ErrorReplies.required, if_neg hne]
    rfl
  rw [hstore]
  constructor
  · intro h
    exact ⟨h.rules, h.authorizations⟩
  · rintro ⟨hrules, hauthorizations⟩
    exact ⟨hrules, fun ar har hresource => absurd hresource (hrules ar har), hauthorizations⟩

theorem gone_ui (hne : resourceID ≠ "") :
    Gone w.store (w.after (.ui resourceID)).store resourceID ↔
      NoAuthorizations w.store resourceID := by
  have hstore : (w.after (.ui resourceID)).store =
      [Deletion.ruleGroupsOf resourceID, .rulesOf resourceID, .resource resourceID].foldl
        Deletion.apply w.store := by
    rw [World.after, carriedOut, uiDeleteResource, ErrorReplies.required, if_neg hne]
    rfl
  rw [hstore]
  constructor
  · exact fun h => h.authorizations
  · intro h
    refine ⟨fun _ har => of_decide_eq_true (List.mem_filter.mp har).2, ?_, h⟩
    exact fun _ har hresource _ harg => notMem_ruleGroupsOf (fun _ har _ => har) har hresource harg

/-- What must not have been there. -/
def Clear (w : World) : Route → Prop
  | .admin resourceID =>
      resourceID = "" ∨ NoRules w.store resourceID ∧ NoAuthorizations w.store resourceID
  | .ui resourceID =>
      resourceID = "" ∨ NoAuthorizations w.store resourceID ∧ Unknown w.acls resourceID
  | .network _ => True

/-- **Which deletions leave no grants behind.** -/
theorem cleans_iff (C : Libraries) (w : World) (route : Route) :
    Cleans C w route ↔ Clear w route := by
  rw [cleans_iff_gone]
  cases route with
  | admin resourceID =>
      by_cases hempty : resourceID = ""
      · simp [Route.deleted, Clear, hempty]
      · have hacls : Unknown (w.after (.admin resourceID)).acls resourceID := by
          rw [World.after, if_neg hempty]
          exact unknown_deleteResource w.acls
        simp [Route.deleted, Clear, hempty, gone_admin hempty, hacls]
  | ui resourceID =>
      by_cases hempty : resourceID = ""
      · simp [Route.deleted, Clear, hempty]
      · have hacls : (w.after (.ui resourceID)).acls = w.acls := rfl
        simp [Route.deleted, Clear, hempty, gone_ui hempty, hacls]
  | network networkID =>
      refine iff_of_true (fun id hid => ?_) trivial
      by_cases hempty : networkID = ""
      · rw [Route.deleted, if_pos hempty] at hid
        cases hid
      · rw [Route.deleted, if_neg hempty] at hid
        refine ⟨network_leavesNothing hempty hid, ?_⟩
        rw [World.after, if_neg hempty]
        exact unknown_foldl hid

end Routes

/-- A resource with a rule and an assigned principal. -/
def grantedResource : World where
  store :=
    { tables :=
        { db :=
            { connectors := ∅, remoteNetworkConnectors := ∅, connectorPolicyVersions := ∅
              resources := Table.single ⟨"res_1", "dns", "wiki.internal", "TCP", none, none,
                "net_1", "unprotected"⟩
              accessRules := Table.single ⟨"rule_1", "res_1", 1⟩
              accessRuleGroups := Table.single ⟨"rule_1", "grp_1"⟩
              userGroupMembers := Table.single ⟨"usr_1", "grp_1"⟩
              users := Table.single ⟨"usr_1", "Active", some "identity-1"⟩ }
          userGroups := Table.single ⟨"grp_1", "Engineering", ""⟩, remoteNetworks := ∅ }
      authorizations := Table.single ⟨"res_1", "spiffe://acme.io/user/1", "[]"⟩
      workspaces := ∅, members := ∅, invites := ∅ }
  acls :=
    { resources := Table.single ⟨"res_1", "wiki", "dns", "wiki.internal", "TCP", none, none, "",
        "net_1"⟩
      authorizations := [⟨"spiffe://acme.io/user/1", "res_1", []⟩] }

/-- The one route leaves the rule, the other one the authorization. -/
theorem grants_left :
    ¬ Cleans ampersandController grantedResource (.admin "res_1") ∧
      ¬ Cleans ampersandController grantedResource (.ui "res_1") := by
  constructor
  · intro h
    obtain ⟨hgone, -⟩ := h "res_1" List.mem_cons_self
    exact hgone.rules ⟨"rule_1", "res_1", 1⟩ List.mem_cons_self rfl
  · intro h
    obtain ⟨hgone, -⟩ := h "res_1" List.mem_cons_self
    exact hgone.authorizations ⟨"res_1", "spiffe://acme.io/user/1", "[]"⟩ List.mem_cons_self rfl

end ZeroTrust.Admin.DeletedResources
