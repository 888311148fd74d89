/-
# `ZeroTrust.Admin.PolicyNotifications` — is every change of the policy pushed?

What the compiler makes for a connector depends on the database in two ways: on the network
the connector has, and on the resources of that network with the identities allowed on
them.  A request that changes either is to issue a notification before it replies.

    users, groups, members, resources, rules      all notify, except `DELETE /api/users`
    remote networks, assignments, connectors      none does

For a request that does not notify it comes down to whether it changes anything, and that
is said here in terms of the database before it:

    DELETE /api/users             does the user hold an identity on a resource that
                                  nobody else holds?
    the others                    does a connector get another network, or lose its
                                  network, and are there resources in the one or the other?

`notified_iff` puts it together.
-/
import Mathlib.Data.Finset.Image
import Mathlib.Data.Finset.Prod
import ZeroTrust.Admin.PolicyRequests
import ZeroTrust.ControlPlane.SignedBytes

namespace ZeroTrust.Admin.PolicyNotifications

open Lib
open Controller
open PolicyRequests
open ControlPlane (ampersandController ampersandDatabase)

/-! ## What is compiled for a connector -/

/-- A compiled resource, with the identities as a set. -/
def contents (r : PolicyResource) : PolicyResource × Finset String :=
  ({ r with allowedIdentities := [] }, r.allowedIdentities.toFinset)

section Compiled

variable (C : Libraries)

def compiled (db : Database) (connectorId : String) : Finset (PolicyResource × Finset String) :=
  match lookupConnectorNetwork db connectorId with
  | .error _ => ∅
  | .ok networkId => ((policyResources C db networkId).map contents).toFinset

/-- What is compiled changes, for some connector. -/
def Affects (db db' : Database) : Prop := ∃ c, compiled C db c ≠ compiled C db' c

end Compiled

/-! ## The network of a connector -/

section Network

/-- The network the lookup finds. -/
def network (db : Database) (c : String) : Option String :=
  match lookupConnectorNetwork db c with
  | .error _ => none
  | .ok networkId => some networkId

/-- The networks a connector is assigned to, in table order. -/
def assignments (db : Database) (c : String) : List String :=
  (db.remoteNetworkConnectors.rows.filter fun r => r.connectorId = c).map
    RemoteNetworkConnectorRow.networkId

/-- The first of them counts, if it is not blank. -/
def firstNetwork (networks : List String) : Option String :=
  networks.head?.filter fun n => trim n ≠ ""

variable {db db' : Database} {c n : String} {row : ConnectorRow}

theorem network_of_no_row (h : db.connectors.get c = none) : network db c = none := by
  simp only [network, lookupConnectorNetwork, h]

theorem network_of_column (h : db.connectors.get c = some row)
    (hcolumn : trim row.remoteNetworkId ≠ "") :
    network db c = some row.remoteNetworkId := by
  simp only [network, lookupConnectorNetwork, h, if_pos hcolumn]

theorem network_of_blank (h : db.connectors.get c = some row)
    (hcolumn : trim row.remoteNetworkId = "") :
    network db c = firstNetwork (assignments db c) := by
  have hhead : (assignments db c).head? =
      (db.remoteNetworkConnectors.rows.find? fun r => r.connectorId = c).map
        RemoteNetworkConnectorRow.networkId := by
    rw [assignments, List.head?_map, List.head?_filter]
  rw [firstNetwork, hhead]
  simp only [network, lookupConnectorNetwork, h, hcolumn, ne_eq, not_true_eq_false, if_false]
  cases db.remoteNetworkConnectors.rows.find? fun r => r.connectorId = c with
  | none => rfl
  | some assigned =>
      by_cases hblank : trim assigned.networkId = "" <;> simp [hblank, Option.filter]

/-- Connectors with the same row and the same assignments have the same network. -/
theorem network_congr (hrow : db'.connectors.get c = db.connectors.get c)
    (hassigned : assignments db' c = assignments db c) : network db' c = network db c := by
  cases h : db.connectors.get c with
  | none => rw [network_of_no_row h, network_of_no_row (hrow.trans h)]
  | some row =>
      by_cases hcolumn : trim row.remoteNetworkId = ""
      · rw [network_of_blank h hcolumn, network_of_blank (hrow.trans h) hcolumn, hassigned]
      · rw [network_of_column h hcolumn, network_of_column (hrow.trans h) hcolumn]

end Network

/-! ## The policy of a network -/

section Policy

variable (C : Libraries)

/-- The compiled resources of a network, or of none. -/
def policyAt (db : Database) (network : Option String) : Finset (PolicyResource × Finset String) :=
  ((db.resources.rows.filter fun row => some row.remoteNetworkId = network).map
    fun row => contents (policyResource C db row)).toFinset

/-- No resource is in the network. -/
def Vacant (db : Database) (network : Option String) : Prop :=
  ∀ row ∈ db.resources.rows, some row.remoteNetworkId ≠ network

variable {C} {db db' : Database}

theorem mem_policyAt {network : Option String} {p : PolicyResource × Finset String} :
    p ∈ policyAt C db network ↔ ∃ row ∈ db.resources.rows,
      some row.remoteNetworkId = network ∧ contents (policyResource C db row) = p := by
  simp only [policyAt, List.mem_toFinset, List.mem_map, List.mem_filter, decide_eq_true_eq,
    and_assoc]

theorem vacant_none : Vacant db none := fun _ _ => Option.some_ne_none _

theorem compiled_eq (db : Database) (c : String) :
    compiled C db c = policyAt C db (network db c) := by
  unfold compiled network
  split
  · ext p
    rw [mem_policyAt]
    constructor
    · intro hp
      exact absurd hp (Finset.notMem_empty p)
    · rintro ⟨row, -, hnetwork, -⟩
      cases hnetwork
  next networkId _ =>
    ext p
    rw [mem_policyAt, List.mem_toFinset, List.mem_map]
    simp only [policyResources, List.mem_map, List.mem_insertionSort, List.mem_filter,
      decide_eq_true_eq, Option.some.injEq]
    constructor
    · rintro ⟨_, ⟨row, ⟨hrow, hnetwork⟩, rfl⟩, hp⟩
      exact ⟨row, hrow, hnetwork, hp⟩
    · rintro ⟨row, hrow, hnetwork, hp⟩
      exact ⟨_, ⟨row, ⟨hrow, hnetwork⟩, rfl⟩, hp⟩

/-- A compiled resource tells its row. -/
theorem row_of_contents {row row' : ResourceRow} (hrow : row ∈ db.resources.rows)
    (hrow' : row' ∈ db.resources.rows)
    (h : contents (policyResource C db row) = contents (policyResource C db' row')) :
    row = row' := by
  have hid : row.id = row'.id := congrArg (fun p => p.1.resourceId) h
  exact List.inj_on_of_nodup_map db.resources.keys_nodup hrow hrow' hid

/-- Two networks have the same policy iff they are the same, or both have no resources. -/
theorem policyAt_eq_iff {network network' : Option String} :
    policyAt C db network = policyAt C db network' ↔
      network = network' ∨ (Vacant db network ∧ Vacant db network') := by
  have hsame : ∀ {m m' : Option String}, policyAt C db m = policyAt C db m' → m ≠ m' →
      Vacant db m := by
    intro m m' heq hne row hrow hnetwork
    have hp : contents (policyResource C db row) ∈ policyAt C db m' :=
      heq ▸ mem_policyAt.mpr ⟨row, hrow, hnetwork, rfl⟩
    obtain ⟨row', hrow', hnetwork', hp'⟩ := mem_policyAt.mp hp
    obtain rfl := row_of_contents hrow' hrow hp'
    exact hne (hnetwork.symm.trans hnetwork')
  have hempty : ∀ {m : Option String}, Vacant db m → policyAt C db m = ∅ := by
    intro m hvacant
    refine Finset.eq_empty_of_forall_notMem fun p hp => ?_
    obtain ⟨row, hrow, hnetwork, -⟩ := mem_policyAt.mp hp
    exact hvacant row hrow hnetwork
  constructor
  · intro heq
    by_cases hne : network = network'
    · exact Or.inl hne
    · exact Or.inr ⟨hsame heq hne, hsame heq.symm (Ne.symm hne)⟩
  · rintro (rfl | ⟨hvacant, hvacant'⟩)
    · rfl
    · rw [hempty hvacant, hempty hvacant']

/-- A connector that loses its network, or gets one. -/
theorem lost_iff {network : Option String} :
    (network = none ∨ (Vacant db network ∧ Vacant db none)) ↔ Vacant db network := by
  constructor
  · rintro (rfl | ⟨h, -⟩)
    · exact vacant_none
    · exact h
  · intro h
    exact Or.inr ⟨h, vacant_none⟩

theorem gained_iff {network : Option String} :
    (none = network ∨ (Vacant db none ∧ Vacant db network)) ↔ Vacant db network := by
  rw [eq_comm, and_comm]
  exact lost_iff

/-- A request that leaves the resources and the identities alone. -/
structure SameResources (db db' : Database) : Prop where
  resources : db'.resources = db.resources
  accessRules : db'.accessRules = db.accessRules
  accessRuleGroups : db'.accessRuleGroups = db.accessRuleGroups
  userGroupMembers : db'.userGroupMembers = db.userGroupMembers
  users : db'.users = db.users

theorem policyResource_congr {row : ResourceRow}
    (h : usersGranted db' row.id = usersGranted db row.id) :
    policyResource C db' row = policyResource C db row := by
  simp only [policyResource, resourceIdentities, h]

theorem SameResources.policyAt_eq (h : SameResources db db') (m : Option String) :
    policyAt C db' m = policyAt C db m := by
  have hgranted : ∀ id, usersGranted db' id = usersGranted db id := by
    intro id
    simp only [usersGranted, h.accessRules, h.accessRuleGroups, h.userGroupMembers, h.users]
  unfold policyAt
  rw [h.resources]
  simp only [policyResource_congr (hgranted _)]

/-- The networks of all connectors keep their policies. -/
def KeepsPolicies (db db' : Database) : Prop :=
  ∀ c, network db c = network db' c ∨ (Vacant db (network db c) ∧ Vacant db (network db' c))

/-- If the policies of the networks are as before, what counts is which one a connector has. -/
theorem not_affects_iff (h : ∀ c, policyAt C db' (network db' c) = policyAt C db (network db' c)) :
    ¬ Affects C db db' ↔ KeepsPolicies db db' := by
  unfold Affects KeepsPolicies
  rw [not_exists]
  refine forall_congr' fun c => ?_
  rw [not_not, compiled_eq, compiled_eq, h, policyAt_eq_iff]

end Policy

/-! ## When a request that does not notify changes nothing -/

section Conditions

/-- The connector has a row that names no network: its assignments count. -/
def Blank (db : Database) (c : String) : Prop :=
  ∃ row, db.connectors.get c = some row ∧ trim row.remoteNetworkId = ""

/-- If the first assignment is to the network, neither it nor the one that then comes first
has resources. -/
def LeavesVacant (db : Database) (networkID : String) (networks : List String) : Prop :=
  networks.head? = some networkID →
    Vacant db (firstNetwork networks) ∧ Vacant db (firstNetwork (networks.filter (· ≠ networkID)))

variable (C : Libraries)

/-- The user counts for the compiler. -/
def Active (u : UserRow) : Prop := C.sqlLower (sqlTrim u.status) = "active"

/-- Each identity that the user holds on the resource is held there by somebody else too. -/
def SharesIdentities (db : Database) (userID resourceId : String) : Prop :=
  ∀ u ∈ usersGranted db resourceId, u.id = userID → Active C u →
    ∀ i, u.certificateIdentity = some i → i ≠ "" →
      ∃ u' ∈ usersGranted db resourceId,
        u'.id ≠ userID ∧ Active C u' ∧ u'.certificateIdentity = some i

/-- The request notifies, or what is compiled stays as it is. -/
def Unaffected (db : Database) : PolicyRequest → Prop
  | .uiDeleteUser userID =>
      ∀ c, ∀ row ∈ db.resources.rows, network db c = some row.remoteNetworkId →
        SharesIdentities C db userID row.id
  | .uiDeleteNetwork networkID =>
      ∀ c row, db.connectors.get c = some row →
        (row.remoteNetworkId = networkID → Vacant db (network db c)) ∧
        (row.remoteNetworkId ≠ networkID → trim row.remoteNetworkId = "" →
          LeavesVacant db networkID (assignments db c))
  | .assignConnector networkID connectorID =>
      Blank db connectorID → assignments db connectorID = [] →
        Vacant db (firstNetwork [networkID])
  | .removeConnector networkID connectorID =>
      Blank db connectorID → LeavesVacant db networkID (assignments db connectorID)
  | .deleteConnector id => Vacant db (network db id)
  | .uiCreateConnector id _ remoteNetworkID =>
      Vacant db (if trim remoteNetworkID ≠ "" then some remoteNetworkID
        else firstNetwork (assignments db id))
  | .uiDeleteConnector connectorID => Blank db connectorID → Vacant db (network db connectorID)
  | .uiRevokeConnector connectorID => Blank db connectorID → Vacant db (network db connectorID)
  | _ => True

end Conditions

/-! ## Assignments that come and go -/

section Assignments

variable {db db' : Database} {networkID : String}

theorem firstNetwork_filter_ne (networks : List String) :
    firstNetwork (networks.filter (· ≠ networkID)) ≠ some networkID := by
  intro h
  have hhead := (Option.filter_eq_some_iff.mp h).1
  have hmem := List.mem_of_mem_head? hhead
  simpa using (List.mem_filter.mp hmem).2

/-- Whether it matters that the assignments to a network go. -/
theorem firstNetwork_filter_iff (networks : List String) :
    (firstNetwork networks = firstNetwork (networks.filter (· ≠ networkID)) ∨
      (Vacant db (firstNetwork networks) ∧
        Vacant db (firstNetwork (networks.filter (· ≠ networkID))))) ↔
    LeavesVacant db networkID networks := by
  constructor
  · rintro (heq | hvacant) hhead
    · -- the first network is not `networkID` afterwards: there is none, before and after
      have hnone : firstNetwork networks = none := by
        by_contra hsome
        obtain ⟨m, hm⟩ := Option.ne_none_iff_exists'.mp hsome
        obtain rfl : networkID = m := by
          have hfirst := (Option.filter_eq_some_iff.mp hm).1
          exact Option.some.inj (hhead.symm.trans hfirst)
        exact firstNetwork_filter_ne networks (heq ▸ hm)
      rw [← heq, hnone]
      exact ⟨vacant_none, vacant_none⟩
    · exact hvacant
  · intro h
    cases networks with
    | nil => exact Or.inl rfl
    | cons m rest =>
        by_cases hm : m = networkID
        · exact Or.inr (h (congrArg some hm))
        · refine Or.inl ?_
          rw [List.filter_cons_of_pos (by simpa using hm)]
          rfl

/-- A `DELETE` on the assignments, as the connector sees it. -/
theorem assignments_filter {c : String} {p : RemoteNetworkConnectorRow → Bool} {q : String → Bool}
    (hrows : db'.remoteNetworkConnectors = db.remoteNetworkConnectors.filter p)
    (hp : ∀ r, r.connectorId = c → p r = q r.networkId) :
    assignments db' c = (assignments db c).filter q := by
  unfold assignments
  rw [hrows, List.filter_map]
  simp only [Table.filter, List.filter_filter]
  congr 1
  refine List.filter_congr fun r _ => ?_
  by_cases hc : r.connectorId = c
  · simp [hc, hp r hc]
  · simp [hc]

theorem assignments_filter_kept {c : String} {p : RemoteNetworkConnectorRow → Bool}
    (hrows : db'.remoteNetworkConnectors = db.remoteNetworkConnectors.filter p)
    (hp : ∀ r, r.connectorId = c → p r = true) : assignments db' c = assignments db c := by
  rw [assignments_filter (q := fun _ => true) hrows hp, List.filter_true]

/-- An assignment that is already there stays where it is. -/
theorem assignments_put {k : String}
    (hrows : db'.remoteNetworkConnectors = db.remoteNetworkConnectors.put ⟨networkID, k⟩)
    (c : String) :
    assignments db' c = assignments db c ∨
      (c = k ∧ assignments db' c = assignments db c ++ [networkID]) := by
  unfold assignments
  rw [hrows, Table.put]
  split
  · by_cases hc : c = k
    · subst hc
      exact Or.inr ⟨rfl, by simp⟩
    · exact Or.inl (by simp [Ne.symm hc])
  · have hreplace : Table.replaceRow id ⟨networkID, k⟩ db.remoteNetworkConnectors.rows =
        db.remoteNetworkConnectors.rows := by
      refine (List.map_congr_left fun r _ => ?_).trans (List.map_id _)
      by_cases hr : r = ⟨networkID, k⟩ <;> simp [hr]
    exact Or.inl (by simp only [hreplace])

/-- For requests that touch one connector only. -/
theorem keepsPolicies_iff_at {k : String} (hother : ∀ c, c ≠ k → network db' c = network db c) :
    KeepsPolicies db db' ↔
      (network db k = network db' k ∨ (Vacant db (network db k) ∧ Vacant db (network db' k))) := by
  constructor
  · intro h
    exact h k
  · intro h c
    by_cases hc : c = k
    · exact hc ▸ h
    · exact Or.inl (hother c hc).symm

theorem keepsPolicies_of_blank {k : String}
    (hconnectors : db'.connectors = db.connectors)
    (hother : ∀ c, c ≠ k → assignments db' c = assignments db c) :
    KeepsPolicies db db' ↔ (Blank db k →
      (firstNetwork (assignments db k) = firstNetwork (assignments db' k) ∨
        (Vacant db (firstNetwork (assignments db k)) ∧
          Vacant db (firstNetwork (assignments db' k))))) := by
  have hget : ∀ c, db'.connectors.get c = db.connectors.get c := fun c => by rw [hconnectors]
  rw [keepsPolicies_iff_at fun c hc => network_congr (hget c) (hother c hc)]
  constructor
  · rintro h ⟨row, hrow, hblank⟩
    rwa [network_of_blank hrow hblank, network_of_blank ((hget k).trans hrow) hblank] at h
  · intro h
    cases hrow : db.connectors.get k with
    | none => exact Or.inl (by rw [network_of_no_row hrow, network_of_no_row ((hget k).trans hrow)])
    | some row =>
        by_cases hblank : trim row.remoteNetworkId = ""
        · rw [network_of_blank hrow hblank, network_of_blank ((hget k).trans hrow) hblank]
          exact h ⟨row, hrow, hblank⟩
        · refine Or.inl ?_
          rw [network_of_column hrow hblank, network_of_column ((hget k).trans hrow) hblank]

end Assignments

/-! ## The requests that do not notify -/

section Silent

variable {C : Libraries} {db db' : Database}

theorem not_affects_assign {networkID k : String} (hsame : SameResources db db')
    (hconnectors : db'.connectors = db.connectors)
    (hrows : db'.remoteNetworkConnectors = db.remoteNetworkConnectors.put ⟨networkID, k⟩) :
    ¬ Affects C db db' ↔ Unaffected C db (.assignConnector networkID k) := by
  rw [not_affects_iff fun c => hsame.policyAt_eq _, keepsPolicies_of_blank hconnectors
    fun c hc => (assignments_put hrows c).resolve_right fun h => hc h.1]
  refine forall_congr' fun _ => ?_
  have hafter := assignments_put hrows k
  cases hbefore : assignments db k with
  | nil =>
      rw [hbefore] at hafter
      have hfirst : assignments db' k = [networkID] := by
        rcases hafter with hafter | ⟨-, hafter⟩
        · have hmem : networkID ∈ assignments db' k := by
            rw [assignments, List.mem_map]
            refine ⟨⟨networkID, k⟩, List.mem_filter.mpr ⟨?_, by simp⟩, rfl⟩
            rw [hrows]
            exact Table.mem_rows_put.mpr (Or.inl rfl)
          rw [hafter] at hmem
          cases hmem
        · exact hafter
      have hnone : firstNetwork ([] : List String) = none := rfl
      rw [hfirst, hnone, gained_iff]
      exact ⟨fun h _ => h, fun h => h rfl⟩
  | cons m rest =>
      -- the first assignment stays first
      have hfirst : firstNetwork (assignments db' k) = firstNetwork (m :: rest) := by
        rw [hbefore] at hafter
        rcases hafter with hafter | ⟨-, hafter⟩
        · rw [hafter]
        · rw [hafter]
          rfl
      rw [hfirst]
      exact ⟨fun _ h => absurd h (List.cons_ne_nil m rest), fun _ => Or.inl rfl⟩

theorem not_affects_remove {networkID k : String} (hsame : SameResources db db')
    (hconnectors : db'.connectors = db.connectors)
    (hrows : db'.remoteNetworkConnectors =
      db.remoteNetworkConnectors.filter fun r => r ≠ ⟨networkID, k⟩) :
    ¬ Affects C db db' ↔ Unaffected C db (.removeConnector networkID k) := by
  have hother : ∀ c, c ≠ k → assignments db' c = assignments db c := by
    intro c hc
    refine assignments_filter_kept hrows ?_
    rintro ⟨n, c'⟩ rfl
    simp [hc]
  have hk : assignments db' k = (assignments db k).filter (· ≠ networkID) := by
    refine assignments_filter hrows ?_
    rintro ⟨n, c'⟩ rfl
    simp
  rw [not_affects_iff fun c => hsame.policyAt_eq _, keepsPolicies_of_blank hconnectors hother, hk]
  exact forall_congr' fun _ => firstNetwork_filter_iff _

/-- A connector loses its assignments. -/
theorem not_affects_unassign {k : String} (hsame : SameResources db db')
    (hconnectors : db'.connectors = db.connectors)
    (hrows : db'.remoteNetworkConnectors =
      db.remoteNetworkConnectors.filter fun r => r.connectorId ≠ k) :
    ¬ Affects C db db' ↔ (Blank db k → Vacant db (network db k)) := by
  have hother : ∀ c, c ≠ k → assignments db' c = assignments db c := by
    intro c hc
    refine assignments_filter_kept hrows ?_
    rintro r rfl
    simp [hc]
  have hk : firstNetwork (assignments db' k) = none := by
    rw [assignments_filter (q := fun _ => false) hrows, List.filter_false]
    · rfl
    · rintro r rfl
      simp
  rw [not_affects_iff fun c => hsame.policyAt_eq _, keepsPolicies_of_blank hconnectors hother, hk]
  refine forall_congr' fun ⟨row, hrow, hblank⟩ => ?_
  rw [network_of_blank hrow hblank]
  exact lost_iff

/-- A connector's row goes, with its assignments. -/
theorem not_affects_deleteConnector {k : String} (hsame : SameResources db db')
    (hconnectors : db'.connectors = db.connectors.filter fun c => c.id ≠ k)
    (hrows : db'.remoteNetworkConnectors =
      db.remoteNetworkConnectors.filter fun r => r.connectorId ≠ k) :
    ¬ Affects C db db' ↔ Unaffected C db (.deleteConnector k) := by
  have hother : ∀ c, c ≠ k → network db' c = network db c := by
    intro c hc
    refine network_congr ?_ ?_
    · rw [hconnectors, Table.get_filter_ne, if_neg hc]
    · refine assignments_filter_kept hrows ?_
      rintro r rfl
      simp [hc]
  have hk : network db' k = none := by
    refine network_of_no_row ?_
    rw [hconnectors, Table.get_filter_ne, if_pos rfl]
  rw [not_affects_iff fun c => hsame.policyAt_eq _, keepsPolicies_iff_at hother, hk]
  exact lost_iff

/-- A connector's row comes. -/
theorem not_affects_createConnector {k name networkID : String} (hsame : SameResources db db')
    (hfree : db.connectors.get k = none)
    (hconnectors : db'.connectors = db.connectors.put ⟨k, networkID⟩)
    (hrows : db'.remoteNetworkConnectors = db.remoteNetworkConnectors) :
    ¬ Affects C db db' ↔ Unaffected C db (.uiCreateConnector k name networkID) := by
  have hassigned : ∀ c, assignments db' c = assignments db c := by
    intro c
    rw [assignments, assignments, hrows]
  have hother : ∀ c, c ≠ k → network db' c = network db c := by
    intro c hc
    refine network_congr ?_ (hassigned c)
    rw [hconnectors, Table.get_put, if_neg hc]
  have hrow : db'.connectors.get k = some ⟨k, networkID⟩ := by
    rw [hconnectors, Table.get_put, if_pos rfl]
  have hk : network db' k =
      if trim networkID ≠ "" then some networkID else firstNetwork (assignments db k) := by
    by_cases hblank : trim networkID = ""
    · rw [network_of_blank hrow hblank, hassigned, if_neg (not_not.mpr hblank)]
    · rw [network_of_column hrow hblank, if_pos hblank]
  rw [not_affects_iff fun c => hsame.policyAt_eq _, keepsPolicies_iff_at hother, hk,
    network_of_no_row hfree]
  exact gained_iff

theorem usersGranted_deleteRulesOf {resourceID id : String} (hid : id ≠ resourceID) :
    usersGranted (deleteRulesOf db resourceID) id = usersGranted db id := by
  unfold usersGranted deleteRulesOf
  simp only [Table.filter, List.filter_filter]
  have hrules : (db.accessRules.rows.filter fun ar =>
      decide (ar.resourceId = id ∧ ar.enabled = 1) && decide (ar.resourceId ≠ resourceID)) =
      db.accessRules.rows.filter fun ar => ar.resourceId = id ∧ ar.enabled = 1 := by
    refine List.filter_congr fun ar _ => ?_
    by_cases har : ar.resourceId = id <;> simp [har, hid]
  rw [hrules]
  refine List.flatMap_congr fun ar har => ?_
  rw [List.mem_filter, decide_eq_true_eq] at har
  obtain ⟨har, hresource, -⟩ := har
  -- a rule of this resource is no rule of the other one: the groups of it stay
  have hgroups : (db.accessRuleGroups.rows.filter fun arg =>
      decide (arg.ruleId = ar.id) && !db.accessRules.rows.any fun ar' =>
        decide (ar'.resourceId = resourceID) && decide (ar'.id = arg.ruleId)) =
      db.accessRuleGroups.rows.filter fun arg => arg.ruleId = ar.id := by
    refine List.filter_congr fun arg _ => ?_
    by_cases harg : arg.ruleId = ar.id
    · have hnone : (db.accessRules.rows.any fun ar' =>
          decide (ar'.resourceId = resourceID) && decide (ar'.id = arg.ruleId)) = false := by
        rw [List.any_eq_false]
        intro ar' har' hsame
        simp only [Bool.and_eq_true, decide_eq_true_eq] at hsame
        obtain rfl : ar' = ar :=
          List.inj_on_of_nodup_map db.accessRules.keys_nodup har' har (hsame.2.trans harg)
        exact hid (hresource.symm.trans hsame.1)
      rw [hnone, Bool.not_false, Bool.and_true]
    · simp [harg]
  rw [hgroups]

theorem foldl_deleteRulesOf : ∀ (ids : List String) (db : Database),
    (ids.foldl deleteRulesOf db).resources = db.resources ∧
    (ids.foldl deleteRulesOf db).connectors = db.connectors ∧
    (ids.foldl deleteRulesOf db).remoteNetworkConnectors = db.remoteNetworkConnectors ∧
    ∀ id, id ∉ ids → usersGranted (ids.foldl deleteRulesOf db) id = usersGranted db id
  | [], db => ⟨rfl, rfl, rfl, fun _ _ => rfl⟩
  | resourceID :: ids, db => by
      obtain ⟨hresources, hconnectors, hassigned, hgranted⟩ :=
        foldl_deleteRulesOf ids (deleteRulesOf db resourceID)
      refine ⟨hresources, hconnectors, hassigned, ?_⟩
      intro id hid
      rw [List.mem_cons, not_or] at hid
      rw [List.foldl_cons, hgranted id hid.2, usersGranted_deleteRulesOf hid.1]

/-- The other networks keep their policies. -/
theorem policyAt_deleteNetworkRows {networkID : String} {m : Option String}
    (hm : m ≠ some networkID) :
    policyAt C (deleteNetworkRows db networkID) m = policyAt C db m := by
  have hfold := foldl_deleteRulesOf
    ((db.resources.rows.filter fun r => r.remoteNetworkId = networkID).map ResourceRow.id) db
  have hrows : (deleteNetworkRows db networkID).resources.rows =
      db.resources.rows.filter fun r => r.remoteNetworkId ≠ networkID := by
    show (Table.filter _ _).rows = _
    rw [hfold.1]
    rfl
  have hgranted : ∀ row ∈ db.resources.rows, row.remoteNetworkId ≠ networkID →
      usersGranted (deleteNetworkRows db networkID) row.id = usersGranted db row.id := by
    intro row hrow hnetwork
    refine hfold.2.2.2 row.id fun hmem => ?_
    obtain ⟨row', hrow', hid⟩ := List.mem_map.mp hmem
    rw [List.mem_filter, decide_eq_true_eq] at hrow'
    obtain rfl := List.inj_on_of_nodup_map db.resources.keys_nodup hrow'.1 hrow hid
    exact hnetwork hrow'.2
  ext p
  rw [mem_policyAt, mem_policyAt, hrows]
  constructor
  · rintro ⟨row, hrow, hnetwork, hp⟩
    rw [List.mem_filter, decide_eq_true_eq] at hrow
    exact ⟨row, hrow.1, hnetwork, policyResource_congr (hgranted row hrow.1 hrow.2) ▸ hp⟩
  · rintro ⟨row, hrow, hnetwork, hp⟩
    have hne : row.remoteNetworkId ≠ networkID := fun h => hm (h ▸ hnetwork.symm)
    refine ⟨row, List.mem_filter.mpr ⟨hrow, decide_eq_true hne⟩, hnetwork, ?_⟩
    rw [policyResource_congr (hgranted row hrow hne)]
    exact hp

/-- What becomes of a connector's network. -/
theorem network_deleteNetworkRows (db : Database) (networkID c : String) :
    (db.connectors.get c = none ∧ network (deleteNetworkRows db networkID) c = none) ∨
    ∃ row, db.connectors.get c = some row ∧
      ((row.remoteNetworkId = networkID ∧ network (deleteNetworkRows db networkID) c = none) ∨
      (row.remoteNetworkId ≠ networkID ∧ trim row.remoteNetworkId ≠ "" ∧
        network (deleteNetworkRows db networkID) c = some row.remoteNetworkId) ∨
      (row.remoteNetworkId ≠ networkID ∧ trim row.remoteNetworkId = "" ∧
        network (deleteNetworkRows db networkID) c =
          firstNetwork ((assignments db c).filter (· ≠ networkID)))) := by
  obtain ⟨-, hconnectors, hassigned, -⟩ := foldl_deleteRulesOf
    ((db.resources.rows.filter fun r => r.remoteNetworkId = networkID).map ResourceRow.id) db
  have hget : (deleteNetworkRows db networkID).connectors.get c =
      (db.connectors.get c).filter fun row => row.remoteNetworkId ≠ networkID := by
    show (Table.filter _ _).get c = _
    rw [Table.get_filter, hconnectors]
  have hfilter : assignments (deleteNetworkRows db networkID) c =
      (assignments db c).filter (· ≠ networkID) := by
    refine assignments_filter (p := fun r => r.networkId ≠ networkID) ?_ fun _ _ => rfl
    show Table.filter _ _ = _
    rw [hassigned]
  cases hrow : db.connectors.get c with
  | none =>
      rw [hrow] at hget
      exact Or.inl ⟨rfl, network_of_no_row hget⟩
  | some row =>
      refine Or.inr ⟨row, rfl, ?_⟩
      rw [hrow] at hget
      by_cases hcolumn : row.remoteNetworkId = networkID
      · refine Or.inl ⟨hcolumn, network_of_no_row ?_⟩
        rw [hget]
        simp [Option.filter, hcolumn]
      · have hkept : (deleteNetworkRows db networkID).connectors.get c = some row := by
          rw [hget]
          simp [Option.filter, hcolumn]
        by_cases hblank : trim row.remoteNetworkId = ""
        · refine Or.inr (Or.inr ⟨hcolumn, hblank, ?_⟩)
          rw [network_of_blank hkept hblank, hfilter]
        · exact Or.inr (Or.inl ⟨hcolumn, hblank, network_of_column hkept hblank⟩)

theorem not_affects_deleteNetwork (networkID : String) :
    ¬ Affects C db (deleteNetworkRows db networkID) ↔
      Unaffected C db (.uiDeleteNetwork networkID) := by
  have hother : ∀ c, network (deleteNetworkRows db networkID) c ≠ some networkID := by
    intro c h
    rcases network_deleteNetworkRows db networkID c with
      ⟨-, hafter⟩ | ⟨row, -, ⟨-, hafter⟩ | ⟨hcolumn, -, hafter⟩ | ⟨-, -, hafter⟩⟩
    · cases hafter.symm.trans h
    · cases hafter.symm.trans h
    · exact hcolumn (Option.some.inj (hafter.symm.trans h))
    · exact firstNetwork_filter_ne _ (hafter.symm.trans h)
  rw [not_affects_iff fun c => policyAt_deleteNetworkRows (hother c)]
  refine forall_congr' fun c => ?_
  rcases network_deleteNetworkRows db networkID c with
    ⟨hrow, hafter⟩ | ⟨row, hrow, ⟨hcolumn, hafter⟩ | ⟨hcolumn, hblank, hafter⟩ |
      ⟨hcolumn, hblank, hafter⟩⟩
  · rw [hafter, network_of_no_row hrow]
    simp [hrow]
  · rw [hafter, lost_iff]
    simp [hrow, hcolumn]
  · rw [hafter, network_of_column hrow hblank]
    simp [hrow, hcolumn, hblank]
  · rw [hafter, network_of_blank hrow hblank, firstNetwork_filter_iff]
    simp [hrow, hcolumn, hblank]

/-! ### A user goes -/

theorem mem_resourceIdentities {id i : String} :
    i ∈ resourceIdentities C db id ↔
      i ≠ "" ∧ ∃ u ∈ usersGranted db id, Active C u ∧ u.certificateIdentity = some i := by
  simp only [resourceIdentities, Active, List.mem_filter, List.mem_insertionSort, List.mem_dedup,
    List.mem_filterMap, decide_eq_true_eq, and_assoc]
  exact and_comm

/-- The database without a user, whose memberships stay. -/
def withoutUser (db : Database) (userID : String) : Database :=
  { db with users := db.users.filter fun u => u.id ≠ userID }

theorem mem_usersGranted_withoutUser {userID id : String} {u : UserRow} :
    u ∈ usersGranted (withoutUser db userID) id ↔ u ∈ usersGranted db id ∧ u.id ≠ userID := by
  simp only [usersGranted, withoutUser, Table.filter, List.mem_flatMap, List.mem_filter,
    decide_eq_true_eq]
  constructor
  · rintro ⟨ar, har, arg, harg, gm, hgm, ⟨hu, hne⟩, hid⟩
    exact ⟨⟨ar, har, arg, harg, gm, hgm, hu, hid⟩, hne⟩
  · rintro ⟨⟨ar, har, arg, harg, gm, hgm, hu, hid⟩, hne⟩
    exact ⟨ar, har, arg, harg, gm, hgm, ⟨hu, hne⟩, hid⟩

/-- The resource is compiled to the same iff the user's identities on it are shared. -/
theorem contents_withoutUser (userID : String) (row : ResourceRow) :
    contents (policyResource C db row) = contents (policyResource C (withoutUser db userID) row) ↔
      SharesIdentities C db userID row.id := by
  have hsets : contents (policyResource C db row) =
      contents (policyResource C (withoutUser db userID) row) ↔
      (resourceIdentities C db row.id).toFinset =
        (resourceIdentities C (withoutUser db userID) row.id).toFinset := by
    simp only [contents, policyResource, Prod.mk.injEq, true_and]
  rw [hsets, Finset.ext_iff]
  simp only [List.mem_toFinset, mem_resourceIdentities, mem_usersGranted_withoutUser]
  constructor
  · intro h u hu _ hactive i hi hne
    obtain ⟨-, u', ⟨hu', hother⟩, hactive', hi'⟩ := (h i).mp ⟨hne, u, hu, hactive, hi⟩
    exact ⟨u', hu', hother, hactive', hi'⟩
  · intro h i
    constructor
    · rintro ⟨hne, u, hu, hactive, hi⟩
      by_cases hid : u.id = userID
      · obtain ⟨u', hu', hother, hactive', hi'⟩ := h u hu hid hactive i hi hne
        exact ⟨hne, u', ⟨hu', hother⟩, hactive', hi'⟩
      · exact ⟨hne, u, ⟨hu, hid⟩, hactive, hi⟩
    · rintro ⟨hne, u, ⟨hu, -⟩, hactive, hi⟩
      exact ⟨hne, u, hu, hactive, hi⟩

theorem not_affects_withoutUser (userID : String) :
    ¬ Affects C db (withoutUser db userID) ↔ Unaffected C db (.uiDeleteUser userID) := by
  unfold Affects
  rw [not_exists]
  refine forall_congr' fun c => ?_
  have hnetwork : network (withoutUser db userID) c = network db c := network_congr rfl rfl
  rw [not_not, compiled_eq, compiled_eq, hnetwork]
  constructor
  · intro heq row hrow hc
    have hp : contents (policyResource C db row) ∈
        policyAt C (withoutUser db userID) (network db c) :=
      heq ▸ mem_policyAt.mpr ⟨row, hrow, hc.symm, rfl⟩
    obtain ⟨row', hrow', -, hp'⟩ := mem_policyAt.mp hp
    obtain rfl := row_of_contents hrow hrow' hp'.symm
    exact (contents_withoutUser userID row).mp hp'.symm
  · intro h
    ext p
    rw [mem_policyAt, mem_policyAt]
    refine exists_congr fun row => and_congr_right fun hrow => and_congr_right fun hc => ?_
    rw [(contents_withoutUser userID row).mpr (h row hrow hc.symm)]

end Silent

/-! ## The others -/

section Settled

/-- A request that is answered either has notified, or has left the database as it was. -/
def Settled (t : Tables) (r : Reply) : Prop :=
  r.outcome = .ok → r.notified = some r.tables.db ∨ r.tables.db = t.db

variable {t t' : Tables}

theorem settled_fail (status : Nat) (message : String) : Settled t (t'.fail status message) :=
  fun h => absurd h Outcome.noConfusion

theorem settled_notify : Settled t t'.notifyAndReply := fun _ => Or.inl rfl

theorem settled_reply (h : t'.db = t.db) : Settled t t'.reply := fun _ => Or.inr h

/-- The requests that do not notify although they write what the compiler reads. -/
def silent : PolicyRequest → Bool
  | .uiDeleteUser _ | .uiDeleteNetwork _ | .assignConnector _ _ | .removeConnector _ _
  | .deleteConnector _ | .uiCreateConnector _ _ _ | .uiDeleteConnector _
  | .uiRevokeConnector _ => true
  | _ => false

theorem settled_handle (C : Libraries) (env : Env) (t : Tables) (q : PolicyRequest)
    (hq : silent q = false) : Settled t (handle C env t q) := by
  cases q
  case uiDeleteUser | uiDeleteNetwork | assignConnector | removeConnector | deleteConnector
    | uiCreateConnector | uiDeleteConnector | uiRevokeConnector => cases hq
  -- each branch of a handler ends in one of the three replies
  all_goals
    simp only [handle, createUser, updateUser, deleteUser, uiCreateUser, createGroup, updateGroup,
      deleteGroup, addMember, removeMember, uiCreateGroup, uiUpdateGroup, uiDeleteGroup,
      uiSetMembers, uiRemoveMember, uiAddResources, upsertResource, deleteResource,
      uiCreateResource, uiUpdateResource, uiPatchResource, uiDeleteResource, uiCreateAccessRule,
      uiDeleteAccessRule, createNetwork, uiCreateNetwork, uiGrantConnector, uiHeartbeat]
    repeat' split
    all_goals
      first
      | exact settled_fail _ _
      | exact settled_notify
      | exact settled_reply rfl

end Settled

/-! ## The result -/

section Result

variable {C : Libraries} {env : Env} {t : Tables}

/-- A request that changes what is compiled for some connector has notified, after the
change and before the reply. -/
def Pushed (C : Libraries) (t : Tables) (r : Reply) : Prop :=
  Affects C t.db r.tables.db → r.notified = some r.tables.db

theorem pushed_of_settled {r : Reply} (h : Settled t r) (hok : r.outcome = .ok) : Pushed C t r := by
  rintro ⟨c, hc⟩
  rcases h hok with h | h
  · exact h
  · exact absurd rfl (h ▸ hc)

/-- A reply is as it should be: if the request went through, it pushed what it had to push
exactly when the condition holds. -/
def Exact (C : Libraries) (t : Tables) (q : PolicyRequest) (r : Reply) : Prop :=
  r.outcome = .ok → (Pushed C t r ↔ Unaffected C t.db q)

variable {q : PolicyRequest}

theorem exact_fail (t' : Tables) (status : Nat) (message : String) :
    Exact C t q (t'.fail status message) :=
  fun h => absurd h Outcome.noConfusion

/-- A handler that goes on only if the request has what it needs. -/
theorem exact_ite {p : Prop} [Decidable p] {t' : Tables} {status : Nat} {message : String}
    {r : Reply} (h : Exact C t q r) :
    Exact C t q (if p then t'.fail status message else r) := by
  split
  · exact exact_fail t' status message
  · exact h

/-- Without a notification, nothing may change. -/
theorem exact_reply {t' : Tables} (h : ¬ Affects C t.db t'.db ↔ Unaffected C t.db q) :
    Exact C t q t'.reply := by
  intro _
  rw [← h]
  constructor
  · intro hpushed haffects
    exact absurd (hpushed haffects) (Option.some_ne_none _).symm
  · intro hnot haffects
    exact absurd haffects hnot

theorem exact_handle (C : Libraries) (env : Env) (t : Tables) (q : PolicyRequest) :
    Exact C t q (handle C env t q) := by
  cases hq : silent q with
  | false =>
      have hcondition : Unaffected C t.db q := by
        cases q <;> trivial
      intro hok
      exact iff_of_true (pushed_of_settled (settled_handle C env t q hq) hok) hcondition
  | true =>
      cases q with
      | uiDeleteUser userID =>
          exact exact_ite (exact_ite (exact_reply (not_affects_withoutUser userID)))
      | uiDeleteNetwork networkID =>
          exact exact_ite (exact_ite (exact_reply (not_affects_deleteNetwork networkID)))
      | assignConnector networkID connectorID =>
          refine exact_ite (exact_ite (exact_ite (exact_reply ?_)))
          exact not_affects_assign ⟨rfl, rfl, rfl, rfl, rfl⟩ rfl rfl
      | removeConnector networkID connectorID =>
          refine exact_ite (exact_ite (exact_ite (exact_reply ?_)))
          exact not_affects_remove ⟨rfl, rfl, rfl, rfl, rfl⟩ rfl rfl
      | deleteConnector id =>
          refine exact_ite (exact_reply ?_)
          exact not_affects_deleteConnector ⟨rfl, rfl, rfl, rfl, rfl⟩ rfl rfl
      | uiCreateConnector id name remoteNetworkID =>
          refine exact_ite ?_
          split
          · exact exact_fail _ _ _
          next connectors hinsert =>
            obtain ⟨-, hinsert⟩ := Option.ite_none_left_eq_some.mp hinsert
            obtain ⟨hfree, rfl⟩ := Table.insert_eq_some hinsert
            refine exact_reply ?_
            exact not_affects_createConnector ⟨rfl, rfl, rfl, rfl, rfl⟩ hfree rfl rfl
      | uiDeleteConnector connectorID =>
          refine exact_ite (exact_reply ?_)
          exact not_affects_unassign ⟨rfl, rfl, rfl, rfl, rfl⟩ rfl rfl
      | uiRevokeConnector connectorID =>
          refine exact_ite (exact_reply ?_)
          exact not_affects_unassign ⟨rfl, rfl, rfl, rfl, rfl⟩ rfl rfl
      | _ => cases hq

/-- **Notification theorem.**  In every database, a request of either API that goes through
has issued a notification if it changes what is compiled for some connector, exactly when
it notifies or, by the database before it, changes nothing. -/
theorem notified_iff (C : Libraries) (env : Env) (t : Tables) (q : PolicyRequest)
    (hok : (handle C env t q).outcome = .ok) :
    (Affects C t.db (handle C env t q).tables.db →
      (handle C env t q).notified = some (handle C env t q).tables.db) ↔
    Unaffected C t.db q :=
  exact_handle C env t q hok

/-- One connector, whose row names its network, with a resource open to one user. -/
def exampleTables : Tables := ⟨ampersandDatabase, ∅, ∅⟩

def exampleEnv : Env := ⟨false, ""⟩

/-- The connector is revoked: its network is in its row, and stays. -/
theorem revoked_connector_unaffected :
    (handle ampersandController exampleEnv exampleTables (.uiRevokeConnector "con_1")).outcome =
        .ok ∧
      (Affects ampersandController ampersandDatabase
          (handle ampersandController exampleEnv exampleTables
            (.uiRevokeConnector "con_1")).tables.db →
        (handle ampersandController exampleEnv exampleTables
            (.uiRevokeConnector "con_1")).notified =
          some (handle ampersandController exampleEnv exampleTables
            (.uiRevokeConnector "con_1")).tables.db) := by
  refine ⟨rfl, (notified_iff ampersandController exampleEnv exampleTables _ rfl).mpr ?_⟩
  rintro ⟨row, hrow, hblank⟩
  obtain rfl : (⟨"con_1", "net_1"⟩ : ConnectorRow) = row := Option.some.inj hrow
  exact absurd hblank (by decide)

/-- The user is deleted in the UI: the resource is compiled without the user's identity from
then on, and nobody is notified. -/
theorem deleted_user_not_pushed :
    (handle ampersandController exampleEnv exampleTables (.uiDeleteUser "usr_1")).outcome = .ok ∧
    Affects ampersandController ampersandDatabase
      (handle ampersandController exampleEnv exampleTables (.uiDeleteUser "usr_1")).tables.db ∧
    (handle ampersandController exampleEnv exampleTables (.uiDeleteUser "usr_1")).notified =
      none := by
  refine ⟨rfl, ?_, rfl⟩
  by_contra hnot
  have hactive : ampersandController.sqlLower (sqlTrim "Active") = "active" := by decide
  have hshared := (not_affects_withoutUser "usr_1").mp hnot "con_1" _ List.mem_cons_self rfl
  obtain ⟨u, hu, hother, -⟩ := hshared ⟨"usr_1", "Active", some "identity-1"⟩
    List.mem_cons_self rfl hactive "identity-1" rfl (by decide)
  obtain rfl := List.mem_singleton.mp hu
  exact hother rfl

end Result

end ZeroTrust.Admin.PolicyNotifications
