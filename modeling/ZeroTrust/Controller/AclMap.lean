/-
# `ZeroTrust.Controller.AclMap` — the ACL store is a map, in order of arrival

`state/acl.go` keeps the authorizations in a slice.  Two of its calls filter the slice on its
own backing array, two write to elements, and nothing in the representation says that a pair
of a resource and a principal occurs once.

    `SliceStore`  the calls as they are, loops over the backing array
    `ACLStore`    the same calls on a list (`step_refines`)
    `FilterMap`   the same calls on a map from pairs to filters (`view_after`)

Of the order a call only takes pairs out and puts one at the end (`keys_after`).  So over any
sequence of calls on a store that was loaded from its tables the pairs are distinct, the map
is the one that the calls describe, and pairs that no call takes out keep their places
(`refines_map`).
-/
import ZeroTrust.Lib.Slice
import ZeroTrust.Controller.AclStore

namespace ZeroTrust.Controller.AclMap

open Lib AclStore

/-! ## The store on a slice -/

inductive Call where
  | upsertResource (res : Resource)
  | deleteResource (resourceID : String)
  | updateFilters (resourceID : String) (filters : List Filter)
  | assignPrincipal (resourceID principalSPIFFE : String) (filters : List Filter)
  | removeAssignment (resourceID principal : String)

/-- The zero value. -/
instance : Inhabited Authorization := ⟨⟨"", "", []⟩⟩

structure SliceStore where
  resources : Table Resource.id
  authorizations : Slice Authorization

namespace SliceStore

def new : SliceStore := ⟨∅, .empty⟩

def upsertResource (s : SliceStore) (res : Resource) : Except String SliceStore :=
  if res.id = "" then .error "resource id required"
  else .ok { s with resources := s.resources.put res }

def deleteResource (s : SliceStore) (resourceID : String) : Option SliceStore := do
  let filtered ← s.authorizations.filterInPlace fun a => a.resourceId ≠ resourceID
  some ⟨s.resources.filter fun r => r.id ≠ resourceID, filtered⟩

def updateFilters (s : SliceStore) (resourceID : String) (filters : List Filter) :
    Option SliceStore := do
  let authorizations ← s.authorizations.updateAll (fun a => a.resourceId = resourceID)
    fun a => { a with filters }
  some { s with authorizations }

/-- Without an element of the pair, `updateFirst` is `none`. -/
def assignPrincipal (room : Nat → Nat) (s : SliceStore) (resourceID principalSPIFFE : String)
    (filters : List Filter) : Except String SliceStore :=
  if resourceID = "" ∨ principalSPIFFE = "" then
    .error "resource_id and principal_spiffe required"
  else
    match s.authorizations.updateFirst
      (fun a => a.resourceId = resourceID ∧ a.principalSpiffe = principalSPIFFE)
      (fun a => { a with filters }) with
    | some authorizations => .ok { s with authorizations }
    | none => .ok { s with
        authorizations := s.authorizations.append room ⟨principalSPIFFE, resourceID, filters⟩ }

def removeAssignment (s : SliceStore) (resourceID principal : String) : Option SliceStore := do
  let filtered ← s.authorizations.filterInPlace fun a =>
    ¬ (a.resourceId = resourceID ∧ a.principalSpiffe = principal)
  some { s with authorizations := filtered }

def addAuthorization (room : Nat → Nat) (s : SliceStore) (auth : Authorization) : SliceStore :=
  { s with authorizations := s.authorizations.append room auth }

def addResource (s : SliceStore) (res : Resource) : SliceStore :=
  { s with resources := s.resources.put res }

/-- `LoadACLsFromDB`. -/
def loadACLsFromDB (room : Nat → Nat) (resources : List Resource)
    (authorizations : List AuthorizationRow) : SliceStore :=
  (authorizations.map AuthorizationRow.load).foldl (addAuthorization room)
    (resources.foldl addResource new)

/-- A call that is refused leaves everything as it was. -/
def step (room : Nat → Nat) (s : SliceStore) : Call → Option SliceStore
  | .upsertResource res => some ((s.upsertResource res).toOption.getD s)
  | .deleteResource id => s.deleteResource id
  | .updateFilters id filters => s.updateFilters id filters
  | .assignPrincipal id principal filters =>
      some ((s.assignPrincipal room id principal filters).toOption.getD s)
  | .removeAssignment id principal => s.removeAssignment id principal

/-- The store with the slice as a list. -/
def store (s : SliceStore) : ACLStore := ⟨s.resources, s.authorizations.toList⟩

end SliceStore

/-- The call on a store with a list. -/
def after (s : ACLStore) : Call → ACLStore
  | .upsertResource res => (s.upsertResource res).toOption.getD s
  | .deleteResource id => s.deleteResource id
  | .updateFilters id filters => s.updateFilters id filters
  | .assignPrincipal id principal filters =>
      (s.assignPrincipal id principal filters).toOption.getD s
  | .removeAssignment id principal => s.removeAssignment id principal

/-! ## From the slice to a list -/

theorem assign_eq (auth : Authorization) (as : List Authorization) :
    ACLStore.assign auth as = (Slice.updateFirstList
      (fun a => a.resourceId = auth.resourceId ∧ a.principalSpiffe = auth.principalSpiffe)
      (fun a => { a with filters := auth.filters }) as).getD (as ++ [auth]) := by
  induction as with
  | nil => rfl
  | cons a as ih =>
      have hkey : a.key = auth.key ↔
          a.resourceId = auth.resourceId ∧ a.principalSpiffe = auth.principalSpiffe :=
        Prod.mk.injEq .. ▸ Iff.rfl
      rw [ACLStore.assign, Slice.updateFirstList]
      by_cases h : a.key = auth.key
      · rw [if_pos h, if_pos (decide_eq_true (hkey.mp h))]
        rfl
      · rw [if_neg h, if_neg (by rw [decide_eq_true_eq]; exact mt hkey.mpr h), ih]
        cases Slice.updateFirstList _ _ as <;> rfl

theorem store_loadACLsFromDB (room : Nat → Nat) (resources : List Resource)
    (authorizations : List AuthorizationRow) :
    (SliceStore.loadACLsFromDB room resources authorizations).store =
      loadACLsFromDB resources authorizations := by
  have hresource : ∀ s res, s.store.addResource res = (SliceStore.addResource s res).store :=
    fun _ _ => rfl
  have hauth : ∀ s auth,
      s.store.addAuthorization auth = (SliceStore.addAuthorization room s auth).store := by
    intro s auth
    simp only [SliceStore.store, SliceStore.addAuthorization, Slice.toList_append]
    rfl
  have hnew : SliceStore.new.store = newACLStore := rfl
  rw [loadACLsFromDB, SliceStore.loadACLsFromDB, ← hnew, List.foldl_hom _ hresource,
    List.foldl_hom _ hauth]

/-- **The loops on the backing array do what the calls do to a list.** -/
theorem step_refines (room : Nat → Nat) (s : SliceStore) (c : Call) :
    ∃ s', s.step room c = some s' ∧ s'.store = after s.store c := by
  cases c with
  | upsertResource res =>
      refine ⟨_, rfl, ?_⟩
      by_cases hid : res.id = ""
      · simp [SliceStore.upsertResource, after, ACLStore.upsertResource, hid, Except.toOption]
      · simp [SliceStore.upsertResource, after, ACLStore.upsertResource, hid, Except.toOption,
          SliceStore.store]
  | deleteResource id =>
      obtain ⟨filtered, hfilter, hlist⟩ :=
        s.authorizations.toList_filterInPlace fun a => a.resourceId ≠ id
      refine ⟨_, by rw [SliceStore.step, SliceStore.deleteResource, hfilter]; rfl, ?_⟩
      simp only [SliceStore.store, hlist]
      rfl
  | updateFilters id filters =>
      obtain ⟨updated, hupdate, hlist⟩ := s.authorizations.toList_updateAll
        (fun a => a.resourceId = id) fun a => { a with filters }
      refine ⟨_, by rw [SliceStore.step, SliceStore.updateFilters, hupdate]; rfl, ?_⟩
      simp only [SliceStore.store, hlist, decide_eq_true_eq]
      rfl
  | assignPrincipal id principal filters =>
      refine ⟨_, rfl, ?_⟩
      simp only [after, SliceStore.assignPrincipal, ACLStore.assignPrincipal]
      by_cases hids : id = "" ∨ principal = ""
      · rw [if_pos hids, if_pos hids]
        rfl
      · have hfirst := s.authorizations.toList_updateFirst
          (fun a => a.resourceId = id ∧ a.principalSpiffe = principal)
          fun a => { a with filters }
        have hassign := assign_eq ⟨principal, id, filters⟩ s.authorizations.toList
        rw [if_neg hids, if_neg hids]
        simp only [SliceStore.store, hassign, ← hfirst]
        cases Slice.updateFirst _ _ s.authorizations with
        | none =>
            rw [Option.map_none, Option.getD_none, ← Slice.toList_append room]
            rfl
        | some authorizations => rfl
  | removeAssignment id principal =>
      obtain ⟨filtered, hfilter, hlist⟩ := s.authorizations.toList_filterInPlace fun a =>
        ¬ (a.resourceId = id ∧ a.principalSpiffe = principal)
      refine ⟨_, by rw [SliceStore.step, SliceStore.removeAssignment, hfilter]; rfl, ?_⟩
      simp only [SliceStore.store, hlist]
      rfl

/-! ## From a list to a map -/

/-- The filters of each pair that is assigned. -/
abbrev FilterMap := String × String → Option (List Filter)

def view (as : List Authorization) : FilterMap :=
  fun k => (as.find? fun a => a.key = k).map Authorization.filters

/-- The tables, as a map. -/
def tableView (rows : Table AuthorizationRow.key) : FilterMap :=
  fun k => (rows.get k).map fun r => unmarshalFilters r.filters

/-- **What the calls are for.** -/
def apply (m : FilterMap) : Call → FilterMap
  | .upsertResource _ => m
  | .deleteResource id => fun k => if k.1 = id then none else m k
  | .updateFilters id filters => fun k => if k.1 = id then (m k).map fun _ => filters else m k
  | .assignPrincipal id principal filters =>
      if id = "" ∨ principal = "" then m
      else fun k => if k = (id, principal) then some filters else m k
  | .removeAssignment id principal => fun k => if k = (id, principal) then none else m k

section View

variable (as : List Authorization) (k : String × String)

theorem view_cons (a : Authorization) :
    view (a :: as) k = if a.key = k then some a.filters else view as k := by
  rw [view, List.find?_cons]
  by_cases hk : a.key = k
  · rw [if_pos hk, decide_eq_true hk]
    rfl
  · rw [if_neg hk, decide_eq_false hk]
    rfl

theorem view_filter {p : Authorization → Bool} {q : String × String → Bool}
    (hp : ∀ a, p a = q a.key) : view (as.filter p) k = if q k = true then view as k else none := by
  rw [view, List.find?_filter]
  split
  next hq =>
    have hsame : (fun a : Authorization => decide (p a = true ∧ decide (a.key = k) = true)) =
        fun a => decide (a.key = k) := by
      funext a
      by_cases ha : a.key = k
      · simp [hp, ha, hq]
      · simp [ha]
    rw [hsame]
    rfl
  next hq =>
    have hnone : as.find? (fun a => decide (p a = true ∧ decide (a.key = k) = true)) = none := by
      rw [List.find?_eq_none]
      intro a _ hboth
      obtain ⟨ha, hk⟩ := of_decide_eq_true hboth
      rw [hp, of_decide_eq_true hk] at ha
      exact hq ha
    rw [hnone]
    rfl

theorem view_withFilters (id : String) (filters : List Filter) :
    view (as.map (ACLStore.withFilters id filters)) k =
      if k.1 = id then (view as k).map fun _ => filters else view as k := by
  rw [view, List.find?_map, Option.map_map]
  have hkeys : (fun a : Authorization => decide (a.key = k)) ∘ ACLStore.withFilters id filters =
      fun a => decide (a.key = k) := by
    funext a
    exact congrArg (fun key => decide (key = k)) (key_withFilters id filters a)
  rw [hkeys, view]
  cases hfind : as.find? fun a => decide (a.key = k) with
  | none => simp
  | some a =>
      have hkey : a.key = k := by simpa using List.find?_some hfind
      subst hkey
      by_cases hid : a.resourceId = id <;> simp [Authorization.key, ACLStore.withFilters, hid]

theorem view_assign (auth : Authorization) :
    view (ACLStore.assign auth as) k = if k = auth.key then some auth.filters else view as k := by
  induction as with
  | nil =>
      have hnone : view [] k = none := rfl
      rw [ACLStore.assign, view_cons, hnone]
      exact if_congr eq_comm rfl rfl
  | cons a as ih =>
      rw [ACLStore.assign]
      by_cases hkey : a.key = auth.key
      · rw [if_pos hkey, view_cons, view_cons]
        have hsame : Authorization.key { a with filters := auth.filters } = auth.key := hkey
        by_cases hk : k = auth.key
        · rw [if_pos (hsame.trans hk.symm), if_pos hk]
        · rw [if_neg fun h => hk (h.symm.trans hsame), if_neg hk,
            if_neg fun h => hk (h.symm.trans hkey)]
      · rw [if_neg hkey, view_cons, ih, view_cons]
        by_cases hk : k = auth.key
        · rw [if_pos hk, if_pos hk, if_neg fun h => hkey (h.trans hk)]
        · rw [if_neg hk, if_neg hk]

end View

/-- **One call on the list is one call on the map.** -/
theorem view_after (s : ACLStore) (c : Call) :
    view (after s c).authorizations = apply (view s.authorizations) c := by
  funext k
  cases c with
  | upsertResource res =>
      simp only [after, ACLStore.upsertResource, apply]
      split <;> rfl
  | deleteResource id =>
      have hview := view_filter s.authorizations k
        (p := fun a => decide (a.resourceId ≠ id)) (q := fun k => decide (k.1 ≠ id)) fun _ => rfl
      refine hview.trans ?_
      by_cases hk : k.1 = id <;> simp [apply, hk]
  | updateFilters id filters => exact view_withFilters s.authorizations k id filters
  | assignPrincipal id principal filters =>
      simp only [after, ACLStore.assignPrincipal, apply]
      by_cases hids : id = "" ∨ principal = ""
      · rw [if_pos hids, if_pos hids]
        rfl
      · rw [if_neg hids, if_neg hids]
        exact view_assign s.authorizations k ⟨principal, id, filters⟩
  | removeAssignment id principal =>
      have hview := view_filter s.authorizations k
        (p := fun a => decide (¬ (a.resourceId = id ∧ a.principalSpiffe = principal)))
        (q := fun k => decide (k ≠ (id, principal))) fun a => by simp [Authorization.key]
      refine hview.trans ?_
      by_cases hk : k = (id, principal) <;> simp [apply, hk]

theorem view_loadACLsFromDB (resources : List Resource) (rows : Table AuthorizationRow.key) :
    view (loadACLsFromDB resources rows.rows).authorizations = tableView rows := by
  funext k
  have hkeys : (fun a : Authorization => decide (a.key = k)) ∘ AuthorizationRow.load =
      fun r => decide (r.key = k) := rfl
  rw [loadACLsFromDB_authorizations, view, List.find?_map, hkeys, Option.map_map]
  rfl

/-! ## The order -/

def keys (s : ACLStore) : List (String × String) := s.authorizations.map Authorization.key

/-- The call takes the pair out, if it is there. -/
def Removes (k : String × String) : Call → Prop
  | .deleteResource id => k.1 = id
  | .removeAssignment id principal => k = (id, principal)
  | _ => False

instance (k : String × String) : DecidablePred (Removes k) := fun c => by
  cases c <;> unfold Removes <;> infer_instance

/-- No call takes the pair out. -/
def survives (calls : List Call) (k : String × String) : Bool :=
  calls.all fun c => ¬ Removes k c

theorem filter_removes_eq_self {c : Call} (ks : List (String × String))
    (h : ∀ k, ¬ Removes k c) : ks.filter (fun k => ¬ Removes k c) = ks :=
  List.filter_eq_self.mpr fun k _ => decide_eq_true (h k)

/-- **What a call does to the order.** -/
theorem keys_after (s : ACLStore) (c : Call) :
    ∃ added, keys (after s c) = (keys s).filter (fun k => ¬ Removes k c) ++ added ∧
      added.Nodup ∧ ∀ k ∈ added, k ∉ keys s := by
  cases c with
  | upsertResource res =>
      refine ⟨[], ?_, List.nodup_nil, fun _ h => absurd h List.not_mem_nil⟩
      rw [filter_removes_eq_self (c := .upsertResource res) _ fun _ h => h, List.append_nil]
      simp only [after, ACLStore.upsertResource]
      split <;> rfl
  | deleteResource id =>
      refine ⟨[], ?_, List.nodup_nil, fun _ h => absurd h List.not_mem_nil⟩
      rw [List.append_nil, keys, keys, List.filter_map]
      rfl
  | updateFilters id filters =>
      refine ⟨[], ?_, List.nodup_nil, fun _ h => absurd h List.not_mem_nil⟩
      rw [filter_removes_eq_self (c := .updateFilters id filters) _ fun _ h => h, List.append_nil]
      exact keys_updateFilters s id filters
  | assignPrincipal id principal filters =>
      rw [filter_removes_eq_self (c := .assignPrincipal id principal filters) _ fun _ h => h]
      simp only [after, ACLStore.assignPrincipal]
      by_cases hids : id = "" ∨ principal = ""
      · rw [if_pos hids]
        exact ⟨[], (List.append_nil _).symm, List.nodup_nil, fun _ h => absurd h List.not_mem_nil⟩
      · rw [if_neg hids]
        have hkeys := keys_assign ⟨principal, id, filters⟩ s.authorizations
        split at hkeys
        next hmem =>
          exact ⟨[], hkeys.trans (List.append_nil _).symm, List.nodup_nil,
            fun _ h => absurd h List.not_mem_nil⟩
        next hmem =>
          refine ⟨[(id, principal)], hkeys, List.nodup_singleton _, fun k hk => ?_⟩
          rw [List.mem_singleton.mp hk]
          exact hmem
  | removeAssignment id principal =>
      refine ⟨[], ?_, List.nodup_nil, fun _ h => absurd h List.not_mem_nil⟩
      rw [List.append_nil, keys, keys, List.filter_map]
      refine congrArg (List.map Authorization.key) (List.filter_congr fun a _ => ?_)
      simp [Removes, Authorization.key]

theorem nodup_keys_after {s : ACLStore} (h : (keys s).Nodup) (c : Call) :
    (keys (after s c)).Nodup := by
  obtain ⟨added, hkeys, hnodup, hnew⟩ := keys_after s c
  rw [hkeys]
  refine List.nodup_append.mpr ⟨h.filter _, hnodup, ?_⟩
  rintro k hk _ hadded rfl
  exact hnew k hadded (List.mem_filter.mp hk).1

theorem nodup_keys_loadACLsFromDB (resources : List Resource)
    (rows : Table AuthorizationRow.key) : (keys (loadACLsFromDB resources rows.rows)).Nodup := by
  rw [keys, loadACLsFromDB_authorizations, List.map_map]
  exact rows.keys_nodup

/-! ## Runs -/

/-- The pairs that survive come first, in the order they had. -/
theorem survivors_after (calls : List Call) (s : ACLStore) :
    (keys s).filter (survives calls) <+: (keys (calls.foldl after s)).filter (survives calls) := by
  induction calls generalizing s with
  | nil => exact List.prefix_rfl
  | cons c calls ih =>
      obtain ⟨added, hkeys, -, -⟩ := keys_after s c
      have hsurvives : ∀ ks : List (String × String), ks.filter (survives (c :: calls)) =
          (ks.filter (fun k => ¬ Removes k c)).filter (survives calls) := by
        intro ks
        rw [List.filter_filter]
        exact List.filter_congr fun k _ => Bool.and_comm _ _
      have hcomm : ∀ ks : List (String × String),
          (ks.filter (fun k => ¬ Removes k c)).filter (survives calls) =
            (ks.filter (survives calls)).filter (fun k => ¬ Removes k c) := by
        intro ks
        rw [List.filter_filter, List.filter_filter]
        exact List.filter_congr fun k _ => Bool.and_comm _ _
      -- the later calls, with the pairs that this one takes out left out
      have hlater := (ih (after s c)).filter (fun k => decide (¬ Removes k c))
      rw [← hcomm, ← hcomm] at hlater
      rw [List.foldl_cons, hsurvives, hsurvives]
      refine List.IsPrefix.trans ?_ hlater
      have htwice : ((keys s).filter (fun k => ¬ Removes k c)).filter (fun k => ¬ Removes k c) =
          (keys s).filter (fun k => ¬ Removes k c) := by
        rw [List.filter_filter]
        simp only [Bool.and_self]
      rw [hkeys, List.filter_append, List.filter_append, htwice]
      exact List.prefix_append _ _

/-- The loops on the backing arrays are the calls on lists, over any run. -/
theorem run_refines (room : Nat → Nat) (calls : List Call) (s : SliceStore) :
    ∃ s', run (SliceStore.step room) s calls = some s' ∧
      s'.store = calls.foldl after s.store := by
  induction calls generalizing s with
  | nil => exact ⟨s, rfl, rfl⟩
  | cons c calls ih =>
      obtain ⟨t, hstep, hstore⟩ := step_refines room s c
      obtain ⟨s', hrun, hfold⟩ := ih t
      refine ⟨s', run_cons.mpr ⟨t, hstep, hrun⟩, ?_⟩
      rw [hfold, hstore, List.foldl_cons]

theorem view_foldl (calls : List Call) (s : ACLStore) :
    view (calls.foldl after s).authorizations = calls.foldl apply (view s.authorizations) :=
  (List.foldl_hom (fun s : ACLStore => view s.authorizations) fun s c => (view_after s c).symm).symm

theorem nodup_keys_foldl (calls : List Call) {s : ACLStore} (h : (keys s).Nodup) :
    (keys (calls.foldl after s)).Nodup := by
  induction calls generalizing s with
  | nil => exact h
  | cons c calls ih => exact ih (nodup_keys_after h c)

/-- **The store is a finite map.**  Whichever rows the tables had and whichever calls came, the
pairs are distinct, the filters of each are those that the calls say, and since any earlier
moment the pairs that were not taken out have kept their order, in front of the others. -/
theorem refines_map (room : Nat → Nat) (resources : Table Resource.id)
    (rows : Table AuthorizationRow.key) (earlier later : List Call) :
    ∃ s₁ s₂, run (SliceStore.step room)
        (SliceStore.loadACLsFromDB room resources.rows rows.rows) earlier = some s₁ ∧
      run (SliceStore.step room) s₁ later = some s₂ ∧
      (keys s₂.store).Nodup ∧
      view s₂.store.authorizations = (earlier ++ later).foldl apply (tableView rows) ∧
      (keys s₁.store).filter (survives later) <+: (keys s₂.store).filter (survives later) := by
  obtain ⟨s₁, hrun₁, hstore₁⟩ := run_refines room earlier
    (SliceStore.loadACLsFromDB room resources.rows rows.rows)
  obtain ⟨s₂, hrun₂, hstore₂⟩ := run_refines room later s₁
  rw [store_loadACLsFromDB] at hstore₁
  refine ⟨s₁, s₂, hrun₁, hrun₂, ?_, ?_, ?_⟩
  · rw [hstore₂, hstore₁]
    exact nodup_keys_foldl later (nodup_keys_foldl earlier (nodup_keys_loadACLsFromDB _ rows))
  · rw [hstore₂, hstore₁, view_foldl, view_foldl, view_loadACLsFromDB, List.foldl_append]
  · rw [hstore₂]
    exact survivors_after later s₁.store

end ZeroTrust.Controller.AclMap
