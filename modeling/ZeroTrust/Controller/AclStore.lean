/-
# `ZeroTrust.Controller.AclStore` — the ACL store and its two tables

The admin requests on resources and their principals write the store in memory
(`state/acl.go`) and then the database (`state/persistence.go`); `LoadACLsFromDB`
builds the store again from the tables when the controller starts.

                              store                        tables
    POST resource             the resource                 its row
    DELETE resource           the resource and all of
                                its authorizations         the resource's row
    PUT filters               its authorizations           their rows
    POST assign_principal     the authorization            its row
    DELETE assign_principal   the authorization            its row

The deletion of a resource is the one request whose two sides differ: it leaves the
rows of the authorizations behind, and a store that is loaded later has them again.
`row_iff` and `live_iff` (of `Tracks`) tell both sides from the requests so far, and
`rebuilt_iff` says for which sequences of requests the two agree.

The filters of an authorization are stored as JSON (`unmarshalFilters_marshalFilters`).
-/
import ZeroTrust.Lib.Run
import ZeroTrust.Text
import ZeroTrust.Controller.PolicySnapshot

namespace ZeroTrust.Controller.AclStore

open Lib

/-! ## The types -/

structure Filter where
  protocol : String
  portFrom : Int64
  portTo : Int64
  deriving DecidableEq

structure Resource where
  id : String
  name : String
  type : String
  address : String
  protocol : String
  portFrom : Option Int64
  portTo : Option Int64
  connectorId : String
  remoteNetworkId : String
  deriving DecidableEq

structure Authorization where
  principalSpiffe : String
  resourceId : String
  filters : List Filter
  deriving DecidableEq

/-- The pair that an authorization is found by. -/
def Authorization.key (a : Authorization) : String × String := (a.resourceId, a.principalSpiffe)

/-- A map from id to resource, and a slice. -/
structure ACLStore where
  resources : Table Resource.id
  authorizations : List Authorization

def newACLStore : ACLStore := ⟨∅, []⟩

structure AuthorizationRow where
  resourceId : String
  principalSpiffe : String
  filters : String
  deriving DecidableEq

/-- The primary key of `authorizations`. -/
def AuthorizationRow.key (r : AuthorizationRow) : String × String :=
  (r.resourceId, r.principalSpiffe)

/-! ## The filters column -/

/-- The fields have `omitempty`. -/
def Filter.toJson (f : Filter) : Json :=
  .obj ((if f.protocol = "" then [] else [("protocol", .str f.protocol)]) ++
    (if f.portFrom = 0 then [] else [("port_from", .num f.portFrom.toInt)]) ++
    (if f.portTo = 0 then [] else [("port_to", .num f.portTo.toInt)]))

def marshalFilters (filters : List Filter) : String :=
  if filters.isEmpty then "[]"
  else String.ofList (Json.render goEscape (.arr (filters.map Filter.toJson)))

/-- A member of an object goes to the field it names, in any case of letters; a value that
the field's type does not take leaves it as it is. -/
def Filter.setMember (f : Filter) : String × Json → Filter
  | (name, .str s) => if eqIgnoreAsciiCase name "protocol" then { f with protocol := s } else f
  | (name, .num n) =>
      if -2 ^ 63 ≤ n ∧ n < 2 ^ 63 then
        if eqIgnoreAsciiCase name "port_from" then { f with portFrom := Int64.ofInt n }
        else if eqIgnoreAsciiCase name "port_to" then { f with portTo := Int64.ofInt n }
        else f
      else f
  | _ => f

def Filter.zero : Filter := ⟨"", 0, 0⟩

def Filter.ofJson : Json → Filter
  | .obj kvs => kvs.foldl setMember zero
  | _ => zero

/-- The error of `json.Unmarshal` is dropped. -/
def unmarshalFilters (raw : String) : List Filter :=
  match Json.parse raw.toList with
  | some (.arr xs) => xs.map Filter.ofJson
  | _ => []

theorem Filter.setMember_protocol (f : Filter) (s : String) :
    f.setMember ("protocol", .str s) = { f with protocol := s } := rfl

theorem Filter.setMember_portFrom (f : Filter) (v : Int64) :
    f.setMember ("port_from", .num v.toInt) = { f with portFrom := v } := by
  have hname : eqIgnoreAsciiCase "port_from" "port_from" = true := rfl
  rw [setMember, if_pos ⟨v.le_toInt, v.toInt_lt⟩, if_pos hname, Int64.ofInt_toInt]

theorem Filter.setMember_portTo (f : Filter) (v : Int64) :
    f.setMember ("port_to", .num v.toInt) = { f with portTo := v } := by
  have hname : ¬ eqIgnoreAsciiCase "port_to" "port_from" = true := by decide
  have hname' : eqIgnoreAsciiCase "port_to" "port_to" = true := rfl
  rw [setMember, if_pos ⟨v.le_toInt, v.toInt_lt⟩, if_neg hname, if_pos hname', Int64.ofInt_toInt]

theorem Filter.ofJson_toJson (f : Filter) : ofJson f.toJson = f := by
  obtain ⟨protocol, portFrom, portTo⟩ := f
  -- a field that is left out has the zero it is given here
  by_cases h₁ : protocol = "" <;> by_cases h₂ : portFrom = 0 <;> by_cases h₃ : portTo = 0 <;>
    simp [ofJson, toJson, zero, setMember_protocol, setMember_portFrom, setMember_portTo, h₁, h₂,
      h₃]

theorem Filter.integral_toJson (f : Filter) : f.toJson.integral = true := by
  obtain ⟨protocol, portFrom, portTo⟩ := f
  by_cases h₁ : protocol = "" <;> by_cases h₂ : portFrom = 0 <;> by_cases h₃ : portTo = 0 <;>
    simp [toJson, h₁, h₂, h₃, Json.integral, Json.integralFields]

/-- **Round trip.** -/
theorem unmarshalFilters_marshalFilters (filters : List Filter) :
    unmarshalFilters (marshalFilters filters) = filters := by
  cases filters with
  | nil => decide
  | cons f fs =>
      have hint : (Json.arr ((f :: fs).map Filter.toJson)).integral = true := by
        rw [Json.integral, Json.integralElems_iff]
        simp only [List.mem_map]
        rintro _ ⟨x, -, rfl⟩
        exact x.integral_toJson
      have hback : ((f :: fs).map Filter.toJson).map Filter.ofJson = f :: fs := by
        rw [List.map_map]
        exact List.map_id'' Filter.ofJson_toJson _
      simp only [unmarshalFilters, marshalFilters, List.isEmpty_cons, Bool.false_eq_true, if_false,
        String.toList_ofList, Json.parse_render escapes_goEscape hint, hback]

/-! ## The store -/

namespace ACLStore

def upsertResource (s : ACLStore) (res : Resource) : Except String ACLStore :=
  if res.id = "" then .error "resource id required"
  else .ok { s with resources := s.resources.put res }

def deleteResource (s : ACLStore) (resourceID : String) : ACLStore :=
  { s with
    resources := s.resources.filter fun r => r.id ≠ resourceID
    authorizations := s.authorizations.filter fun a => a.resourceId ≠ resourceID }

def withFilters (resourceID : String) (filters : List Filter) (a : Authorization) : Authorization :=
  if a.resourceId = resourceID then { a with filters } else a

def updateFilters (s : ACLStore) (resourceID : String) (filters : List Filter) : ACLStore :=
  { s with authorizations := s.authorizations.map (withFilters resourceID filters) }

/-- The first authorization of the pair gets the filters; if there is none, one is added. -/
def assign (auth : Authorization) : List Authorization → List Authorization
  | [] => [auth]
  | a :: as =>
      if a.key = auth.key then { a with filters := auth.filters } :: as else a :: assign auth as

def assignPrincipal (s : ACLStore) (resourceID principalSPIFFE : String) (filters : List Filter) :
    Except String ACLStore :=
  if resourceID = "" ∨ principalSPIFFE = "" then
    .error "resource_id and principal_spiffe required"
  else
    .ok { s with
          authorizations := assign ⟨principalSPIFFE, resourceID, filters⟩ s.authorizations }

def removeAssignment (s : ACLStore) (resourceID principal : String) : ACLStore :=
  { s with
    authorizations := s.authorizations.filter fun a =>
      ¬ (a.resourceId = resourceID ∧ a.principalSpiffe = principal) }

def addAuthorization (s : ACLStore) (auth : Authorization) : ACLStore :=
  { s with authorizations := s.authorizations ++ [auth] }

def addResource (s : ACLStore) (res : Resource) : ACLStore :=
  { s with resources := s.resources.put res }

end ACLStore

/-! ## The requests -/

/-- The store and the tables.  Of a row of `resources` only the columns that these
statements write are kept. -/
structure State where
  store : ACLStore
  resources : Table Resource.id
  authorizations : Table AuthorizationRow.key

def State.empty : State := ⟨newACLStore, ∅, ∅⟩

def Authorization.row (a : Authorization) : AuthorizationRow :=
  ⟨a.resourceId, a.principalSpiffe, marshalFilters a.filters⟩

/-- The body of POST assign_principal. -/
structure AssignRequest where
  principalSpiffe : String
  filters : List Filter

/-- A body is what the JSON decoder makes of it; `none` is an error. -/
inductive Request where
  | postResource (body : Option Resource)
  | deleteResource (resourceID : String)
  | putFilters (resourceID : String) (body : Option (List Filter))
  | postAssignPrincipal (resourceID : String) (body : Option AssignRequest)
  | deleteAssignPrincipal (resourceID principal : String)

structure HttpError where
  status : Nat
  message : String

namespace State

def saveAuthorizationToDB (s : State) (auth : Authorization) : State :=
  { s with authorizations := s.authorizations.put auth.row }

def badRequest {α : Type} (message : String) : Except HttpError α := .error ⟨400, message⟩

/-- `POST /api/admin/resources`. -/
def handleResources (s : State) : Option Resource → Except HttpError State
  | none => badRequest "invalid json"
  | some res =>
      match s.store.upsertResource res with
      | .error message => badRequest message
      | .ok store => .ok { s with store, resources := s.resources.put res }

def deleteResource (s : State) (resourceID : String) : State :=
  { s with
    store := s.store.deleteResource resourceID
    resources := s.resources.filter fun r => r.id ≠ resourceID }

def putFilters (s : State) (resourceID : String) : Option (List Filter) → Except HttpError State
  | none => badRequest "invalid json"
  | some filters =>
      let store := s.store.updateFilters resourceID filters
      let saved := store.authorizations.filter fun auth => auth.resourceId = resourceID
      .ok { s with
            store
            authorizations := (saved.map Authorization.row).foldl .put s.authorizations }

def postAssignPrincipal (s : State) (resourceID : String) :
    Option AssignRequest → Except HttpError State
  | none => badRequest "invalid json"
  | some req =>
      match s.store.assignPrincipal resourceID req.principalSpiffe req.filters with
      | .error message => badRequest message
      | .ok store =>
          .ok ({ s with store }.saveAuthorizationToDB
            ⟨req.principalSpiffe, resourceID, req.filters⟩)

def deleteAssignPrincipal (s : State) (resourceID principal : String) : State :=
  { s with
    store := s.store.removeAssignment resourceID principal
    authorizations := s.authorizations.filter fun r =>
      ¬ (r.resourceId = resourceID ∧ r.principalSpiffe = principal) }

/-- The requests under `/api/admin/resources/`, once the path is split. -/
def handleResourceSubroutes (resourceID : String) (handled : Except HttpError State) :
    Except HttpError State :=
  if resourceID = "" then badRequest "resource id required" else handled

def handle (s : State) : Request → Except HttpError State
  | .postResource body => s.handleResources body
  | .deleteResource id => handleResourceSubroutes id (.ok (s.deleteResource id))
  | .putFilters id body => handleResourceSubroutes id (s.putFilters id body)
  | .postAssignPrincipal id body => handleResourceSubroutes id (s.postAssignPrincipal id body)
  | .deleteAssignPrincipal id principal =>
      handleResourceSubroutes id (.ok (s.deleteAssignPrincipal id principal))

/-- A request that is refused leaves everything as it was. -/
def after (s : State) (r : Request) : State := (s.handle r).toOption.getD s

end State

/-! ## Loading -/

def AuthorizationRow.load (r : AuthorizationRow) : Authorization :=
  ⟨r.principalSpiffe, r.resourceId, unmarshalFilters r.filters⟩

def loadACLsFromDB (resources : List Resource) (authorizations : List AuthorizationRow) :
    ACLStore :=
  (authorizations.map AuthorizationRow.load).foldl .addAuthorization
    (resources.foldl .addResource newACLStore)

/-- Two snapshots with the same resources and the same authorizations, in any order. -/
structure SameSnapshot (s s' : ACLStore) : Prop where
  resources : ∀ r, r ∈ s.resources.rows ↔ r ∈ s'.resources.rows
  authorizations : ∀ a, a ∈ s.authorizations ↔ a ∈ s'.authorizations

/-- The store that is loaded is the one in use, whichever order the rows come in. -/
def InStep (s : State) : Prop :=
  ∀ resources authorizations, resources.Perm s.resources.rows →
    authorizations.Perm s.authorizations.rows →
    SameSnapshot (loadACLsFromDB resources authorizations) s.store

theorem foldl_addAuthorization (as : List Authorization) (s : ACLStore) :
    as.foldl .addAuthorization s = { s with authorizations := s.authorizations ++ as } := by
  induction as generalizing s with
  | nil => simp
  | cons a as ih => simp [ih, ACLStore.addAuthorization]

theorem foldl_addResource (rs : List Resource) (s : ACLStore) :
    rs.foldl .addResource s = { s with resources := rs.foldl .put s.resources } := by
  induction rs generalizing s with
  | nil => rfl
  | cons r rs ih => simp [ih, ACLStore.addResource]

theorem loadACLsFromDB_authorizations (rs : List Resource) (as : List AuthorizationRow) :
    (loadACLsFromDB rs as).authorizations = as.map AuthorizationRow.load := by
  simp [loadACLsFromDB, foldl_addAuthorization, foldl_addResource, newACLStore]

theorem mem_loadACLsFromDB_resources {rs : List Resource} (h : (rs.map Resource.id).Nodup)
    (as : List AuthorizationRow) {r : Resource} :
    r ∈ (loadACLsFromDB rs as).resources.rows ↔ r ∈ rs := by
  simp only [loadACLsFromDB, foldl_addAuthorization, foldl_addResource, newACLStore]
  exact Table.mem_rows_foldl_put h

theorem Authorization.load_row (a : Authorization) : a.row.load = a := by
  simp [row, AuthorizationRow.load, unmarshalFilters_marshalFilters]

theorem AuthorizationRow.key_load (r : AuthorizationRow) : r.load.key = r.key := rfl

theorem Authorization.key_row (a : Authorization) : a.row.key = a.key := rfl

/-- The order of the rows is of no account. -/
theorem inStep_iff {s : State} : InStep s ↔
    (∀ r, r ∈ s.resources.rows ↔ r ∈ s.store.resources.rows) ∧
      ∀ a, (∃ r ∈ s.authorizations.rows, r.load = a) ↔ a ∈ s.store.authorizations := by
  constructor
  · intro h
    obtain ⟨hresources, hauths⟩ := h s.resources.rows s.authorizations.rows .rfl .rfl
    refine ⟨fun r => ?_, fun a => ?_⟩
    · rw [← hresources, mem_loadACLsFromDB_resources s.resources.keys_nodup]
    · rw [← hauths, loadACLsFromDB_authorizations, List.mem_map]
  · rintro ⟨hresources, hauths⟩ rs as hrs has
    refine ⟨fun r => ?_, fun a => ?_⟩
    · have hnodup : (rs.map Resource.id).Nodup :=
        (hrs.map Resource.id).nodup_iff.mpr s.resources.keys_nodup
      rw [mem_loadACLsFromDB_resources hnodup, hrs.mem_iff, hresources]
    · rw [loadACLsFromDB_authorizations, (has.map _).mem_iff, List.mem_map, hauths]

/-! ## What the requests say -/

/-- The request gives the pair an authorization. -/
def Request.Assigns (k : String × String) : Request → Prop
  | .postAssignPrincipal id (some req) =>
      (id, req.principalSpiffe) = k ∧ id ≠ "" ∧ req.principalSpiffe ≠ ""
  | _ => False

def Request.Unassigns (k : String × String) : Request → Prop
  | .deleteAssignPrincipal id principal => (id, principal) = k ∧ id ≠ ""
  | _ => False

def Request.Deletes (resourceID : String) : Request → Prop
  | .deleteResource id => id = resourceID ∧ id ≠ ""
  | _ => False

def Request.Names (k : String × String) (r : Request) : Prop := r.Assigns k ∨ r.Unassigns k

/-- The last request that names the pair assigns it. -/
def Assigned (k : String × String) (requests : List Request) : Prop :=
  Since (fun r => ¬ r.Names k) (fun _ r => r.Assigns k) requests

/-- The resource of the pair was deleted while the pair was assigned, and no request since
then names the pair. -/
def LeftBehind (k : String × String) (requests : List Request) : Prop :=
  Since (fun r => ¬ r.Names k) (fun before r => Assigned k before ∧ r.Deletes k.1) requests

section History

variable {requests : List Request} {r : Request} {k : String × String}

theorem assigned_of_assigns (h : r.Assigns k) : Assigned k (requests ++ [r]) :=
  since_concat.mpr (Or.inl h)

theorem assigned_concat (h : ¬ r.Names k) : Assigned k (requests ++ [r]) ↔ Assigned k requests := by
  have hassigns : ¬ r.Assigns k := fun ha => h (Or.inl ha)
  unfold Assigned
  rw [since_concat]
  tauto

theorem not_assigned_of_unassigns (h : r.Unassigns k) : ¬ Assigned k (requests ++ [r]) := by
  unfold Assigned
  rw [since_concat]
  rintro (hassigns | ⟨-, hnames⟩)
  · cases r with
    | deleteAssignPrincipal id principal => exact hassigns
    | _ => exact h
  · exact hnames (Or.inr h)

theorem not_names_of_deletes {id : String} (h : r.Deletes id) : ¬ r.Names k := by
  cases r with
  | deleteResource => exact fun hnames => hnames.elim False.elim False.elim
  | _ => exact absurd h False.elim

theorem assigned_of_leftBehind (h : LeftBehind k requests) : Assigned k requests := by
  obtain ⟨pre, d, post, rfl, ⟨hassigned, hdeletes⟩, hpost⟩ := h
  refine since_append hassigned ?_
  intro x hx
  rcases List.mem_cons.mp hx with rfl | hx
  · exact not_names_of_deletes hdeletes
  · exact hpost x hx

theorem leftBehind_of_deletes (h : r.Deletes k.1) :
    LeftBehind k (requests ++ [r]) ↔ Assigned k requests := by
  unfold LeftBehind
  rw [since_concat]
  constructor
  · rintro (⟨hassigned, -⟩ | ⟨hleft, -⟩)
    · exact hassigned
    · exact assigned_of_leftBehind hleft
  · exact fun hassigned => Or.inl ⟨hassigned, h⟩

theorem not_leftBehind_of_names (h : r.Names k) : ¬ LeftBehind k (requests ++ [r]) := by
  unfold LeftBehind
  rw [since_concat]
  rintro (⟨-, hdeletes⟩ | ⟨-, hnot⟩)
  · exact not_names_of_deletes hdeletes h
  · exact hnot h

theorem leftBehind_concat (h : ¬ r.Names k) (hdeletes : ¬ r.Deletes k.1) :
    LeftBehind k (requests ++ [r]) ↔ LeftBehind k requests := by
  unfold LeftBehind
  rw [since_concat]
  tauto

end History

/-! ## The two sides, from the requests so far -/

section Assign

variable {auth : Authorization} {as : List Authorization}

theorem keys_assign (auth : Authorization) : ∀ as : List Authorization,
    (ACLStore.assign auth as).map Authorization.key =
      if auth.key ∈ as.map Authorization.key then as.map Authorization.key
      else as.map Authorization.key ++ [auth.key]
  | [] => rfl
  | a :: as => by
      rw [ACLStore.assign]
      split
      next hkey =>
        have hmem : auth.key ∈ (a :: as).map Authorization.key := by simp [hkey]
        rw [if_pos hmem]
        rfl
      next hkey =>
        have hmem : auth.key ∈ (a :: as).map Authorization.key ↔
            auth.key ∈ as.map Authorization.key := by
          simp [Ne.symm hkey]
        rw [List.map_cons, keys_assign auth as]
        by_cases h : auth.key ∈ as.map Authorization.key
        · rw [if_pos h, if_pos (hmem.mpr h)]
          rfl
        · rw [if_neg h, if_neg (mt hmem.mp h)]
          rfl

theorem mem_assign (hnodup : (as.map Authorization.key).Nodup) {x : Authorization}
    (hx : x ∈ ACLStore.assign auth as) : x = auth ∨ x ∈ as ∧ x.key ≠ auth.key := by
  induction as with
  | nil => exact Or.inl (List.mem_singleton.mp hx)
  | cons a as ih =>
      obtain ⟨hfresh, hrest⟩ := List.nodup_cons.mp hnodup
      rw [ACLStore.assign] at hx
      split at hx
      next hkey =>
        rcases List.mem_cons.mp hx with rfl | hx
        · obtain ⟨hid, hprincipal⟩ := Prod.mk.inj hkey
          left
          obtain ⟨_, _, _⟩ := auth
          simp_all
        · refine Or.inr ⟨List.mem_cons_of_mem a hx, fun heq => hfresh ?_⟩
          rw [hkey, ← heq]
          exact List.mem_map_of_mem hx
      next hkey =>
        rcases List.mem_cons.mp hx with rfl | hx
        · exact Or.inr ⟨List.mem_cons_self, hkey⟩
        · rcases ih hrest hx with rfl | ⟨hmem, hne⟩
          · exact Or.inl rfl
          · exact Or.inr ⟨List.mem_cons_of_mem a hmem, hne⟩

end Assign

/-- What the store and the tables hold after the requests. -/
structure Tracks (requests : List Request) (s : State) : Prop where
  resources : s.store.resources = s.resources
  keys_nodup : (s.store.authorizations.map Authorization.key).Nodup
  /-- An authorization of the store is in the table, with its filters. -/
  saved : ∀ a ∈ s.store.authorizations, s.authorizations.get a.key = some a.row
  row_iff : ∀ k, s.authorizations.get k ≠ none ↔ Assigned k requests
  live_iff : ∀ k, k ∈ s.store.authorizations.map Authorization.key ↔
    Assigned k requests ∧ ¬ LeftBehind k requests

section Tracks

variable {requests : List Request} {s : State} {r : Request}

theorem Tracks.empty : Tracks [] .empty where
  resources := rfl
  keys_nodup := List.nodup_nil
  saved a ha := absurd ha List.not_mem_nil
  row_iff k := by
    have hnone : State.empty.authorizations.get k = none := rfl
    simp [hnone, Assigned, not_since_nil]
  live_iff k := by simp [State.empty, newACLStore, Assigned, not_since_nil]

/-- A request that names no pair and deletes nothing, and leaves the authorizations. -/
theorem Tracks.of_quiet (h : Tracks requests s) {s' : State}
    (hquiet : ∀ k, ¬ r.Names k ∧ ¬ r.Deletes k.1) (hresources : s'.store.resources = s'.resources)
    (hkeys : s'.store.authorizations.map Authorization.key =
      s.store.authorizations.map Authorization.key)
    (hsaved : ∀ a ∈ s'.store.authorizations, s'.authorizations.get a.key = some a.row)
    (hrows : ∀ k, s'.authorizations.get k ≠ none ↔ s.authorizations.get k ≠ none) :
    Tracks (requests ++ [r]) s' where
  resources := hresources
  keys_nodup := hkeys ▸ h.keys_nodup
  saved := hsaved
  row_iff k := by rw [hrows, h.row_iff, assigned_concat (hquiet k).1]
  live_iff k := by
    rw [hkeys, h.live_iff, assigned_concat (hquiet k).1,
      leftBehind_concat (hquiet k).1 (hquiet k).2]

theorem Tracks.postResource (h : Tracks requests s) (res : Resource) :
    Tracks (requests ++ [.postResource (some res)])
      { s with
        store := { s.store with resources := s.store.resources.put res }
        resources := s.resources.put res } := by
  refine h.of_quiet (fun k => ⟨fun hnames => hnames.elim False.elim False.elim, id⟩) ?_ rfl
    h.saved fun _ => Iff.rfl
  show s.store.resources.put res = s.resources.put res
  rw [h.resources]

theorem Tracks.deleteResource (h : Tracks requests s) {id : String} (hid : id ≠ "") :
    Tracks (requests ++ [.deleteResource id]) (s.deleteResource id) where
  resources := by
    show Table.filter _ _ = Table.filter _ _
    rw [h.resources]
  keys_nodup := h.keys_nodup.sublist (List.filter_sublist.map Authorization.key)
  saved a ha := h.saved a (List.mem_filter.mp ha).1
  row_iff k := by
    rw [assigned_concat fun hnames => hnames.elim False.elim False.elim, ← h.row_iff]
    rfl
  live_iff k := by
    have hnames : ¬ (Request.deleteResource id).Names k := fun hn => hn.elim False.elim False.elim
    have hlive : k ∈ (s.deleteResource id).store.authorizations.map Authorization.key ↔
        k ∈ s.store.authorizations.map Authorization.key ∧ k.1 ≠ id := by
      simp only [State.deleteResource, ACLStore.deleteResource, List.mem_map, List.mem_filter,
        decide_eq_true_eq]
      constructor
      · rintro ⟨a, ⟨ha, hne⟩, rfl⟩
        exact ⟨⟨a, ha, rfl⟩, hne⟩
      · rintro ⟨⟨a, ha, rfl⟩, hne⟩
        exact ⟨a, ⟨ha, hne⟩, rfl⟩
    rw [hlive, h.live_iff, assigned_concat hnames]
    by_cases hk : k.1 = id
    · have hdeletes : (Request.deleteResource id).Deletes k.1 := ⟨hk.symm, hid⟩
      rw [leftBehind_of_deletes hdeletes]
      tauto
    · have hdeletes : ¬ (Request.deleteResource id).Deletes k.1 := fun hd => hk hd.1.symm
      rw [leftBehind_concat hnames hdeletes]
      tauto

theorem key_withFilters (id : String) (filters : List Filter) (a : Authorization) :
    (ACLStore.withFilters id filters a).key = a.key := by
  unfold ACLStore.withFilters
  split <;> rfl

theorem keys_updateFilters (store : ACLStore) (id : String) (filters : List Filter) :
    (store.updateFilters id filters).authorizations.map Authorization.key =
      store.authorizations.map Authorization.key := by
  simp only [ACLStore.updateFilters, List.map_map]
  exact List.map_congr_left fun a _ => key_withFilters id filters a

theorem Tracks.putFilters (h : Tracks requests s) {s' : State} {id : String} {filters : List Filter}
    (hs' : s.putFilters id (some filters) = .ok s') :
    Tracks (requests ++ [.putFilters id (some filters)]) s' := by
  obtain rfl := Except.ok.inj hs'
  have hkeys := keys_updateFilters s.store id filters
  set live := (s.store.updateFilters id filters).authorizations with hlive
  have hnodup : (((live.filter fun a => a.resourceId = id).map Authorization.row).map
      AuthorizationRow.key).Nodup := by
    rw [List.map_map]
    exact (hkeys ▸ h.keys_nodup).sublist (List.filter_sublist.map Authorization.key)
  refine h.of_quiet (fun k => ⟨fun hnames => hnames.elim False.elim False.elim, False.elim⟩)
    h.resources hkeys ?_ ?_
  · intro a ha
    by_cases hid : a.resourceId = id
    · refine Table.get_foldl_put _ _ hnodup a.row (List.mem_map_of_mem ?_)
      exact List.mem_filter.mpr ⟨ha, decide_eq_true hid⟩
    · -- the other resources' authorizations are as they were, in the store and in the table
      have hsame : a ∈ s.store.authorizations := by
        obtain ⟨old, hold, rfl⟩ := List.mem_map.mp ha
        unfold ACLStore.withFilters at hid ⊢
        split at hid
        next heq => exact absurd heq hid
        next heq => rwa [if_neg heq]
      have hother : ∀ row ∈ (live.filter fun a => a.resourceId = id).map Authorization.row,
          row.key ≠ a.key := by
        simp only [List.mem_map, List.mem_filter, decide_eq_true_eq]
        rintro _ ⟨b, ⟨-, hb⟩, rfl⟩ heq
        exact hid ((Prod.mk.inj heq).1.symm.trans hb)
      exact (Table.get_foldl_put_of_ne _ _ hother).trans (h.saved a hsame)
  · intro k
    by_cases hk : ∃ row ∈ (live.filter fun a => a.resourceId = id).map Authorization.row,
        row.key = k
    · obtain ⟨row, hrow, rfl⟩ := hk
      have hold : s.authorizations.get row.key ≠ none := by
        obtain ⟨a, ha, rfl⟩ := List.mem_map.mp hrow
        have hmem : a.key ∈ s.store.authorizations.map Authorization.key :=
          hkeys ▸ List.mem_map_of_mem (List.mem_filter.mp ha).1
        exact (h.row_iff a.key).mpr ((h.live_iff a.key).mp hmem).1
      have hnew := Table.get_foldl_put _ s.authorizations hnodup row hrow
      exact ⟨fun _ => hold, fun _ hnone => by cases hnew.symm.trans hnone⟩
    · push Not at hk
      exact not_congr (by rw [Table.get_foldl_put_of_ne _ s.authorizations hk])

theorem Tracks.postAssignPrincipal (h : Tracks requests s) {id principal : String}
    {filters : List Filter} (hid : id ≠ "") (hprincipal : principal ≠ "") :
    Tracks (requests ++ [.postAssignPrincipal id (some ⟨principal, filters⟩)])
      ({ s with
        store := { s.store with
          authorizations := ACLStore.assign ⟨principal, id, filters⟩ s.store.authorizations }
        }.saveAuthorizationToDB ⟨principal, id, filters⟩) := by
  set r : Request := .postAssignPrincipal id (some ⟨principal, filters⟩) with hr
  set auth : Authorization := ⟨principal, id, filters⟩ with hauth
  have hassigns : r.Assigns auth.key := ⟨rfl, hid, hprincipal⟩
  have hnames : ∀ {k}, k ≠ auth.key → ¬ r.Names k := by
    rintro k hk (⟨heq, -⟩ | hun)
    · exact hk heq.symm
    · exact hun
  have hmem : ∀ k, k ∈ (ACLStore.assign auth s.store.authorizations).map Authorization.key ↔
      k = auth.key ∨ k ∈ s.store.authorizations.map Authorization.key := by
    intro k
    rw [keys_assign]
    split
    next hin =>
      refine ⟨Or.inr, ?_⟩
      rintro (rfl | hk)
      · exact hin
      · exact hk
    next => simp [or_comm]
  refine ⟨h.resources, ?_, ?_, ?_, ?_⟩
  · show ((ACLStore.assign auth s.store.authorizations).map Authorization.key).Nodup
    rw [keys_assign]
    split
    next => exact h.keys_nodup
    next hfresh =>
      have hnodup := nodup_keys_append (r := auth) h.keys_nodup hfresh
      rwa [List.map_append] at hnodup
  · intro a ha
    show (s.authorizations.put auth.row).get a.key = some a.row
    rw [Table.get_put, Authorization.key_row]
    rcases mem_assign h.keys_nodup ha with rfl | ⟨hold, hne⟩
    · exact if_pos rfl
    · rw [if_neg hne, h.saved a hold]
  · intro k
    show (s.authorizations.put auth.row).get k ≠ none ↔ _
    rw [Table.get_put, Authorization.key_row]
    by_cases hk : k = auth.key
    · rw [if_pos hk, hk]
      exact ⟨fun _ => assigned_of_assigns hassigns, fun _ => Option.some_ne_none _⟩
    · rw [if_neg hk, h.row_iff, assigned_concat (hnames hk)]
  · intro k
    refine (hmem k).trans ?_
    by_cases hk : k = auth.key
    · subst hk
      exact ⟨fun _ => ⟨assigned_of_assigns hassigns, not_leftBehind_of_names (Or.inl hassigns)⟩,
        fun _ => Or.inl rfl⟩
    · rw [h.live_iff, assigned_concat (hnames hk), leftBehind_concat (hnames hk) False.elim]
      tauto

theorem Tracks.deleteAssignPrincipal (h : Tracks requests s) {id principal : String}
    (hid : id ≠ "") :
    Tracks (requests ++ [.deleteAssignPrincipal id principal])
      (s.deleteAssignPrincipal id principal) := by
  set r : Request := .deleteAssignPrincipal id principal with hr
  have hunassigns : r.Unassigns (id, principal) := ⟨rfl, hid⟩
  have hnames : ∀ {k}, k ≠ (id, principal) → ¬ r.Names k := by
    rintro k hk (ha | ⟨heq, -⟩)
    · exact ha
    · exact hk heq.symm
  have hget : ∀ k, (s.deleteAssignPrincipal id principal).authorizations.get k =
      if k = (id, principal) then none else s.authorizations.get k := by
    intro k
    rw [← Table.get_filter_ne]
    simp [State.deleteAssignPrincipal, AuthorizationRow.key]
  have hmem : ∀ a, a ∈ (s.deleteAssignPrincipal id principal).store.authorizations ↔
      a ∈ s.store.authorizations ∧ a.key ≠ (id, principal) := by
    simp [State.deleteAssignPrincipal, ACLStore.removeAssignment, Authorization.key, imp_iff_not_or]
  refine ⟨h.resources, ?_, ?_, ?_, ?_⟩
  · exact h.keys_nodup.sublist (List.filter_sublist.map Authorization.key)
  · intro a ha
    obtain ⟨hold, hne⟩ := (hmem a).mp ha
    rw [hget, if_neg hne, h.saved a hold]
  · intro k
    rw [hget]
    by_cases hk : k = (id, principal)
    · rw [if_pos hk, hk]
      exact ⟨fun hnone => absurd rfl hnone,
        fun ha => absurd ha (not_assigned_of_unassigns hunassigns)⟩
    · rw [if_neg hk, h.row_iff, assigned_concat (hnames hk)]
  · intro k
    have hkeys : k ∈ (s.deleteAssignPrincipal id principal).store.authorizations.map
        Authorization.key ↔
        k ∈ s.store.authorizations.map Authorization.key ∧ k ≠ (id, principal) := by
      simp only [List.mem_map, hmem]
      constructor
      · rintro ⟨a, ⟨ha, hne⟩, rfl⟩
        exact ⟨⟨a, ha, rfl⟩, hne⟩
      · rintro ⟨⟨a, ha, rfl⟩, hne⟩
        exact ⟨a, ⟨ha, hne⟩, rfl⟩
    rw [hkeys]
    by_cases hk : k = (id, principal)
    · subst hk
      exact ⟨fun hin => absurd rfl hin.2,
        fun hin => absurd hin.1 (not_assigned_of_unassigns hunassigns)⟩
    · rw [h.live_iff, assigned_concat (hnames hk), leftBehind_concat (hnames hk) False.elim]
      tauto

theorem subroutes_ok {id : String} {handled : Except HttpError State} {s' : State} :
    State.handleResourceSubroutes id handled = .ok s' ↔ id ≠ "" ∧ handled = .ok s' := by
  unfold State.handleResourceSubroutes
  by_cases hid : id = "" <;> simp [hid, State.badRequest]

theorem postAssignPrincipal_eq {id : String} {req : AssignRequest} (hid : id ≠ "")
    (hprincipal : req.principalSpiffe ≠ "") :
    s.postAssignPrincipal id (some req) = .ok ({ s with
      store := { s.store with
        authorizations :=
          ACLStore.assign ⟨req.principalSpiffe, id, req.filters⟩ s.store.authorizations }
      }.saveAuthorizationToDB ⟨req.principalSpiffe, id, req.filters⟩) := by
  simp only [State.postAssignPrincipal, ACLStore.assignPrincipal]
  rw [if_neg (not_or.mpr ⟨hid, hprincipal⟩)]

theorem Tracks.handled (h : Tracks requests s) {s' : State} (hs' : s.handle r = .ok s') :
    Tracks (requests ++ [r]) s' := by
  cases r with
  | postResource body =>
      cases body with
      | none => cases hs'
      | some res =>
          simp only [State.handle, State.handleResources, ACLStore.upsertResource] at hs'
          by_cases hid : res.id = ""
          · rw [if_pos hid] at hs'
            cases hs'
          · rw [if_neg hid] at hs'
            obtain rfl := Except.ok.inj hs'
            exact h.postResource res
  | deleteResource id =>
      obtain ⟨hid, hok⟩ := subroutes_ok.mp hs'
      obtain rfl := Except.ok.inj hok
      exact h.deleteResource hid
  | putFilters id body =>
      obtain ⟨-, hok⟩ := subroutes_ok.mp hs'
      cases body with
      | none => cases hok
      | some filters => exact h.putFilters hok
  | postAssignPrincipal id body =>
      obtain ⟨hid, hok⟩ := subroutes_ok.mp hs'
      cases body with
      | none => cases hok
      | some req =>
          by_cases hprincipal : req.principalSpiffe = ""
          · simp only [State.postAssignPrincipal, ACLStore.assignPrincipal] at hok
            rw [if_pos (Or.inr hprincipal)] at hok
            cases hok
          · rw [postAssignPrincipal_eq hid hprincipal] at hok
            obtain rfl := Except.ok.inj hok
            exact h.postAssignPrincipal hid hprincipal
  | deleteAssignPrincipal id principal =>
      obtain ⟨hid, hok⟩ := subroutes_ok.mp hs'
      obtain rfl := Except.ok.inj hok
      exact h.deleteAssignPrincipal hid

/-- What a request that assigns, unassigns or deletes has to meet, the handlers check. -/
theorem quiet_of_refused {e : HttpError} (h : s.handle r = .error e) (k : String × String) :
    ¬ r.Names k ∧ ¬ r.Deletes k.1 := by
  have hok : ∀ s', s.handle r ≠ .ok s' := fun s' hs' => by cases h.symm.trans hs'
  cases r with
  | postResource => exact ⟨fun hnames => hnames.elim False.elim False.elim, False.elim⟩
  | deleteResource id =>
      refine ⟨fun hnames => hnames.elim False.elim False.elim, fun hdeletes => ?_⟩
      exact hok _ (subroutes_ok.mpr ⟨hdeletes.2, rfl⟩)
  | putFilters => exact ⟨fun hnames => hnames.elim False.elim False.elim, False.elim⟩
  | postAssignPrincipal id body =>
      refine ⟨fun hnames => hnames.elim (fun hassigns => ?_) False.elim, False.elim⟩
      cases body with
      | none => exact hassigns
      | some req =>
          obtain ⟨-, hid, hprincipal⟩ := hassigns
          exact hok _ (subroutes_ok.mpr ⟨hid, postAssignPrincipal_eq hid hprincipal⟩)
  | deleteAssignPrincipal id principal =>
      refine ⟨fun hnames => hnames.elim False.elim fun hunassigns => ?_, False.elim⟩
      exact hok _ (subroutes_ok.mpr ⟨hunassigns.2, rfl⟩)

theorem Tracks.after (h : Tracks requests s) (r : Request) :
    Tracks (requests ++ [r]) (s.after r) := by
  unfold State.after
  cases hr : s.handle r with
  | ok s' => exact h.handled hr
  | error e =>
      exact h.of_quiet (quiet_of_refused hr) h.resources rfl h.saved fun _ => Iff.rfl

theorem tracks_run (requests : List Request) :
    Tracks requests (requests.foldl State.after .empty) := by
  induction requests using List.reverseRecOn with
  | nil => exact .empty
  | append_singleton requests r ih =>
      rw [List.foldl_append]
      exact ih.after r

theorem Tracks.inStep_iff (h : Tracks requests s) :
    InStep s ↔ ∀ k, ¬ LeftBehind k requests := by
  rw [AclStore.inStep_iff, h.resources]
  constructor
  · rintro ⟨-, hauths⟩ k hleft
    have hassigned := assigned_of_leftBehind hleft
    obtain ⟨row, hrow⟩ := Option.ne_none_iff_exists'.mp ((h.row_iff k).mpr hassigned)
    obtain ⟨hmem, rfl⟩ := Table.get_eq_some.mp hrow
    have hlive : row.key ∈ s.store.authorizations.map Authorization.key :=
      List.mem_map.mpr ⟨row.load, (hauths row.load).mp ⟨row, hmem, rfl⟩, row.key_load⟩
    exact ((h.live_iff row.key).mp hlive).2 hleft
  · intro hnone
    refine ⟨fun _ => Iff.rfl, fun a => ⟨?_, fun ha => ?_⟩⟩
    · rintro ⟨row, hrow, rfl⟩
      have hget := Table.get_of_mem hrow
      have hassigned := (h.row_iff row.key).mp (by simp [hget])
      obtain ⟨a, ha, hkey⟩ := List.mem_map.mp ((h.live_iff row.key).mpr ⟨hassigned, hnone _⟩)
      have hsaved := h.saved a ha
      rw [hkey, hget, Option.some.injEq] at hsaved
      rwa [hsaved, a.load_row]
    · exact ⟨a.row, (Table.get_eq_some.mp (h.saved a ha)).1, a.load_row⟩

end Tracks

/-- **The store and its tables.**  After a sequence of requests, a store loaded from the
tables has the resources and the authorizations of the one in use if and only if no pair was
left behind by the deletion of its resource. -/
theorem rebuilt_iff (requests : List Request) :
    InStep (requests.foldl State.after .empty) ↔ ∀ k, ¬ LeftBehind k requests :=
  (tracks_run requests).inStep_iff

/-- A resource is made, a principal assigned to it, and the resource deleted. -/
def assignedThenDeleted : List Request :=
  [.postResource (some ⟨"db", "", "", "10.0.0.5", "", none, none, "", ""⟩),
    .postAssignPrincipal "db" (some ⟨"spiffe://mycorp.internal/agent/a1", []⟩),
    .deleteResource "db"]

/-- The authorization is gone from the store, and loading the tables brings it back. -/
theorem deleted_resource_authorizes :
    let s := assignedThenDeleted.foldl State.after .empty
    s.store.authorizations = [] ∧
    (loadACLsFromDB s.resources.rows s.authorizations.rows).authorizations =
      [⟨"spiffe://mycorp.internal/agent/a1", "db", []⟩] ∧
    ¬ InStep s := by
  have hlive : (assignedThenDeleted.foldl State.after .empty).store.authorizations = [] := by decide
  have hloaded : (loadACLsFromDB (assignedThenDeleted.foldl State.after .empty).resources.rows
      (assignedThenDeleted.foldl State.after .empty).authorizations.rows).authorizations =
      [⟨"spiffe://mycorp.internal/agent/a1", "db", []⟩] := by decide
  refine ⟨hlive, hloaded, ?_⟩
  intro h
  have hsame := (h _ _ .rfl .rfl).authorizations ⟨"spiffe://mycorp.internal/agent/a1", "db", []⟩
  rw [hlive, hloaded] at hsame
  exact List.not_mem_nil (hsame.mp List.mem_cons_self)

end ZeroTrust.Controller.AclStore
