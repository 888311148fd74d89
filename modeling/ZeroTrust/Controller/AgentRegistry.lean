/-
# `ZeroTrust.Controller.AgentRegistry` — the agents the controller knows

`state/tunneler.go` and the agent part of `state/persistence.go`.  An agent is kept in
three places:

    `AgentRegistry`         id and SPIFFE ID, for the allowlist; the first one added
                            under an id stays
    `AgentStatusRegistry`   the last report about it; each one replaces the one before
    `tunnelers`             the table both are loaded from when the controller starts

An `INSERT … ON CONFLICT DO UPDATE` is `Tunnelers.upsert`.  A map read in a loop and a
`SELECT` without `ORDER BY` come in any order.
-/
import Mathlib.Data.Finset.Basic
import ZeroTrust.Lib.Table
import ZeroTrust.Clock

namespace ZeroTrust.Controller

open Lib

/-! ## The registry behind the allowlist -/

structure AgentInfo where
  id : String
  spiffeId : String
  deriving DecidableEq

/-- `seen` holds the ids of `items`, each once. -/
structure AgentRegistry where
  items : List AgentInfo
  seen : Finset String
  mem_seen : ∀ id, id ∈ seen ↔ ∃ i ∈ items, i.id = id
  ids_nodup : (items.map AgentInfo.id).Nodup

namespace AgentRegistry

def new : AgentRegistry := ⟨[], ∅, by simp, by simp⟩

def add (r : AgentRegistry) (agentId spiffeId : String) : AgentRegistry :=
  if h : agentId ∈ r.seen then r
  else
    { items := r.items ++ [⟨agentId, spiffeId⟩]
      seen := insert agentId r.seen
      mem_seen := by
        intro id
        simp only [Finset.mem_insert, r.mem_seen, List.mem_append, List.mem_singleton]
        constructor
        · rintro (rfl | ⟨i, hi, hid⟩)
          · exact ⟨_, Or.inr rfl, rfl⟩
          · exact ⟨i, Or.inl hi, hid⟩
        · rintro ⟨i, hi | rfl, hid⟩
          · exact Or.inr ⟨i, hi, hid⟩
          · exact Or.inl hid.symm
      ids_nodup := by
        refine Lib.nodup_keys_append r.ids_nodup ?_
        intro hmem
        obtain ⟨i, hi, hid⟩ := List.mem_map.mp hmem
        exact h ((r.mem_seen agentId).mpr ⟨i, hi, hid⟩) }

def list (r : AgentRegistry) : List AgentInfo := r.items

/-- The SPIFFE ID listed for an agent. -/
def spiffeOf (r : AgentRegistry) (id : String) : Option String :=
  (r.items.find? fun i => i.id = id).map AgentInfo.spiffeId

theorem mem_list_iff {r : AgentRegistry} {id spiffeId : String} :
    ⟨id, spiffeId⟩ ∈ r.list ↔ r.spiffeOf id = some spiffeId := by
  rw [spiffeOf, Option.map_eq_some_iff]
  constructor
  · intro hmem
    cases hfind : r.items.find? (fun i => i.id = id) with
    | none => simpa using List.find?_eq_none.mp hfind _ hmem
    | some found =>
        have hid : found.id = id := by simpa using List.find?_some hfind
        have hsame :=
          List.inj_on_of_nodup_map r.ids_nodup (List.mem_of_find?_eq_some hfind) hmem hid
        exact ⟨found, rfl, by rw [hsame]⟩
  · rintro ⟨found, hfind, rfl⟩
    obtain rfl : found.id = id := by simpa using List.find?_some hfind
    exact List.mem_of_find?_eq_some hfind

/-- A known id keeps its SPIFFE ID. -/
theorem spiffeOf_add (r : AgentRegistry) (id spiffeId q : String) :
    (r.add id spiffeId).spiffeOf q =
      (r.spiffeOf q).or (if q = id then some spiffeId else none) := by
  unfold add
  split
  next hseen =>
    by_cases hq : q = id
    · subst hq
      obtain ⟨i, hi, hid⟩ := (r.mem_seen q).mp hseen
      obtain ⟨found, hfound⟩ : ∃ found, r.items.find? (fun i => i.id = q) = some found :=
        Option.isSome_iff_exists.mp (List.find?_isSome.mpr ⟨i, hi, by simpa using hid⟩)
      simp [spiffeOf, hfound]
    · simp [hq]
  · rw [spiffeOf, List.find?_append, Option.map_or]
    by_cases hq : q = id
    · simp [spiffeOf, hq]
    · simp [spiffeOf, hq, Ne.symm hq]

end AgentRegistry

/-! ## Status reports -/

structure AgentStatusRecord where
  id : String
  spiffeId : String
  connectorId : String
  lastSeen : SystemTime
  deriving DecidableEq

/-- A map of records by id. -/
abbrev AgentStatusRegistry := Table AgentStatusRecord.id

/-- `Record`. -/
def AgentStatusRegistry.record (r : AgentStatusRegistry) (agentId spiffeId connectorId : String)
    (now : SystemTime) : AgentStatusRegistry :=
  r.put ⟨agentId, spiffeId, connectorId, now⟩

/-! ## The table -/

/-- A row, without the columns that none of these statements names. -/
structure TunnelerRow where
  id : String
  spiffeId : String
  connectorId : String
  status : String
  version : String
  hostname : String
  lastSeen : Int
  lastSeenAt : String
  installed : Int
  deriving DecidableEq

abbrev Tunnelers := Table TunnelerRow.id

namespace Tunnelers

/-- `INSERT row ON CONFLICT(id) DO UPDATE`. -/
def upsert (t : Tunnelers) (row : TunnelerRow) (update : TunnelerRow → TunnelerRow) : Tunnelers :=
  match t.get row.id with
  | none => t.put row
  | some old => t.put (update old)

/-- The statement of `NotifyAgentAllowed`. -/
def allow (t : Tunnelers) (agentId spiffeId version hostname : String) (now : SystemTime) :
    Tunnelers :=
  t.upsert
    { id := agentId, spiffeId, connectorId := "", status := "offline", version, hostname
      lastSeen := now / nanosPerSec, lastSeenAt := "", installed := 0 }
    fun old => { old with spiffeId, version, hostname, lastSeen := now / nanosPerSec }

/-- `SaveAgentToDB`. -/
def saveAgent (t : Tunnelers) (r : AgentStatusRecord) : Tunnelers :=
  t.upsert
    { id := r.id, spiffeId := r.spiffeId, connectorId := r.connectorId, status := "online"
      version := "", hostname := "", lastSeen := r.lastSeen / nanosPerSec
      lastSeenAt := formatRfc3339 r.lastSeen, installed := 1 }
    fun old =>
      { old with
        spiffeId := r.spiffeId, connectorId := r.connectorId
        lastSeen := r.lastSeen / nanosPerSec, lastSeenAt := formatRfc3339 r.lastSeen
        status := "online", installed := 1 }

/-- The SPIFFE ID stored for an agent. -/
def spiffeOf (t : Tunnelers) (id : String) : Option String := (t.get id).map TunnelerRow.spiffeId

theorem get_upsert (t : Tunnelers) {row : TunnelerRow} {update : TunnelerRow → TunnelerRow}
    (hid : ∀ old, (update old).id = old.id) (q : String) :
    (t.upsert row update).get q =
      if q = row.id then some ((t.get row.id).elim row update) else t.get q := by
  unfold upsert
  cases hget : t.get row.id with
  | none => exact Table.get_put t row q
  | some old =>
      have hold : old.id = row.id := (Table.mem_of_get hget).2
      show (t.put (update old)).get q = _
      rw [Table.get_put, hid, hold]
      rfl

theorem spiffeOf_upsert (t : Tunnelers) {row : TunnelerRow} {update : TunnelerRow → TunnelerRow}
    (hid : ∀ old, (update old).id = old.id) (hspiffe : ∀ old, (update old).spiffeId = row.spiffeId)
    (q : String) :
    (t.upsert row update).spiffeOf q = if q = row.id then some row.spiffeId else t.spiffeOf q := by
  unfold spiffeOf
  rw [get_upsert t hid]
  split
  · cases t.get row.id with
    | none => rfl
    | some old => exact congrArg some (hspiffe old)
  · rfl

theorem spiffeOf_allow (t : Tunnelers) (id spiffeId version hostname : String) (now : SystemTime)
    (q : String) :
    (t.allow id spiffeId version hostname now).spiffeOf q =
      if q = id then some spiffeId else t.spiffeOf q := by
  rw [allow, spiffeOf_upsert]
  · exact fun _ => rfl
  · exact fun _ => rfl

theorem spiffeOf_saveAgent (t : Tunnelers) (r : AgentStatusRecord) (q : String) :
    (t.saveAgent r).spiffeOf q = if q = r.id then some r.spiffeId else t.spiffeOf q := by
  rw [saveAgent, spiffeOf_upsert]
  · exact fun _ => rfl
  · exact fun _ => rfl

/-- A status report writes the row of its agent. -/
theorem get_saveAgent_self (t : Tunnelers) (r : AgentStatusRecord) :
    ∃ row, (t.saveAgent r).get r.id = some row ∧ row.connectorId = r.connectorId ∧
      row.lastSeen = r.lastSeen / nanosPerSec := by
  rw [saveAgent, get_upsert]
  · refine ⟨_, if_pos rfl, ?_⟩
    cases t.get r.id <;> exact ⟨rfl, rfl⟩
  · exact fun _ => rfl

theorem get_saveAgent_of_ne (t : Tunnelers) {r : AgentStatusRecord} {q : String} (h : q ≠ r.id) :
    (t.saveAgent r).get q = t.get q := by
  rw [saveAgent, get_upsert]
  · exact if_neg h
  · exact fun _ => rfl

end Tunnelers

/-- `LoadAgentRegistryFromDB`, with the rows in the order they come. -/
def loadAgentRegistry (rows : List TunnelerRow) : AgentRegistry :=
  rows.foldl (fun r row => r.add row.id row.spiffeId) .new

/-- `LoadAgentsFromDB`. -/
def loadAgents (rows : List TunnelerRow) : AgentStatusRegistry :=
  rows.foldl (fun r row =>
    r.put ⟨row.id, row.spiffeId, row.connectorId, row.lastSeen * nanosPerSec⟩) ∅

/-- Of several rows with an id the first counts. -/
theorem spiffeOf_addRows (q : String) : ∀ (rows : List TunnelerRow) (r : AgentRegistry),
    (rows.foldl (fun r row => r.add row.id row.spiffeId) r).spiffeOf q =
      (r.spiffeOf q).or ((rows.find? fun row => row.id = q).map TunnelerRow.spiffeId)
  | [], r => by simp
  | row :: rows, r => by
      rw [List.foldl_cons, spiffeOf_addRows q rows, AgentRegistry.spiffeOf_add, Option.or_assoc]
      by_cases hq : q = row.id
      · simp [hq]
      · simp [hq, Ne.symm hq]

/-- A registry that was loaded lists what is stored. -/
theorem spiffeOf_loadAgentRegistry {t : Tunnelers} {rows : List TunnelerRow}
    (hrows : rows.Perm t.rows) (q : String) :
    (loadAgentRegistry rows).spiffeOf q = t.spiffeOf q := by
  let selected : Tunnelers := ⟨rows, (hrows.map TunnelerRow.id).nodup_iff.mpr t.keys_nodup⟩
  have hget : selected.get q = t.get q := by
    refine Option.ext fun row => ?_
    rw [Table.get_eq_some, Table.get_eq_some, hrows.mem_iff]
  rw [loadAgentRegistry, spiffeOf_addRows, Tunnelers.spiffeOf, ← hget]
  simp [AgentRegistry.spiffeOf, AgentRegistry.new, selected, Table.get]

end ZeroTrust.Controller
