/-
# `ZeroTrust.Controller.PolicyVersions` — version numbers under concurrent compiles

`policyVersion` reads a connector's row of `connector_policy_versions` with one statement
and writes it with a second one.  Snapshot pushes, `/api/policy/compile/` and
`/api/policy/acl/` all call it, each from its own goroutine and without a transaction, so
the statements of several calls interleave:

    SELECT version, policy_hash …         `select`
    INSERT … ON CONFLICT DO UPDATE …      `upsert`, which also returns

A version is meant to name a payload.  It does as long as every upsert finds the row as
its own `SELECT` read it, or as it is about to write it:

    `undisturbed_cases`        then the upsert raises the version, or changes nothing
    `versions_identify_iff`    and otherwise it lowers the stored version, or gives one
                               number to two payloads

`version` is an `INTEGER` column, which PostgreSQL keeps in 32 bits.  A statement with a
larger number fails, and its error is ignored.
-/
import ZeroTrust.Lib.Run
import ZeroTrust.Lib.Publish
import ZeroTrust.Controller.PolicySnapshot

namespace ZeroTrust.Controller.PolicyVersions

open Lib

abbrev Versions := Table PolicyVersionRow.connectorId

/-- Where a call of `policyVersion` stands. -/
inductive Phase where
  | begun
  | selected (existing : Option PolicyVersionRow)
  | returned (version : Int64)

structure Call where
  connectorId : String
  policyHash : String
  compiledAt : String
  phase : Phase

structure State where
  versions : Versions
  /-- The calls so far, in the order they began. -/
  calls : List Call

/-- No call has begun; the table may hold rows of earlier ones. -/
def State.init (versions : Versions) : State := ⟨versions, []⟩

inductive Event where
  | call (connectorId policyHash compiledAt : String)
  | select (n : Nat)
  | upsert (n : Nat)

/-- The version a call returns, from the row it read.  A row that is missing reads as
version 0. -/
def nextVersion (existing : Option PolicyVersionRow) (policyHash : String) : Int64 :=
  let version := (existing.map PolicyVersionRow.version).getD 0
  if version = 0 ∨ existing.map PolicyVersionRow.policyHash ≠ some policyHash then version + 1
  else version

/-- The range of an `INTEGER` column. -/
def inInteger (v : Int64) : Prop := -2147483648 ≤ v.toInt ∧ v.toInt ≤ 2147483647

instance (v : Int64) : Decidable (inInteger v) := inferInstanceAs (Decidable (_ ∧ _))

/-- The row a call writes. -/
def Call.row (c : Call) (existing : Option PolicyVersionRow) : PolicyVersionRow where
  connectorId := c.connectorId
  version := nextVersion existing c.policyHash
  compiledAt := c.compiledAt
  policyHash := c.policyHash

@[simp] theorem Call.row_version (c : Call) (existing : Option PolicyVersionRow) :
    (c.row existing).version = nextVersion existing c.policyHash := rfl

def upsertRow (versions : Versions) (row : PolicyVersionRow) : Versions :=
  if inInteger row.version then versions.put row else versions

def State.setPhase (s : State) (n : Nat) (c : Call) (phase : Phase) : List Call :=
  s.calls.set n { c with phase }

def step (s : State) : Event → Option State
  | .call connectorId policyHash compiledAt =>
      some { s with calls := s.calls ++ [⟨connectorId, policyHash, compiledAt, .begun⟩] }
  | .select n =>
      match s.calls[n]? with
      | some c =>
          match c.phase with
          | .begun =>
              some { s with calls := s.setPhase n c (.selected (s.versions.get c.connectorId)) }
          | _ => none
      | none => none
  | .upsert n =>
      match s.calls[n]? with
      | some c =>
          match c.phase with
          | .selected existing =>
              some {
                versions := upsertRow s.versions (c.row existing)
                calls := s.setPhase n c (.returned (c.row existing).version) }
          | _ => none
      | none => none

/-- What a step can do. -/
theorem step_cases {s s' : State} {e : Event} (h : step s e = some s') :
    (∃ connectorId policyHash compiledAt, e = .call connectorId policyHash compiledAt ∧
      s' = { s with calls := s.calls ++ [⟨connectorId, policyHash, compiledAt, .begun⟩] }) ∨
    (∃ n c, e = .select n ∧ s.calls[n]? = some c ∧ c.phase = .begun ∧
      s' = { s with calls := s.setPhase n c (.selected (s.versions.get c.connectorId)) }) ∨
    (∃ n c existing, e = .upsert n ∧ s.calls[n]? = some c ∧ c.phase = .selected existing ∧
      s' = {
        versions := upsertRow s.versions (c.row existing)
        calls := s.setPhase n c (.returned (c.row existing).version) }) := by
  cases e with
  | call connectorId policyHash compiledAt =>
      exact Or.inl ⟨_, _, _, rfl, (Option.some.inj h).symm⟩
  | select n =>
      simp only [step] at h
      split at h
      next c hc =>
        split at h
        next hphase =>
          exact Or.inr (Or.inl ⟨n, c, rfl, hc, hphase, (Option.some.inj h).symm⟩)
        · cases h
      · cases h
  | upsert n =>
      simp only [step] at h
      split at h
      next c hc =>
        split at h
        next existing hphase =>
          exact Or.inr (Or.inr ⟨n, c, existing, rfl, hc, hphase, (Option.some.inj h).symm⟩)
        · cases h
      · cases h

/-- One call with nothing in between is the function of `PolicySnapshot`. -/
theorem upsertRow_select (db : Database) (connectorId policyHash compiledAt : String)
    (hfits : inInteger (nextVersion (db.connectorPolicyVersions.get connectorId) policyHash)) :
    policyVersion db connectorId policyHash compiledAt =
      ({ db with
          connectorPolicyVersions := upsertRow db.connectorPolicyVersions
            (Call.row ⟨connectorId, policyHash, compiledAt, .begun⟩
              (db.connectorPolicyVersions.get connectorId)) },
        nextVersion (db.connectorPolicyVersions.get connectorId) policyHash) := by
  have hrow : upsertRow db.connectorPolicyVersions
      (Call.row ⟨connectorId, policyHash, compiledAt, .begun⟩
        (db.connectorPolicyVersions.get connectorId)) =
      db.connectorPolicyVersions.put (Call.row ⟨connectorId, policyHash, compiledAt, .begun⟩
        (db.connectorPolicyVersions.get connectorId)) := if_pos hfits
  rw [hrow]
  rfl

/-! ## Versions and payloads -/

/-- The version in a row; 0 if there is none. -/
def versionOf (row : Option PolicyVersionRow) : Int :=
  ((row.map PolicyVersionRow.version).getD 0).toInt

/-- What a row says: a version and the payload it stands for. -/
def stampOf (row : Option PolicyVersionRow) : Option (Int64 × String) :=
  row.map fun r => (r.version, r.policyHash)

theorem versionOf_of_stampOf {a b : Option PolicyVersionRow} (h : stampOf a = stampOf b) :
    versionOf a = versionOf b := by
  have hversion : ∀ row, versionOf row = (((stampOf row).map Prod.fst).getD 0).toInt := by
    intro row
    cases row <;> rfl
  rw [hversion a, hversion b, h]

/-- The version read is below the largest one the column holds. -/
def Fits (s : State) : Event → Prop
  | .upsert n => ∀ c existing, s.calls[n]? = some c → c.phase = .selected existing →
      0 ≤ versionOf existing ∧ versionOf existing < 2147483647
  | _ => True

/-- The row is still as the call read it, or already as the call is about to write it. -/
def Undisturbed (s : State) : Event → Prop
  | .upsert n => ∀ c existing, s.calls[n]? = some c → c.phase = .selected existing →
      stampOf (s.versions.get c.connectorId) = stampOf existing ∨
      stampOf (s.versions.get c.connectorId) = stampOf (some (c.row existing))
  | _ => True

theorem toInt_add_one {v : Int64} (hlow : 0 ≤ v.toInt) (hhigh : v.toInt < 2147483647) :
    (v + 1).toInt = v.toInt + 1 := by
  rw [Int64.toInt_add, Int.bmod_def]
  have hone : (1 : Int64).toInt = 1 := rfl
  rw [hone]
  omega

/-- A call either counts up, or returns the version of its own payload. -/
theorem nextVersion_cases {existing : Option PolicyVersionRow} (policyHash : String)
    (hlow : 0 ≤ versionOf existing) (hhigh : versionOf existing < 2147483647) :
    (nextVersion existing policyHash).toInt = versionOf existing + 1 ∨
    ((nextVersion existing policyHash).toInt = versionOf existing ∧
      stampOf existing = some (nextVersion existing policyHash, policyHash)) := by
  unfold nextVersion
  simp only
  split
  · exact Or.inl (toInt_add_one hlow hhigh)
  next hsame =>
    rw [not_or, not_not] at hsame
    refine Or.inr ⟨rfl, ?_⟩
    cases existing with
    | none => cases hsame.2
    | some row => simp only [stampOf, Option.map_some, Option.some.inj hsame.2, Option.getD_some]

theorem nextVersion_fits {existing : Option PolicyVersionRow} (policyHash : String)
    (hlow : 0 ≤ versionOf existing) (hhigh : versionOf existing < 2147483647) :
    inInteger (nextVersion existing policyHash) := by
  unfold inInteger
  rcases nextVersion_cases policyHash hlow hhigh with h | ⟨h, -⟩ <;> omega

/-- What an upsert leaves, if its version fits. -/
theorem get_upsertRow {versions : Versions} {row : PolicyVersionRow}
    (hfits : inInteger row.version) (id : String) :
    (upsertRow versions row).get id =
      if id = row.connectorId then some row else versions.get id := by
  rw [upsertRow, if_pos hfits, Table.get_put]

/-- The upsert of an undisturbed call raises the version, or leaves what the row says. -/
theorem undisturbed_cases {s : State} {n : Nat} {c : Call} {existing : Option PolicyVersionRow}
    (hc : s.calls[n]? = some c) (hphase : c.phase = .selected existing)
    (hfits : Fits s (.upsert n)) (hundisturbed : Undisturbed s (.upsert n)) :
    versionOf (s.versions.get c.connectorId) < (c.row existing).version.toInt ∨
    stampOf (s.versions.get c.connectorId) = stampOf (some (c.row existing)) := by
  obtain ⟨hlow, hhigh⟩ := hfits c existing hc hphase
  rcases hundisturbed c existing hc hphase with hsame | hdone
  · have hversion := versionOf_of_stampOf hsame
    rcases nextVersion_cases c.policyHash hlow hhigh with hup | ⟨-, hkept⟩
    · rw [c.row_version, hup]
      exact Or.inl (by omega)
    · exact Or.inr (hsame.trans hkept)
  · exact Or.inr hdone

/-! ## The invariant -/

/-- `b` was written no earlier than `a`: no smaller version, and the same payload under the
same one. -/
structure Precedes (a b : Option PolicyVersionRow) : Prop where
  le : versionOf a ≤ versionOf b
  same : versionOf a = versionOf b → stampOf a = stampOf b

theorem Precedes.refl (a : Option PolicyVersionRow) : Precedes a a := ⟨le_rfl, fun _ => rfl⟩

/-- What is before the present row is before the one an upsert puts there. -/
theorem Precedes.upsert {a cur : Option PolicyVersionRow} {row : PolicyVersionRow}
    (h : Precedes a cur)
    (hup : versionOf cur < row.version.toInt ∨ stampOf cur = stampOf (some row)) :
    Precedes a (some row) := by
  have hrow : versionOf (some row) = row.version.toInt := rfl
  have hle := h.le
  rcases hup with hlt | hsame
  · exact ⟨by omega, fun heq => absurd heq (by omega)⟩
  · have hversion := versionOf_of_stampOf hsame
    exact ⟨by omega, fun heq => (h.same (heq.trans hversion.symm)).trans hsame⟩

/-- Two calls that returned the same version had the same payload. -/
def Identify (s : State) : Prop :=
  ∀ c ∈ s.calls, ∀ d ∈ s.calls, c.connectorId = d.connectorId →
    ∀ v, c.phase = .returned v → d.phase = .returned v → c.policyHash = d.policyHash

/-- The row a call that returned stands for. -/
def Call.stands (c : Call) (v : Int64) : PolicyVersionRow :=
  ⟨c.connectorId, v, c.compiledAt, c.policyHash⟩

/-- `start` is the table of the initial state. -/
structure Inv (start : Versions) (s : State) : Prop where
  grown : ∀ id, Precedes (start.get id) (s.versions.get id)
  selected : ∀ c ∈ s.calls, ∀ existing, c.phase = .selected existing →
    Precedes (start.get c.connectorId) existing ∧
      Precedes existing (s.versions.get c.connectorId)
  returned : ∀ c ∈ s.calls, ∀ v, c.phase = .returned v →
    Precedes (some (c.stands v)) (s.versions.get c.connectorId)
  identify : Identify s
  /-- A row is one of the initial table's, or some call returned what it says. -/
  current : ∀ id, stampOf (s.versions.get id) = stampOf (start.get id) ∨
    ∃ c ∈ s.calls, c.connectorId = id ∧
      ∃ v, c.phase = .returned v ∧ stampOf (s.versions.get id) = stampOf (some (c.stands v))

theorem inv_init (start : Versions) : Inv start (.init start) where
  grown _ := .refl _
  selected _ h := absurd h List.not_mem_nil
  returned _ h := absurd h List.not_mem_nil
  identify _ h := absurd h List.not_mem_nil
  current _ := Or.inl rfl

/-- A call after the n-th one was moved on: it is that one, or was there before. -/
theorem mem_setPhase {s : State} {n : Nat} {c d : Call} {phase : Phase}
    (h : d ∈ s.setPhase n c phase) : d ∈ s.calls ∨ d = { c with phase } :=
  List.mem_or_eq_of_mem_set h

/-- A call that has returned is still there after another one was moved on. -/
theorem mem_setPhase_of_returned {s : State} {n : Nat} {c d : Call} {phase : Phase} {v : Int64}
    (hc : s.calls[n]? = some c) (hphase : c.phase ≠ .returned v) (hd : d ∈ s.calls)
    (hreturned : d.phase = .returned v) : d ∈ s.setPhase n c phase := by
  refine Publish.mem_set_of_mem hc hd ?_
  rintro rfl
  exact hphase hreturned

/-- Nothing in the table changes, and the call that moves on does not return. -/
theorem inv_of_calls {start : Versions} {s : State} {calls : List Call} (h : Inv start s)
    (hmem : ∀ d ∈ calls, d ∈ s.calls ∨ ((∀ v, d.phase ≠ .returned v) ∧
      ∀ existing, d.phase = .selected existing → existing = s.versions.get d.connectorId))
    (hkept : ∀ d ∈ s.calls, ∀ v, d.phase = .returned v → d ∈ calls) :
    Inv start { s with calls } where
  grown := h.grown
  selected d hd existing hphase := by
    rcases hmem d hd with hold | ⟨-, hread⟩
    · exact h.selected d hold existing hphase
    · rw [hread existing hphase]
      exact ⟨h.grown d.connectorId, .refl _⟩
  returned d hd v hphase := by
    rcases hmem d hd with hold | ⟨hnot, -⟩
    · exact h.returned d hold v hphase
    · exact absurd hphase (hnot v)
  identify c hc d hd hid v hcv hdv := by
    rcases hmem c hc with hc | ⟨hnot, -⟩
    · rcases hmem d hd with hd | ⟨hnot, -⟩
      · exact h.identify c hc d hd hid v hcv hdv
      · exact absurd hdv (hnot v)
    · exact absurd hcv (hnot v)
  current id := by
    rcases h.current id with hstart | ⟨c, hc, hid, v, hphase, hstamp⟩
    · exact Or.inl hstart
    · exact Or.inr ⟨c, hkept c hc v hphase, hid, v, hphase, hstamp⟩

theorem inv_upsert {start : Versions} {s : State} {n : Nat} {c : Call}
    {existing : Option PolicyVersionRow} (h : Inv start s) (hc : s.calls[n]? = some c)
    (hphase : c.phase = .selected existing)
    (hfits : inInteger (c.row existing).version)
    (hup : versionOf (s.versions.get c.connectorId) < (c.row existing).version.toInt ∨
      stampOf (s.versions.get c.connectorId) = stampOf (some (c.row existing))) :
    Inv start {
      versions := upsertRow s.versions (c.row existing)
      calls := s.setPhase n c (.returned (c.row existing).version) } := by
  have hnot : ∀ v, c.phase ≠ .returned v := by
    intro v hv
    rw [hphase] at hv
    cases hv
  have hgrow : ∀ id a, Precedes a (s.versions.get id) →
      Precedes a ((upsertRow s.versions (c.row existing)).get id) := by
    intro id a ha
    rw [get_upsertRow hfits]
    split
    next hid =>
      subst hid
      exact ha.upsert hup
    · exact ha
  have hown : ∀ v, (c.row existing).version = v →
      Precedes (some (c.stands v)) ((upsertRow s.versions (c.row existing)).get c.connectorId) := by
    rintro v rfl
    rw [get_upsertRow hfits, if_pos (show c.connectorId = (c.row existing).connectorId from rfl)]
    exact ⟨le_rfl, fun _ => rfl⟩
  -- an earlier call with the version just returned stood for the same payload
  have hagree : ∀ d ∈ s.calls, d.connectorId = c.connectorId →
      d.phase = .returned (c.row existing).version → d.policyHash = c.policyHash := by
    intro d hd hid hdv
    obtain ⟨hle, hsame⟩ := h.returned d hd _ hdv
    rw [hid] at hle hsame
    have hversion : versionOf (some (d.stands (c.row existing).version)) =
        (c.row existing).version.toInt := rfl
    rcases hup with hlt | hstamp
    · omega
    · have hequal : versionOf (s.versions.get c.connectorId) =
          (c.row existing).version.toInt := versionOf_of_stampOf hstamp
      have := (hsame (hversion.trans hequal.symm)).trans hstamp
      exact congrArg Prod.snd (Option.some.inj this)
  refine ⟨fun id => hgrow id _ (h.grown id), ?_, ?_, ?_, ?_⟩
  · intro d hd ex hsel
    rcases mem_setPhase hd with hold | rfl
    · obtain ⟨hstart, hcur⟩ := h.selected d hold ex hsel
      exact ⟨hstart, hgrow _ _ hcur⟩
    · cases hsel
  · intro d hd v hv
    rcases mem_setPhase hd with hold | rfl
    · exact hgrow _ _ (h.returned d hold v hv)
    · exact hown v (Phase.returned.inj hv)
  · intro d hd d' hd' hid v hv hv'
    rcases mem_setPhase hd with hold | rfl <;> rcases mem_setPhase hd' with hold' | rfl
    · exact h.identify d hold d' hold' hid v hv hv'
    · obtain rfl := Phase.returned.inj hv'
      exact hagree d hold hid hv
    · obtain rfl := Phase.returned.inj hv
      exact (hagree d' hold' hid.symm hv').symm
    · rfl
  · intro id
    by_cases hid : id = c.connectorId
    · subst hid
      refine Or.inr ⟨_, List.mem_set (List.getElem?_eq_some_iff.mp hc).1 _, rfl, _, rfl, ?_⟩
      rw [get_upsertRow hfits]
      exact congrArg stampOf (if_pos rfl)
    · have hget : (upsertRow s.versions (c.row existing)).get id = s.versions.get id := by
        rw [get_upsertRow hfits]
        exact if_neg hid
      rw [hget]
      rcases h.current id with hstart | ⟨d, hd, hdid, v, hv, hstamp⟩
      · exact Or.inl hstart
      · exact Or.inr ⟨d, mem_setPhase_of_returned hc (hnot v) hd hv, hdid, v, hv, hstamp⟩

theorem inv_step {start : Versions} {s s' : State} {e : Event} (h : Inv start s)
    (hfits : Fits s e) (hundisturbed : Undisturbed s e) (hstep : step s e = some s') :
    Inv start s' := by
  rcases step_cases hstep with ⟨id, hash, at', -, rfl⟩ | ⟨n, c, -, hc, hphase, rfl⟩ |
    ⟨n, c, existing, rfl, hc, hphase, rfl⟩
  · refine inv_of_calls h (fun d hd => ?_) fun d hd v _ => List.mem_append_left _ hd
    rcases List.mem_append.mp hd with hold | hnew
    · exact Or.inl hold
    · obtain rfl := List.mem_singleton.mp hnew
      exact Or.inr ⟨fun v => nofun, fun ex => nofun⟩
  · refine inv_of_calls h (fun d hd => ?_) fun d hd v hv => ?_
    · rcases mem_setPhase hd with hold | rfl
      · exact Or.inl hold
      · exact Or.inr ⟨fun v => nofun, fun ex hex => (Phase.selected.inj hex).symm⟩
    · refine mem_setPhase_of_returned hc ?_ hd hv
      rw [hphase]
      exact nofun
  · obtain ⟨hlow, hhigh⟩ := hfits c existing hc hphase
    exact inv_upsert h hc hphase (nextVersion_fits _ hlow hhigh)
      (undisturbed_cases hc hphase hfits hundisturbed)

theorem Call.row_fits (c : Call) {existing : Option PolicyVersionRow}
    (hlow : 0 ≤ versionOf existing) (hhigh : versionOf existing < 2147483647) :
    inInteger (c.row existing).version := by
  rw [c.row_version]
  exact nextVersion_fits c.policyHash hlow hhigh

/-- What an upsert leaves in its own row. -/
theorem get_upsertRow_self {versions : Versions} {c : Call} {existing : Option PolicyVersionRow}
    (hfits : inInteger (c.row existing).version) :
    (upsertRow versions (c.row existing)).get c.connectorId = some (c.row existing) := by
  rw [get_upsertRow hfits]
  exact if_pos rfl

theorem get_upsertRow_ne {versions : Versions} {c : Call} {existing : Option PolicyVersionRow}
    (hfits : inInteger (c.row existing).version) {id : String} (hid : id ≠ c.connectorId) :
    (upsertRow versions (c.row existing)).get id = versions.get id := by
  rw [get_upsertRow hfits]
  exact if_neg hid

/-- The stored versions do not decrease in a step. -/
theorem versionOf_step {s s' : State} {e : Event} (hfits : Fits s e)
    (hundisturbed : Undisturbed s e) (hstep : step s e = some s') (id : String) :
    versionOf (s.versions.get id) ≤ versionOf (s'.versions.get id) := by
  rcases step_cases hstep with ⟨_, _, _, -, rfl⟩ | ⟨n, c, -, hc, hphase, rfl⟩ |
    ⟨n, c, existing, rfl, hc, hphase, rfl⟩
  · exact le_rfl
  · exact le_rfl
  · obtain ⟨hlow, hhigh⟩ := hfits c existing hc hphase
    have hup := undisturbed_cases hc hphase hfits hundisturbed
    by_cases hid : id = c.connectorId
    · rw [hid, get_upsertRow_self (c.row_fits hlow hhigh)]
      exact ((Precedes.refl _).upsert hup).le
    · rw [get_upsertRow_ne (c.row_fits hlow hhigh) hid]

/-! ## When versions identify payloads -/

/-- No version stored for a connector was larger at an earlier point of the run. -/
def NeverDecreased (start : Versions) (es : List Event) (s : State) : Prop :=
  ∀ pre, pre <+: es → ∀ t, run step (.init start) pre = some t →
    ∀ id, versionOf (t.versions.get id) ≤ versionOf (s.versions.get id)

theorem versionOf_run {es : List Event} {s s' : State} (hfits : Meets step Fits s es)
    (hundisturbed : Meets step Undisturbed s es) (hrun : run step s es = some s') (id : String) :
    versionOf (s.versions.get id) ≤ versionOf (s'.versions.get id) := by
  induction es generalizing s with
  | nil =>
      rw [run_nil, Option.some.injEq] at hrun
      rw [hrun]
  | cons e es ih =>
      obtain ⟨t, ht, hrest⟩ := run_cons.mp hrun
      exact (versionOf_step hfits.1 hundisturbed.1 ht id).trans
        (ih (hfits.2 t ht) (hundisturbed.2 t ht) hrest)

theorem neverDecreased_of_undisturbed {start : Versions} {es : List Event} {s : State}
    (hrun : run step (.init start) es = some s) (hfits : Meets step Fits (.init start) es)
    (hundisturbed : Meets step Undisturbed (.init start) es) : NeverDecreased start es s := by
  rintro pre ⟨rest, rfl⟩ t ht id
  obtain ⟨t', ht', hrest⟩ := run_append.mp hrun
  obtain rfl : t = t' := Option.some.inj (ht.symm.trans ht')
  exact versionOf_run ((meets_append.mp hfits).2 t ht) ((meets_append.mp hundisturbed).2 t ht)
    hrest id

/-- An upsert over a row that another call has moved on: the version stored goes down, or
the other call's version is returned for a second payload. -/
theorem undisturbed_of_upsert {start : Versions} {s : State} {n : Nat} {c : Call}
    {existing : Option PolicyVersionRow} (h : Inv start s) (hc : s.calls[n]? = some c)
    (hphase : c.phase = .selected existing) (hlow : 0 ≤ versionOf existing)
    (hhigh : versionOf existing < 2147483647)
    (hle : versionOf (s.versions.get c.connectorId) ≤ (c.row existing).version.toInt)
    (hidentify : ∀ d ∈ s.calls, d.connectorId = c.connectorId →
      d.phase = .returned (c.row existing).version → d.policyHash = c.policyHash) :
    stampOf (s.versions.get c.connectorId) = stampOf existing ∨
    stampOf (s.versions.get c.connectorId) = stampOf (some (c.row existing)) := by
  by_cases hsame : stampOf (s.versions.get c.connectorId) = stampOf existing
  · exact Or.inl hsame
  right
  obtain ⟨hstart, hcur⟩ := h.selected c (List.mem_of_getElem? hc) existing hphase
  have hlt : versionOf existing < versionOf (s.versions.get c.connectorId) := by
    refine lt_of_le_of_ne hcur.le fun heq => hsame ?_
    exact (hcur.same heq).symm
  have hnext : (c.row existing).version.toInt ≤ versionOf existing + 1 := by
    rw [c.row_version]
    rcases nextVersion_cases c.policyHash hlow hhigh with h | ⟨h, -⟩ <;> omega
  -- the row is not the initial one any more, so some call returned what it says
  rcases h.current c.connectorId with hinit | ⟨d, hd, hid, v, hv, hstamp⟩
  · have := versionOf_of_stampOf hinit
    have := hstart.le
    omega
  · have hversion : versionOf (s.versions.get c.connectorId) = v.toInt :=
      versionOf_of_stampOf hstamp
    have hv' : v = (c.row existing).version := Int64.toInt_inj.mp (by omega)
    subst hv'
    have hhash := hidentify d hd hid hv
    rw [hstamp]
    show some (_, d.policyHash) = some (_, c.policyHash)
    rw [hhash]
    rfl

/-- **Versions identify payloads exactly as long as no upsert is disturbed.**  In a run
whose versions fit the column: at every point two calls that returned the same version for
a connector had the same payload, and no stored version has decreased, iff every upsert
finds the row as its `SELECT` read it or as it is about to write it. -/
theorem versions_identify_iff (start : Versions) (es : List Event) (s : State)
    (hrun : run step (.init start) es = some s) (hfits : Meets step Fits (.init start) es) :
    (∀ pre, pre <+: es → ∀ t, run step (.init start) pre = some t →
      Identify t ∧ NeverDecreased start pre t) ↔
    Meets step Undisturbed (.init start) es := by
  refine forall_prefix_iff_meets_of_inv
    (P := fun es s => Identify s ∧ NeverDecreased start es s) (inv_init start)
    (fun s e s' h hf hu hstep => inv_step h hf hu hstep) ?_ ?_ hrun hfits
  · intro es s hrun hfits hundisturbed
    refine ⟨?_, neverDecreased_of_undisturbed hrun hfits hundisturbed⟩
    exact (run_invariant_of_meets (fun s e s' h hok hstep => inv_step h hok.1 hok.2 hstep)
      (inv_init start) (meets_and hfits hundisturbed) hrun).identify
  · intro es s e s' hrun h hfits hstep hP
    rcases step_cases hstep with ⟨_, _, _, rfl, -⟩ | ⟨n, c, rfl, -, -, -⟩ |
      ⟨n, c, existing, rfl, hc, hphase, rfl⟩
    · trivial
    · trivial
    · rintro c' existing' hc' hphase'
      obtain rfl : c = c' := Option.some.inj (hc.symm.trans hc')
      obtain rfl : existing = existing' := Phase.selected.inj (hphase.symm.trans hphase')
      obtain ⟨hlow, hhigh⟩ := hfits c existing hc hphase
      refine undisturbed_of_upsert h hc hphase hlow hhigh ?_ fun d hd hid hv => ?_
      · have := hP.2 es (List.prefix_append _ _) s hrun c.connectorId
        rw [get_upsertRow_self (c.row_fits hlow hhigh)] at this
        exact this
      · have hnot : ∀ v, c.phase ≠ .returned v := by
          intro v hv
          rw [hphase] at hv
          cases hv
        exact hP.1 d (mem_setPhase_of_returned hc (hnot _) hd hv)
          { c with phase := .returned (c.row existing).version }
          (List.mem_set (List.getElem?_eq_some_iff.mp hc).1 _) hid _ hv rfl

/-- Two compiles of a new connector's policy, one after the other. -/
def sequentialCalls : List Event :=
  [.call "con_1" "3f79bb7b" "2025-01-01T00:00:00Z", .select 0, .upsert 0,
   .call "con_1" "2e7d2c03" "2025-01-01T00:00:05Z", .select 1, .upsert 1]

theorem sequentialCalls_fits : Meets step Fits (.init ∅) sequentialCalls := by
  refine meets_cons trivial rfl (meets_cons trivial rfl (meets_cons ?_ rfl
    (meets_cons trivial rfl (meets_cons trivial rfl (meets_cons ?_ rfl trivial)))))
  · rintro c existing ⟨⟩ ⟨⟩
    decide
  · rintro c existing ⟨⟩ ⟨⟩
    decide

theorem sequentialCalls_undisturbed : Meets step Undisturbed (.init ∅) sequentialCalls := by
  refine meets_cons trivial rfl (meets_cons trivial rfl (meets_cons ?_ rfl
    (meets_cons trivial rfl (meets_cons trivial rfl (meets_cons ?_ rfl trivial)))))
  · rintro c existing ⟨⟩ ⟨⟩
    exact Or.inl rfl
  · rintro c existing ⟨⟩ ⟨⟩
    exact Or.inl rfl

/-- They return versions 1 and 2. -/
theorem sequentialCalls_identify :
    ∃ s, run step (.init ∅) sequentialCalls = some s ∧
      s.calls.map Call.phase = [.returned 1, .returned 2] ∧
      Identify s ∧ NeverDecreased ∅ sequentialCalls s :=
  ⟨_, rfl, rfl, (versions_identify_iff ∅ sequentialCalls _ rfl sequentialCalls_fits).mpr
    sequentialCalls_undisturbed sequentialCalls List.prefix_rfl _ rfl⟩

/-- The first compile reads before the other two have written, and writes after them. -/
def overtakenCalls : List Event :=
  [.call "con_1" "3f79bb7b" "2025-01-01T00:00:00Z", .select 0,
   .call "con_1" "2e7d2c03" "2025-01-01T00:00:01Z", .select 1, .upsert 1,
   .call "con_1" "ca978112" "2025-01-01T00:00:02Z", .select 2, .upsert 2]

/-- Version 1 is returned for two payloads, and the stored version goes from 2 back to 1. -/
theorem overtaken_version :
    ∃ s t, run step (.init ∅) overtakenCalls = some s ∧
      run step (.init ∅) (overtakenCalls ++ [.upsert 0]) = some t ∧
      t.calls.map Call.phase = [.returned 1, .returned 1, .returned 2] ∧
      ¬ Identify t ∧
      versionOf (s.versions.get "con_1") = 2 ∧ versionOf (t.versions.get "con_1") = 1 := by
  refine ⟨_, _, rfl, rfl, rfl, fun h => ?_, rfl, rfl⟩
  have := h _ (List.mem_cons_self) _ (List.mem_cons_of_mem _ List.mem_cons_self) rfl 1 rfl rfl
  exact absurd this (by decide)

end ZeroTrust.Controller.PolicyVersions
