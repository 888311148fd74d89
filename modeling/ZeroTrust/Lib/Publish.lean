/-
# `ZeroTrust.Lib.Publish` — read, then publish, without a lock

A source holds a value that changes.  Workers each read it once and later append
what they read to a log; the two steps of a worker are not atomic, and the workers
interleave freely.  Every change of the source starts a worker of its own.  Readers
of the log take its last entry for the source's value.

A source may have nothing to publish (`none`); a worker that reads then finishes
without publishing.

Stamps count the changes.  An entry is *in order* if nothing read later was logged
before it.  If every entry is, the log's last entry is the source's value as soon
as all workers are done:

    `inv_step`       the invariant of one step taken in order
    `getLast?_log`   the invariant, with all workers done, gives the last entry
-/
import ZeroTrust.Lib.Run
import Mathlib.Data.List.Pairwise

namespace ZeroTrust.Lib.Publish

inductive Worker (β : Type) where
  | waiting
  | holding (stamp : Nat) (value : β)
  | finished

structure State (β : Type) where
  value : Option β
  stamp : Nat
  workers : List (Worker β)
  log : List (Nat × β)

inductive Event (β : Type) where
  /-- The source changes, and a worker starts. -/
  | change (value : Option β)
  /-- A worker starts. -/
  | start
  | read (i : Nat)
  | publish (i : Nat)

variable {β : Type}

/-- What a worker becomes when it reads. -/
def State.take (s : State β) : Worker β :=
  match s.value with
  | some b => .holding s.stamp b
  | none => .finished

def step (s : State β) : Event β → Option (State β)
  | .change value =>
      some { s with value, stamp := s.stamp + 1, workers := s.workers ++ [.waiting] }
  | .start => some { s with workers := s.workers ++ [.waiting] }
  | .read i =>
      match s.workers[i]? with
      | some .waiting => some { s with workers := s.workers.set i s.take }
      | _ => none
  | .publish i =>
      match s.workers[i]? with
      | some (.holding stamp b) =>
          some { s with workers := s.workers.set i .finished, log := s.log ++ [(stamp, b)] }
      | _ => none

/-- Nothing read later was logged before. -/
def InOrder (s : State β) : Event β → Prop
  | .publish i => ∀ stamp b, s.workers[i]? = some (.holding stamp b) → ∀ p ∈ s.log, p.1 ≤ stamp
  | _ => True

structure Inv (s : State β) : Prop where
  held : ∀ stamp b, .holding stamp b ∈ s.workers →
    stamp ≤ s.stamp ∧ (stamp = s.stamp → s.value = some b)
  logged : ∀ p ∈ s.log, p.1 ≤ s.stamp ∧ (p.1 = s.stamp → s.value = some p.2)
  ordered : s.log.Pairwise fun p q => p.1 ≤ q.1
  /-- The value is published already, or some worker will still publish it. -/
  current : s.value = none ∨ .waiting ∈ s.workers ∨ (∃ b, .holding s.stamp b ∈ s.workers) ∨
    ∃ b, (s.stamp, b) ∈ s.log

/-- A member of a list is still there after position `i` was overwritten, unless it
was at position `i`. -/
theorem mem_set_of_mem {α : Type} {l : List α} {i : Nat} {a x y : α} (hi : l[i]? = some y)
    (hx : x ∈ l) (hne : x ≠ y) : x ∈ l.set i a := by
  obtain ⟨j, hj⟩ := List.mem_iff_getElem?.mp hx
  have hij : i ≠ j := by
    rintro rfl
    exact hne (Option.some.inj (hj.symm.trans hi))
  exact List.mem_iff_getElem?.mpr ⟨j, by rw [List.getElem?_set_ne hij]; exact hj⟩

/-- Overwriting a position with an element that `f` does not tell apart from the old one. -/
theorem map_set_of_eq {α γ : Type} {l : List α} {i : Nat} {a b : α} (f : α → γ)
    (h : l[i]? = some a) (hf : f b = f a) : (l.set i b).map f = l.map f := by
  rw [List.map_set, hf]
  obtain ⟨hi, rfl⟩ := List.getElem?_eq_some_iff.mp h
  refine List.ext_getElem? fun j => ?_
  rw [List.getElem?_set]
  split
  next hij =>
    subst hij
    simp [hi]
  · rfl

theorem inv_change {s : State β} (h : Inv s) (value : Option β) :
    Inv { s with value, stamp := s.stamp + 1, workers := s.workers ++ [.waiting] } where
  held stamp b hmem := by
    have hold : Worker.holding stamp b ∈ s.workers := by simpa using hmem
    have hle := (h.held stamp b hold).1
    exact ⟨Nat.le_succ_of_le hle, fun heq => absurd heq (show stamp ≠ s.stamp + 1 by omega)⟩
  logged p hp := by
    have hle := (h.logged p hp).1
    exact ⟨Nat.le_succ_of_le hle, fun heq => absurd heq (show p.1 ≠ s.stamp + 1 by omega)⟩
  ordered := h.ordered
  current := Or.inr (Or.inl (by simp))

theorem inv_start {s : State β} (h : Inv s) :
    Inv { s with workers := s.workers ++ [.waiting] } where
  held stamp b hmem := h.held stamp b (by simpa using hmem)
  logged := h.logged
  ordered := h.ordered
  current := Or.inr (Or.inl (by simp))

theorem inv_read {s : State β} (h : Inv s) {i : Nat} (hi : s.workers[i]? = some .waiting) :
    Inv { s with workers := s.workers.set i s.take } where
  held stamp b hmem := by
    rcases List.mem_or_eq_of_mem_set hmem with hold | heq
    · exact h.held stamp b hold
    · cases hvalue : s.value with
      | none => simp [State.take, hvalue] at heq
      | some v =>
          simp only [State.take, hvalue, Worker.holding.injEq] at heq
          obtain ⟨rfl, rfl⟩ := heq
          exact ⟨Nat.le_refl _, fun _ => rfl⟩
  logged := h.logged
  ordered := h.ordered
  current := by
    cases hvalue : s.value with
    | none => exact Or.inl rfl
    | some v =>
        have hlt : i < s.workers.length := (List.getElem?_eq_some_iff.mp hi).1
        refine Or.inr (Or.inr (Or.inl ⟨v, ?_⟩))
        have htake : s.take = .holding s.stamp v := by simp [State.take, hvalue]
        exact List.mem_iff_getElem?.mpr ⟨i, by rw [List.getElem?_set_self hlt, htake]⟩

theorem inv_publish {s : State β} (h : Inv s) {i stamp : Nat} {b : β}
    (hi : s.workers[i]? = some (.holding stamp b)) (horder : ∀ p ∈ s.log, p.1 ≤ stamp) :
    Inv { s with workers := s.workers.set i .finished, log := s.log ++ [(stamp, b)] } where
  held stamp' b' hmem := by
    rcases List.mem_or_eq_of_mem_set hmem with hold | heq
    · exact h.held stamp' b' hold
    · cases heq
  logged p hp := by
    rcases List.mem_append.mp hp with hp | hp
    · exact h.logged p hp
    · obtain rfl := List.mem_singleton.mp hp
      exact h.held stamp b (List.mem_of_getElem? hi)
  ordered := by
    rw [List.pairwise_append]
    refine ⟨h.ordered, List.pairwise_singleton _ _, ?_⟩
    intro p hp q hq
    obtain rfl := List.mem_singleton.mp hq
    exact horder p hp
  current := by
    rcases h.current with hnone | hwait | ⟨b', hhold⟩ | ⟨b', hlog⟩
    · exact Or.inl hnone
    · exact Or.inr (Or.inl (mem_set_of_mem hi hwait (by simp)))
    · -- either this worker held the current value, or another one still does
      by_cases hsame : Worker.holding s.stamp b' = .holding stamp b
      · obtain ⟨hstamp, -⟩ := Worker.holding.inj hsame
        exact Or.inr (Or.inr (Or.inr ⟨b, by simp [hstamp]⟩))
      · exact Or.inr (Or.inr (Or.inl ⟨b', mem_set_of_mem hi hhold hsame⟩))
    · exact Or.inr (Or.inr (Or.inr ⟨b', List.mem_append_left _ hlog⟩))

/-- One step, taken in order. -/
theorem inv_step {s s' : State β} {e : Event β} (h : Inv s) (horder : InOrder s e)
    (hstep : step s e = some s') : Inv s' := by
  cases e with
  | change value =>
      obtain rfl := Option.some.inj hstep
      exact inv_change h value
  | start =>
      obtain rfl := Option.some.inj hstep
      exact inv_start h
  | read i =>
      simp only [step] at hstep
      split at hstep
      next hi =>
        obtain rfl := Option.some.inj hstep
        exact inv_read h hi
      · cases hstep
  | publish i =>
      simp only [step] at hstep
      split at hstep
      next stamp b hi =>
        obtain rfl := Option.some.inj hstep
        exact inv_publish h hi (horder stamp b hi)
      · cases hstep

/-- Once all workers are done, the log ends with the source's value. -/
theorem getLast?_log {s : State β} (h : Inv s) (hdone : ∀ w ∈ s.workers, w = .finished) {b : β}
    (hvalue : s.value = some b) : s.log.getLast? = some (s.stamp, b) := by
  obtain ⟨b', hlog⟩ : ∃ b', (s.stamp, b') ∈ s.log := by
    rcases h.current with hnone | hwait | ⟨b', hhold⟩ | hlog
    · rw [hnone] at hvalue
      cases hvalue
    · cases hdone _ hwait
    · cases hdone _ hhold
    · exact hlog
  obtain ⟨p, hp⟩ : ∃ p, s.log.getLast? = some p := by
    rw [← Option.isSome_iff_exists, List.getLast?_isSome]
    exact List.ne_nil_of_mem hlog
  obtain ⟨rest, hrest⟩ := List.getLast?_eq_some_iff.mp hp
  have hmem : p ∈ s.log := by rw [hrest]; simp
  have hmax : s.stamp ≤ p.1 := by
    have hordered := h.ordered
    rw [hrest, List.pairwise_append] at hordered
    rw [hrest, List.mem_append, List.mem_singleton] at hlog
    rcases hlog with hlog | heq
    · exact hordered.2.2 _ hlog p (List.mem_singleton.mpr rfl)
    · exact Nat.le_of_eq (congrArg Prod.fst heq)
  obtain ⟨hle, hcurrent⟩ := h.logged p hmem
  have hstamp : p.1 = s.stamp := Nat.le_antisymm hle hmax
  have hb : p.2 = b := Option.some.inj ((hcurrent hstamp).symm.trans hvalue)
  rw [hp, ← hstamp, ← hb]

end ZeroTrust.Lib.Publish
