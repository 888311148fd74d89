/-
# `ZeroTrust.Lib.Lease` — dated copies of a value that changes

An authority has a value that changes.  Now and then it hands out a copy, with the date its
clock shows, and then has no hold on it any more: a copy may be delayed, duplicated, lost
or overtaken, and its holder may never hear of a change.  All a holder does is to look at
the date.  A `Lease` of a step function says no more than this about a component:

    clock     never goes back
    copies    a new one has the value of the moment, and a date that is at most `skew`
              ahead of the clock

From it follows where a copy comes from (`goes_back`), and what a holder that only uses
copies with a date `ttl` back at most can rely on: its copy was the value at some moment of
the run, at most `ttl` and the skew ago (`value_recent`); so what the value has ceased to
allow is refused after that time, whatever became of the copies (`withdrawn`).
-/
import Mathlib.Tactic.Linarith
import ZeroTrust.Lib.Run

namespace ZeroTrust.Lib

variable {σ ε V : Type}

structure Lease (step : σ → ε → Option σ) (V : Type) where
  clock : σ → Int
  value : σ → V
  /-- A copy of a value, with its date, is about. -/
  Copy : σ → Int → V → Prop
  skew : Int
  clock_step : ∀ {s e s'}, step s e = some s' → clock s ≤ clock s'
  copy_step : ∀ {s e s' date v}, step s e = some s' → Copy s' date v →
    Copy s date v ∨ (v = value s ∧ date ≤ clock s + skew)

namespace Lease

variable {step : σ → ε → Option σ} (lease : Lease step V)

theorem clock_run {es : List ε} {s s' : σ} (h : run step s es = some s') :
    lease.clock s ≤ lease.clock s' := by
  refine run_invariant (motive := fun t => lease.clock s ≤ lease.clock t) ?_ (le_refl _) h
  intro t e t' ht hstep
  exact ht.trans (lease.clock_step hstep)

/-- The copy was the value at some moment of the run, and its date the time of it. -/
def GoesBack (s₀ : σ) (es : List ε) (date : Int) (v : V) : Prop :=
  ∃ pre, pre <+: es ∧ ∃ u, run step s₀ pre = some u ∧ lease.value u = v ∧
    date ≤ lease.clock u + lease.skew

variable {lease} {s₀ s : σ} {es : List ε} {date : Int} {v : V}

theorem GoesBack.later {e : ε} (h : lease.GoesBack s₀ es date v) :
    lease.GoesBack s₀ (es ++ [e]) date v := by
  obtain ⟨pre, hpre, u, hu⟩ := h
  exact ⟨pre, hpre.trans (List.prefix_append _ _), u, hu⟩

theorem goes_back (hnone : ∀ date v, ¬ lease.Copy s₀ date v) (hrun : run step s₀ es = some s)
    (hcopy : lease.Copy s date v) : lease.GoesBack s₀ es date v := by
  refine run_history (motive := fun es s => ∀ date v, lease.Copy s date v →
    lease.GoesBack s₀ es date v) ?_ ?_ hrun date v hcopy
  · intro date v h
    exact absurd h (hnone date v)
  · intro es s e s' hrun ih hstep date v h
    rcases lease.copy_step hstep h with hold | ⟨rfl, hdate⟩
    · exact (ih date v hold).later
    · exact ⟨es, List.prefix_append _ _, s, hrun, rfl, hdate⟩

/-- **What a holder can rely on.**  A copy whose date is `ttl` back at most was the value at
some moment of the run that is no longer ago than that and the skew. -/
theorem value_recent (hnone : ∀ date v, ¬ lease.Copy s₀ date v)
    (hrun : run step s₀ es = some s) (hcopy : lease.Copy s date v) {ttl : Int}
    (hcurrent : lease.clock s ≤ date + ttl) :
    ∃ pre, pre <+: es ∧ ∃ u, run step s₀ pre = some u ∧ lease.value u = v ∧
      lease.clock u ≤ lease.clock s ∧ lease.clock s ≤ lease.clock u + ttl + lease.skew := by
  obtain ⟨pre, ⟨rest, rfl⟩, u, hu, hv, hdate⟩ := goes_back hnone hrun hcopy
  obtain ⟨u', hu', hrest⟩ := run_append.mp hrun
  obtain rfl : u = u' := Option.some.inj (hu.symm.trans hu')
  exact ⟨pre, List.prefix_append _ _, u, hu, hv, lease.clock_run hrest, by linarith⟩

/-- **What is withdrawn is refused in time.**  If the value does not allow something at the
end of `es`, nor later, a copy that does is too old once `ttl` and the skew are past. -/
theorem withdrawn {P : V → Prop} {t : σ} {fs : List ε}
    (hnone : ∀ date v, ¬ lease.Copy s₀ date v) (hrun : run step s₀ es = some s)
    (hrest : run step s fs = some t)
    (hnever : ∀ mid, mid <+: fs → ∀ u, run step s mid = some u → ¬ P (lease.value u))
    (hcopy : lease.Copy t date v) (hP : P v) {ttl : Int} (hcurrent : lease.clock t ≤ date + ttl) :
    lease.clock t ≤ lease.clock s + ttl + lease.skew := by
  obtain ⟨pre, ⟨rest, hsplit⟩, u, hu, rfl, -, hrecent⟩ :=
    value_recent hnone (run_append.mpr ⟨s, hrun, hrest⟩) hcopy hcurrent
  -- the moment is before the end of `es`, or after it
  rcases List.append_eq_append_iff.mp hsplit with ⟨a, rfl, -⟩ | ⟨mid, rfl, hmid⟩
  · obtain ⟨u', hu', hlater⟩ := run_append.mp hrun
    obtain rfl : u = u' := Option.some.inj (hu.symm.trans hu')
    have := lease.clock_run hlater
    linarith
  · obtain ⟨s', hs', hu'⟩ := run_append.mp hu
    obtain rfl : s = s' := Option.some.inj (hrun.symm.trans hs')
    exact absurd hP (hnever mid ⟨rest, hmid.symm⟩ u hu')

end Lease

end ZeroTrust.Lib
