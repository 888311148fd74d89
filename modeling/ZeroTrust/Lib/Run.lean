/-
# `ZeroTrust.Lib.Run` — runs of a partial step function

A component is given by a state type `σ`, an event type `ε` and a step
function `step : σ → ε → Option σ`.  A step that answers `none` is one the
component cannot take: the event is not enabled in that state, or the process
is gone.  `run` threads a list of events through the step function, so a
statement "in every reachable state" is a statement about every `es` and every
`s` with `run step s₀ es = some s`.

Nine ways of proving something of every run:

    Inv is kept by each step                     (`run_invariant`)
    a relation between the events so far and
      the state is kept by one more event        (`run_history`)
    Inv is kept by the steps that meet `ok`,
      and every step of the run meets it         (`run_invariant_of_meets`)
    where Inv holds, a step of one kind is of
      another one too, and Inv goes on           (`meets_imp_of_inv`)
    the same for two kinds that are one there    (`meets_iff_of_inv`)
    P is kept by the steps that meet `ok` and
      broken by the others                       (`forall_prefix_iff_meets`)
    the same for a P that looks at the whole
      run, with an invariant of the runs whose
      steps all meet `ok`                        (`forall_prefix_iff_meets_of_inv`)
    P, once broken, stays so: it is enough to
      look at the last state                     (`iff_meets_of_step`)
    any later state is related to any earlier
      one, by a preorder                         (`related_iff_meets`)

`Meets` says of a run that each of its steps is of a kind, `Takes` that one is
(`takes_concat` goes with the history rule).  `Since keeps P es` is a statement
about the events alone: the last event that is not a `keeps` one, or a later one,
is a `P` one (`since_concat`).

Nothing here names a particular program.
-/
import Mathlib.Data.List.Induction
import Mathlib.Tactic.Common

namespace ZeroTrust.Lib

section Run

variable {σ ε : Type} (step : σ → ε → Option σ)

/-- The state after the events `es`, if every step can be taken. -/
def run : σ → List ε → Option σ
  | s, [] => some s
  | s, e :: es => (step s e).bind fun s' => run s' es

/-- Every step of the run from `s` is taken in a state where `ok` holds of it. -/
def Meets (ok : σ → ε → Prop) : σ → List ε → Prop
  | _, [] => True
  | s, e :: es => ok s e ∧ ∀ s', step s e = some s' → Meets ok s' es

/-- Some step of the run from `s` is taken in a state where `Q` holds of it. -/
def Takes (Q : σ → ε → Prop) : σ → List ε → Prop
  | _, [] => False
  | s, e :: es => Q s e ∨ ∃ s', step s e = some s' ∧ Takes Q s' es

variable {step}

@[simp] theorem run_nil (s : σ) : run step s [] = some s := rfl

theorem run_cons {s s' : σ} {e : ε} {es : List ε} :
    run step s (e :: es) = some s' ↔
      ∃ t, step s e = some t ∧ run step t es = some s' := by
  simp only [run, Option.bind_eq_some_iff]

theorem run_append {s s' : σ} {es fs : List ε} :
    run step s (es ++ fs) = some s' ↔
      ∃ t, run step s es = some t ∧ run step t fs = some s' := by
  induction es generalizing s with
  | nil => simp
  | cons e es ih =>
      rw [List.cons_append, run_cons]
      constructor
      · rintro ⟨t, ht, hrest⟩
        obtain ⟨u, hu, hfs⟩ := ih.mp hrest
        exact ⟨u, run_cons.mpr ⟨t, ht, hu⟩, hfs⟩
      · rintro ⟨u, hu, hfs⟩
        obtain ⟨t, ht, hes⟩ := run_cons.mp hu
        exact ⟨t, ht, ih.mpr ⟨u, hes, hfs⟩⟩

/-- The last event of a run, split off. -/
theorem run_concat {s s' : σ} {es : List ε} {e : ε} :
    run step s (es ++ [e]) = some s' ↔
      ∃ t, run step s es = some t ∧ step t e = some s' := by
  rw [run_append]
  constructor
  · rintro ⟨t, ht, hlast⟩
    obtain ⟨u, hu, hnil⟩ := run_cons.mp hlast
    rw [run_nil, Option.some.injEq] at hnil
    exact ⟨t, ht, hnil ▸ hu⟩
  · rintro ⟨t, ht, hlast⟩
    exact ⟨t, ht, run_cons.mpr ⟨s', hlast, rfl⟩⟩

/-- **Invariant rule.** -/
theorem run_invariant {motive : σ → Prop}
    (hstep : ∀ s e s', motive s → step s e = some s' → motive s') :
    ∀ {es : List ε} {s s' : σ}, motive s → run step s es = some s' → motive s'
  | [], s, s', hs, h => by
      rw [run_nil, Option.some.injEq] at h
      exact h ▸ hs
  | e :: es, s, s', hs, h => by
      obtain ⟨t, ht, hrest⟩ := run_cons.mp h
      exact run_invariant hstep (hstep s e t hs ht) hrest

/-- **History rule.**  Induction on the events from the right, with the state
they lead to: what a run establishes may speak about all of its events. -/
theorem run_history {s₀ : σ} {motive : List ε → σ → Prop} (init : motive [] s₀)
    (snoc : ∀ es s e s', run step s₀ es = some s → motive es s → step s e = some s' →
      motive (es ++ [e]) s') :
    ∀ {es : List ε} {s : σ}, run step s₀ es = some s → motive es s := by
  intro es
  induction es using List.reverseRecOn with
  | nil =>
      intro s h
      rw [run_nil, Option.some.injEq] at h
      exact h ▸ init
  | append_singleton es e ih =>
      intro s h
      obtain ⟨t, ht, hlast⟩ := run_concat.mp h
      exact snoc es t e s ht (ih ht) hlast

theorem meets_append {ok : σ → ε → Prop} {s : σ} {es fs : List ε} :
    Meets step ok s (es ++ fs) ↔
      Meets step ok s es ∧ ∀ t, run step s es = some t → Meets step ok t fs := by
  induction es generalizing s with
  | nil => simp [Meets]
  | cons e es ih =>
      simp only [List.cons_append, Meets, ih, run_cons]
      constructor
      · rintro ⟨hok, hrest⟩
        refine ⟨⟨hok, fun t ht => (hrest t ht).1⟩, ?_⟩
        rintro u ⟨t, ht, hu⟩
        exact (hrest t ht).2 u hu
      · rintro ⟨⟨hok, hmeets⟩, hfs⟩
        exact ⟨hok, fun t ht => ⟨hmeets t ht, fun u hu => hfs u ⟨t, ht, hu⟩⟩⟩

theorem meets_cons {ok : σ → ε → Prop} {s t : σ} {e : ε} {es : List ε} (hok : ok s e)
    (hstep : step s e = some t) (hrest : Meets step ok t es) : Meets step ok s (e :: es) := by
  refine ⟨hok, ?_⟩
  intro s' h
  obtain rfl : t = s' := Option.some.inj (hstep.symm.trans h)
  exact hrest

theorem meets_of_forall {ok : σ → ε → Prop} : ∀ {es : List ε}, (∀ e ∈ es, ∀ s, ok s e) →
    ∀ {s : σ}, Meets step ok s es
  | [], _, _ => trivial
  | e :: _, h, s => ⟨h e List.mem_cons_self s,
      fun _ _ => meets_of_forall fun e' he' => h e' (List.mem_cons_of_mem _ he')⟩

theorem meets_congr {P Q : σ → ε → Prop} (h : ∀ s e s', step s e = some s' → (P s e ↔ Q s e)) :
    ∀ {es : List ε} {s s' : σ}, run step s es = some s' → (Meets step P s es ↔ Meets step Q s es)
  | [], _, _, _ => Iff.rfl
  | e :: es, s, s', hrun => by
      obtain ⟨t, ht, hrest⟩ := run_cons.mp hrun
      simp only [Meets, ht, Option.some.injEq, forall_eq', h s e t ht, meets_congr h hrest]

theorem meets_and {ok ok' : σ → ε → Prop} : ∀ {es : List ε} {s : σ},
    Meets step ok s es → Meets step ok' s es → Meets step (fun s e => ok s e ∧ ok' s e) s es
  | [], _, _, _ => trivial
  | _ :: _, _, h, h' => ⟨⟨h.1, h'.1⟩, fun t ht => meets_and (h.2 t ht) (h'.2 t ht)⟩

/-- From one condition to another, with an invariant of the runs that meet the first. -/
theorem meets_imp_of_inv {P Q : σ → ε → Prop} {motive : σ → Prop}
    (hkeep : ∀ s e s', motive s → P s e → step s e = some s' → motive s')
    (himp : ∀ s e s', motive s → step s e = some s' → P s e → Q s e) :
    ∀ {es : List ε} {s s' : σ}, motive s → run step s es = some s' → Meets step P s es →
      Meets step Q s es
  | [], _, _, _, _, _ => trivial
  | e :: es, s, s', hs, h, hm => by
      obtain ⟨t, ht, hrest⟩ := run_cons.mp h
      refine meets_cons (himp s e t hs ht hm.1) ht ?_
      exact meets_imp_of_inv hkeep himp (hkeep s e t hs hm.1 ht) hrest (hm.2 t ht)

/-- Two conditions that say the same where an invariant of the runs that meet one of them
holds, and perhaps only of steps of one kind. -/
theorem meets_iff_of_inv {base P Q : σ → ε → Prop} {motive : σ → Prop}
    (hkeep : ∀ s e s', motive s → base s e → Q s e → step s e = some s' → motive s')
    (hiff : ∀ s e, motive s → base s e → (P s e ↔ Q s e)) {es : List ε} {s s' : σ} (hs : motive s)
    (h : run step s es = some s') (hbase : Meets step base s es) :
    Meets step P s es ↔ Meets step Q s es := by
  induction es generalizing s with
  | nil => exact Iff.rfl
  | cons e es ih =>
      obtain ⟨t, ht, hrest⟩ := run_cons.mp h
      have hsame := hiff s e hs hbase.1
      constructor
      · rintro ⟨hP, hmeets⟩
        have hQ := hsame.mp hP
        refine meets_cons hQ ht ?_
        exact (ih (hkeep s e t hs hbase.1 hQ ht) hrest (hbase.2 t ht)).mp (hmeets t ht)
      · rintro ⟨hQ, hmeets⟩
        refine meets_cons (hsame.mpr hQ) ht ?_
        exact (ih (hkeep s e t hs hbase.1 hQ ht) hrest (hbase.2 t ht)).mpr (hmeets t ht)

/-- One more step of a run. -/
theorem takes_concat {Q : σ → ε → Prop} : ∀ {es : List ε} {s s' : σ} {e : ε},
    run step s es = some s' → (Takes step Q s (es ++ [e]) ↔ Takes step Q s es ∨ Q s' e)
  | [], s, s', e, h => by
      rw [run_nil, Option.some.injEq] at h
      simp [Takes, h]
  | d :: es, s, s', e, h => by
      obtain ⟨t, ht, hrest⟩ := run_cons.mp h
      have ih := takes_concat (Q := Q) (e := e) hrest
      simp only [List.cons_append, Takes, ht, Option.some.injEq, exists_eq_left', ih, or_assoc]

/-- **Invariant rule, for runs whose steps all meet a condition.** -/
theorem run_invariant_of_meets {ok : σ → ε → Prop} {motive : σ → Prop}
    (hstep : ∀ s e s', motive s → ok s e → step s e = some s' → motive s') :
    ∀ {es : List ε} {s s' : σ}, motive s → Meets step ok s es → run step s es = some s' →
      motive s'
  | [], s, s', hs, _, h => by
      rw [run_nil, Option.some.injEq] at h
      exact h ▸ hs
  | e :: es, s, s', hs, hm, h => by
      obtain ⟨t, ht, hrest⟩ := run_cons.mp h
      exact run_invariant_of_meets hstep (hstep s e t hs hm.1 ht) (hm.2 t ht) hrest

/-- **Exactness rule.**  If a step that meets the condition keeps a property and a step
that does not breaks it, the property holds all along a run iff every step meets
the condition. -/
theorem forall_prefix_iff_meets {ok : σ → ε → Prop} {Inv P : σ → Prop}
    (hinv : ∀ s e s', Inv s → step s e = some s' → Inv s')
    (hkeep : ∀ s e s', Inv s → P s → ok s e → step s e = some s' → P s')
    (hbreak : ∀ s e s', Inv s → step s e = some s' → P s' → ok s e) :
    ∀ {es : List ε} {s s' : σ}, Inv s → P s → run step s es = some s' →
      ((∀ pre, pre <+: es → ∀ t, run step s pre = some t → P t) ↔ Meets step ok s es)
  | [], s, s', _, hP, _ => by
      refine ⟨fun _ => trivial, ?_⟩
      intro _ pre hpre t ht
      obtain rfl := List.prefix_nil.mp hpre
      rw [run_nil, Option.some.injEq] at ht
      exact ht ▸ hP
  | e :: es, s, s', hs, hP, h => by
      obtain ⟨t, ht, hrest⟩ := run_cons.mp h
      have htInv := hinv s e t hs ht
      constructor
      · intro hall
        have hPt : P t := hall [e] ⟨es, rfl⟩ t (run_cons.mpr ⟨t, ht, rfl⟩)
        have hok := hbreak s e t hs ht hPt
        refine meets_cons hok ht ?_
        refine (forall_prefix_iff_meets hinv hkeep hbreak htInv hPt hrest).mp ?_
        rintro pre ⟨rest, rfl⟩ u hu
        exact hall (e :: pre) ⟨rest, rfl⟩ u (run_cons.mpr ⟨t, ht, hu⟩)
      · rintro ⟨hok, hmeets⟩ pre hpre u hu
        have hPt := hkeep s e t hs hP hok ht
        cases pre with
        | nil =>
            rw [run_nil, Option.some.injEq] at hu
            exact hu ▸ hP
        | cons e' pre =>
            obtain ⟨rfl, hpre'⟩ := List.cons_prefix_cons.mp hpre
            obtain ⟨v, hv, hu'⟩ := run_cons.mp hu
            obtain rfl : t = v := Option.some.inj (ht.symm.trans hv)
            exact (forall_prefix_iff_meets hinv hkeep hbreak htInv hPt hrest).mpr
              (hmeets t ht) pre hpre' u hu'

/-- **Exactness rule, for a property that is not regained.** -/
theorem iff_meets_of_step {ok : σ → ε → Prop} {Inv P : σ → Prop}
    (hinv : ∀ s e s', Inv s → step s e = some s' → Inv s')
    (hiff : ∀ s e s', Inv s → step s e = some s' → (P s' ↔ P s ∧ ok s e)) :
    ∀ {es : List ε} {s s' : σ}, Inv s → run step s es = some s' →
      (P s' ↔ P s ∧ Meets step ok s es)
  | [], s, s', _, h => by
      rw [run_nil, Option.some.injEq] at h
      simp [Meets, h]
  | e :: es, s, s', hs, h => by
      obtain ⟨t, ht, hrest⟩ := run_cons.mp h
      rw [iff_meets_of_step hinv hiff (hinv s e t hs ht) hrest, hiff s e t hs ht, and_assoc]
      simp [Meets, ht]

/-- A loop is a run whose steps can all be taken. -/
theorem run_foldl {f : σ → ε → σ} : ∀ (es : List ε) (s : σ),
    run (fun s e => some (f s e)) s es = some (es.foldl f s)
  | [], _ => rfl
  | e :: es, s => run_cons.mpr ⟨f s e, rfl, run_foldl es (f s e)⟩

theorem foldl_invariant {f : σ → ε → σ} {motive : σ → Prop}
    (hstep : ∀ s e, motive s → motive (f s e)) (es : List ε) {s : σ} (hs : motive s) :
    motive (es.foldl f s) := by
  refine run_invariant (fun s e s' hs h => ?_) hs (run_foldl es s)
  obtain rfl := Option.some.inj h
  exact hstep s e hs

theorem foldl_iff_meets {f : σ → ε → σ} {ok : σ → ε → Prop} {Inv P : σ → Prop}
    (hinv : ∀ s e, Inv s → Inv (f s e)) (hiff : ∀ s e, Inv s → (P (f s e) ↔ P s ∧ ok s e))
    (es : List ε) {s : σ} (hs : Inv s) :
    P (es.foldl f s) ↔ P s ∧ Meets (fun s e => some (f s e)) ok s es := by
  refine iff_meets_of_step (fun s e s' hs h => ?_) (fun s e s' hs h => ?_) hs (run_foldl es s)
  · obtain rfl := Option.some.inj h
    exact hinv s e hs
  · obtain rfl := Option.some.inj h
    exact hiff s e hs

section Related

variable {R : σ → σ → Prop} (hrefl : ∀ s, R s s) (htrans : ∀ s t u, R s t → R t u → R s u)

include hrefl htrans

theorem related_of_meets {es : List ε} {s s' : σ}
    (h : Meets step (fun s e => ∀ s', step s e = some s' → R s s') s es)
    (hrun : run step s es = some s') : R s s' := by
  refine run_invariant_of_meets (motive := R s) ?_ (hrefl s) h hrun
  intro t e t' ht hok hstep
  exact htrans s t t' ht (hok t' hstep)

/-- **Exactness rule, for what one state says of the next.** -/
theorem related_iff_meets : ∀ {es : List ε} {s s' : σ}, run step s es = some s' →
    ((∀ pre mid post, es = pre ++ mid ++ post → ∀ t u, run step s pre = some t →
        run step t mid = some u → R t u) ↔
      Meets step (fun s e => ∀ s', step s e = some s' → R s s') s es)
  | [], _, _, _ => by
      refine ⟨fun _ => trivial, ?_⟩
      intro _ pre mid post heq t u _ hmid
      obtain ⟨rfl, rfl, rfl⟩ : pre = [] ∧ mid = [] ∧ post = [] := by simpa using heq.symm
      rw [run_nil, Option.some.injEq] at hmid
      exact hmid ▸ hrefl t
  | e :: es, s, s', h => by
      obtain ⟨t, ht, hrest⟩ := run_cons.mp h
      constructor
      · intro hall
        refine ⟨fun s' hs' => hall [] [e] es rfl s s' rfl (run_cons.mpr ⟨s', hs', rfl⟩), ?_⟩
        intro u hu
        obtain rfl : t = u := Option.some.inj (ht.symm.trans hu)
        refine (related_iff_meets hrest).mp ?_
        rintro pre mid post rfl v w hv hw
        exact hall (e :: pre) mid post rfl v w (run_cons.mpr ⟨t, ht, hv⟩) hw
      · intro hmeets pre mid post heq v w hv hw
        rw [heq] at hmeets
        have hmid := (meets_append.mp (meets_append.mp hmeets).1).2 v hv
        exact related_of_meets hrefl htrans hmid hw

end Related

/-- A run whose steps meet the condition does so up to each of its states. -/
theorem meets_initial {ok : σ → ε → Prop} {s : σ} {pre es : List ε} (hpre : pre <+: es)
    (h : Meets step ok s es) : Meets step ok s pre := by
  obtain ⟨rest, rfl⟩ := hpre
  exact (meets_append.mp h).1

/-- **Exactness rule, for properties of the whole run.**  `Inv` need only hold along runs
whose steps meet the condition: the first step that does not is the one that must break
the property. -/
theorem forall_prefix_iff_meets_of_inv {base ok : σ → ε → Prop} {s₀ : σ} {Inv : σ → Prop}
    {P : List ε → σ → Prop} (hinit : Inv s₀)
    (hkeep : ∀ s e s', Inv s → base s e → ok s e → step s e = some s' → Inv s')
    (hholds : ∀ es s, run step s₀ es = some s → Meets step base s₀ es → Meets step ok s₀ es →
      P es s)
    (hbreak : ∀ es s e s', run step s₀ es = some s → Inv s → base s e → step s e = some s' →
      P (es ++ [e]) s' → ok s e) {es : List ε} {s : σ} (hrun : run step s₀ es = some s)
    (hbase : Meets step base s₀ es) :
    (∀ pre, pre <+: es → ∀ t, run step s₀ pre = some t → P pre t) ↔ Meets step ok s₀ es := by
  constructor
  · refine run_history
      (motive := fun es _ => Meets step base s₀ es →
        (∀ pre, pre <+: es → ∀ t, run step s₀ pre = some t → P pre t) → Meets step ok s₀ es)
      (fun _ _ => trivial) ?_ hrun hbase
    intro es s e s' hrun ih hstep hbase hall
    obtain ⟨hbase', hlast⟩ := meets_append.mp hbase
    have hmeets : Meets step ok s₀ es :=
      ih hbase' fun pre hpre t ht => hall pre (hpre.trans (List.prefix_append _ _)) t ht
    have hinv : Inv s := by
      refine run_invariant_of_meets (fun s e s' hs hok hstep => ?_) hinit
        (meets_and hbase' hmeets) hrun
      exact hkeep s e s' hs hok.1 hok.2 hstep
    have hok : ok s e := hbreak es s e s' hrun hinv (hlast s hrun).1 hstep
      (hall _ List.prefix_rfl s' (run_concat.mpr ⟨s, hrun, hstep⟩))
    refine meets_append.mpr ⟨hmeets, ?_⟩
    intro t ht
    obtain rfl : s = t := Option.some.inj (hrun.symm.trans ht)
    exact meets_cons hok hstep trivial
  · intro hmeets pre hpre t ht
    exact hholds pre t ht (meets_initial hpre hbase) (meets_initial hpre hmeets)

end Run

section Since

variable {ε : Type} {keeps : ε → Prop} {P : List ε → ε → Prop}

/-- Among the events there is one that `P` holds of, given those before it, and every
later one is a `keeps` one. -/
def Since (keeps : ε → Prop) (P : List ε → ε → Prop) (es : List ε) : Prop :=
  ∃ pre e post, es = pre ++ e :: post ∧ P pre e ∧ ∀ x ∈ post, keeps x

theorem not_since_nil : ¬ Since keeps P [] := by
  rintro ⟨pre, e, post, heq, -⟩
  cases pre <;> cases heq

/-- One more event: it is the one, or it keeps what was before. -/
theorem since_concat {es : List ε} {e : ε} :
    Since keeps P (es ++ [e]) ↔ P es e ∨ Since keeps P es ∧ keeps e := by
  constructor
  · rintro ⟨pre, d, post, heq, hP, hpost⟩
    rcases List.eq_nil_or_concat post with rfl | ⟨post, x, rfl⟩
    · obtain ⟨rfl, hed⟩ := List.append_inj' heq rfl
      obtain rfl : e = d := by simpa using hed
      exact Or.inl hP
    · have heq' : es ++ [e] = (pre ++ d :: post) ++ [x] := by simpa using heq
      obtain ⟨rfl, hex⟩ := List.append_inj' heq' rfl
      obtain rfl : e = x := by simpa using hex
      refine Or.inr ⟨⟨pre, d, post, rfl, hP, fun y hy => hpost y (by simp [hy])⟩, ?_⟩
      exact hpost e (by simp)
  · rintro (hP | ⟨⟨pre, d, post, rfl, hP, hpost⟩, hkeeps⟩)
    · exact ⟨es, e, [], rfl, hP, by simp⟩
    · refine ⟨pre, d, post ++ [e], by simp, hP, ?_⟩
      intro y hy
      rcases List.mem_append.mp hy with hy | hy
      · exact hpost y hy
      · rwa [List.mem_singleton.mp hy]

theorem since_append {es fs : List ε} (h : Since keeps P es) (hfs : ∀ x ∈ fs, keeps x) :
    Since keeps P (es ++ fs) := by
  obtain ⟨pre, e, post, rfl, hP, hpost⟩ := h
  refine ⟨pre, e, post ++ fs, by simp, hP, ?_⟩
  intro x hx
  exact (List.mem_append.mp hx).elim (hpost x) (hfs x)

end Since

end ZeroTrust.Lib
