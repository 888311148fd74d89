/-
# `ZeroTrust.Lib.Interleave` — what a run puts out, and logs that several write

Two notions for a component that writes to a log together with others.

    outputs step out s es    what the steps of a run put out, one after the other
    Merges f xs              `xs` is the lists `f i` interleaved: every element is one of
                             theirs, each as often as there, and in its order

The rules for outputs: one more event (`outputs_concat`), the event an output comes from
(`mem_outputs`), outputs that are left out (`outputs_sublist`) or read (`filterMap_outputs`), and
a part of the system with its own run (`run_project`) and outputs (`outputs_project`).  The rules for merging: more elements (`Merges.append`), the first
elements (`Merges.initial`), elements that got lost (`Merges.sublist`) or out of order
(`Merges.subperm`), what is read of the elements (`Merges.filterMap`), and logs that are
merged themselves (`Merges.join`).

Nothing here names a particular program.
-/
import Mathlib.Data.List.Perm.Basic
import Mathlib.Data.List.Perm.Subperm
import ZeroTrust.Lib.Run

namespace ZeroTrust.Lib

section Outputs

variable {σ ε β : Type}

/-- What the steps of a run put out. -/
def outputs (step : σ → ε → Option σ) (out : σ → ε → List β) : σ → List ε → List β
  | _, [] => []
  | s, e :: es =>
      out s e ++
        match step s e with
        | some t => outputs step out t es
        | none => []

variable {step : σ → ε → Option σ} {out : σ → ε → List β}

theorem outputs_append {fs : List ε} : ∀ {es : List ε} {s t : σ}, run step s es = some t →
    outputs step out s (es ++ fs) = outputs step out s es ++ outputs step out t fs
  | [], s, t, h => by
      rw [run_nil, Option.some.injEq] at h
      rw [h]
      rfl
  | d :: es, s, t, h => by
      obtain ⟨u, hu, hrest⟩ := run_cons.mp h
      simp only [List.cons_append, outputs, hu, outputs_append hrest, List.append_assoc]

theorem outputs_singleton (s : σ) (e : ε) : outputs step out s [e] = out s e := by
  cases hstep : step s e <;> simp [outputs, hstep]

theorem outputs_concat {es : List ε} {s t : σ} {e : ε} (h : run step s es = some t) :
    outputs step out s (es ++ [e]) = outputs step out s es ++ out t e := by
  rw [outputs_append h, outputs_singleton]

/-- The event that an output comes from, in the state that it was taken in. -/
theorem mem_outputs {b : β} : ∀ {es : List ε} {s t : σ}, run step s es = some t →
    (b ∈ outputs step out s es ↔
      ∃ pre e post u, es = pre ++ e :: post ∧ run step s pre = some u ∧ b ∈ out u e)
  | [], s, t, _ => by
      constructor
      · intro h
        cases h
      · rintro ⟨pre, e, post, u, heq, -⟩
        cases pre <;> cases heq
  | d :: es, s, t, h => by
      obtain ⟨v, hv, hrest⟩ := run_cons.mp h
      simp only [outputs, hv, List.mem_append, mem_outputs hrest]
      constructor
      · rintro (hb | ⟨pre, e, post, u, rfl, hu, hb⟩)
        · exact ⟨[], d, es, s, rfl, rfl, hb⟩
        · exact ⟨d :: pre, e, post, u, rfl, run_cons.mpr ⟨v, hv, hu⟩, hb⟩
      · rintro ⟨pre, e, post, u, heq, hu, hb⟩
        cases pre with
        | nil =>
            rw [List.nil_append, List.cons.injEq] at heq
            obtain ⟨rfl, rfl⟩ := heq
            rw [run_nil, Option.some.injEq] at hu
            exact Or.inl (hu ▸ hb)
        | cons c pre =>
            rw [List.cons_append, List.cons.injEq] at heq
            obtain ⟨rfl, rfl⟩ := heq
            obtain ⟨w, hw, hpre⟩ := run_cons.mp hu
            obtain rfl : v = w := Option.some.inj (hv.symm.trans hw)
            exact Or.inr ⟨pre, e, post, u, rfl, hpre, hb⟩

/-- Who puts out less in every step puts out less in a run. -/
theorem outputs_sublist {out' : σ → ε → List β} (hstep : ∀ s e, (out' s e).Sublist (out s e)) :
    ∀ (es : List ε) (s : σ), (outputs step out' s es).Sublist (outputs step out s es)
  | [], _ => List.Sublist.refl _
  | e :: es, s => by
      cases ht : step s e with
      | none =>
          simp only [outputs, ht, List.append_nil]
          exact hstep s e
      | some t =>
          simp only [outputs, ht]
          exact (hstep s e).append (outputs_sublist hstep es t)

theorem outputs_congr {out' : σ → ε → List β} : ∀ {es : List ε} {s : σ},
    (∀ s, ∀ e ∈ es, out' s e = out s e) → outputs step out' s es = outputs step out s es
  | [], _, _ => rfl
  | e :: es, s, h => by
      have hrest : ∀ t, outputs step out' t es = outputs step out t es :=
        fun t => outputs_congr fun t d hd => h t d (List.mem_cons_of_mem e hd)
      simp only [outputs, h s e List.mem_cons_self, hrest]

theorem filterMap_outputs {γ : Type} (f : β → Option γ) : ∀ (es : List ε) (s : σ),
    (outputs step out s es).filterMap f = outputs step (fun s e => (out s e).filterMap f) s es
  | [], _ => rfl
  | e :: es, s => by
      simp only [outputs, List.filterMap_append]
      cases step s e with
      | none => rfl
      | some t => rw [filterMap_outputs f es t]

/-- A value that is always what was put out last: so it is after a run. -/
theorem getLast?_outputs (value : σ → β)
    (hstep : ∀ s e s', step s e = some s' → value s' = (out s e).getLast?.getD (value s)) :
    ∀ {es : List ε} {s t : σ}, run step s es = some t →
      value t = (outputs step out s es).getLast?.getD (value s)
  | [], s, t, h => by
      rw [run_nil, Option.some.injEq] at h
      rw [h]
      rfl
  | e :: es, s, t, h => by
      obtain ⟨u, hu, hrest⟩ := run_cons.mp h
      rw [getLast?_outputs value hstep hrest, hstep s e u hu]
      simp only [outputs, hu, List.getLast?_append]
      cases (outputs step out u es).getLast? <;> simp

/-- A part of a system takes a run of its own, if it does so in each step. -/
theorem run_project {τ δ : Type} {step' : τ → δ → Option τ} (proj : σ → τ)
    (events : ε → List δ)
    (hstep : ∀ s e s', step s e = some s' → run step' (proj s) (events e) = some (proj s')) :
    ∀ {es : List ε} {s t : σ}, run step s es = some t →
      run step' (proj s) (es.flatMap events) = some (proj t)
  | [], s, t, h => by
      rw [run_nil, Option.some.injEq] at h
      rw [h]
      rfl
  | e :: es, s, t, h => by
      obtain ⟨u, hu, hrest⟩ := run_cons.mp h
      rw [List.flatMap_cons]
      exact run_append.mpr ⟨proj u, hstep s e u hu, run_project proj events hstep hrest⟩

/-- What a part of a system puts out, told from the steps of the system. -/
theorem outputs_project {τ δ : Type} {step' : τ → δ → Option τ} (out' : τ → δ → List β)
    (proj : σ → τ) (events : ε → List δ)
    (hstep : ∀ s e s', step s e = some s' → run step' (proj s) (events e) = some (proj s')) :
    ∀ {es : List ε} {s t : σ}, run step s es = some t →
      outputs step' out' (proj s) (es.flatMap events) =
        outputs step (fun s e => outputs step' out' (proj s) (events e)) s es
  | [], s, t, _ => rfl
  | e :: es, s, t, h => by
      obtain ⟨u, hu, hrest⟩ := run_cons.mp h
      rw [List.flatMap_cons, outputs_append (hstep s e u hu),
        outputs_project out' proj events hstep hrest]
      simp only [outputs, hu]

end Outputs

section Merges

variable {ι κ α β : Type} [DecidableEq ι] [DecidableEq κ]

/-- What one of the writers wrote to a log that says who wrote what. -/
def part (i : ι) (log : List (ι × α)) : List α :=
  log.filterMap fun entry => if entry.1 = i then some entry.2 else none

@[simp] theorem part_nil (i : ι) : part i ([] : List (ι × α)) = [] := rfl

@[simp] theorem part_append (i : ι) (xs ys : List (ι × α)) :
    part i (xs ++ ys) = part i xs ++ part i ys :=
  List.filterMap_append

theorem part_cons (i : ι) (entry : ι × α) (log : List (ι × α)) :
    part i (entry :: log) = if entry.1 = i then entry.2 :: part i log else part i log := by
  unfold part
  by_cases h : entry.1 = i <;> simp [h]

theorem part_singleton (i j : ι) (a : α) : part i [(j, a)] = if j = i then [a] else [] := by
  simp [part_cons]

/-- What one writer writes is its own part. -/
theorem part_map_self (i : ι) (xs : List α) : part i (xs.map (Prod.mk i)) = xs := by
  induction xs with
  | nil => rfl
  | cons x xs ih => rw [List.map_cons, part_cons, if_pos rfl, ih]

theorem part_map_of_ne {i j : ι} (h : i ≠ j) (xs : List α) : part i (xs.map (Prod.mk j)) = [] := by
  induction xs with
  | nil => rfl
  | cons x xs ih => rw [List.map_cons, part_cons, if_neg h.symm, ih]

theorem mem_part {i : ι} {log : List (ι × α)} {a : α} : a ∈ part i log ↔ (i, a) ∈ log := by
  simp only [part, List.mem_filterMap, Option.ite_none_right_eq_some, Option.some.injEq]
  constructor
  · rintro ⟨⟨j, b⟩, hmem, rfl, rfl⟩
    exact hmem
  · intro hmem
    exact ⟨(i, a), hmem, rfl, rfl⟩

/-- The lists `f i`, interleaved. -/
def Merges (f : ι → List α) (xs : List α) : Prop :=
  ∃ log : List (ι × α), log.map Prod.snd = xs ∧ ∀ i, part i log = f i

theorem merges_nil : Merges (fun _ : ι => ([] : List α)) [] := ⟨[], rfl, fun _ => rfl⟩

theorem Merges.exists_mem {f : ι → List α} {xs : List α} (h : Merges f xs) {a : α}
    (ha : a ∈ xs) : ∃ i, a ∈ f i := by
  obtain ⟨log, rfl, hpart⟩ := h
  obtain ⟨⟨i, b⟩, hmem, rfl⟩ := List.mem_map.mp ha
  exact ⟨i, hpart i ▸ mem_part.mpr hmem⟩

/-- More entries, and who they are from. -/
theorem Merges.append {f : ι → List α} {xs : List α} (h : Merges f xs) (log : List (ι × α)) :
    Merges (fun i => f i ++ part i log) (xs ++ log.map Prod.snd) := by
  obtain ⟨log₀, rfl, hpart⟩ := h
  exact ⟨log₀ ++ log, by simp, fun i => by rw [part_append, hpart]⟩

theorem Merges.concat {f g : ι → List α} {xs : List α} (h : Merges f xs) (i : ι) (a : α)
    (hg : ∀ j, g j = if i = j then f j ++ [a] else f j) : Merges g (xs ++ [a]) := by
  have happend := h.append [(i, a)]
  have hparts : g = fun j => f j ++ part j [(i, a)] := by
    funext j
    rw [hg, part_singleton]
    split <;> simp
  exact hparts ▸ happend

/-- A log that has lost some entries: each writer's part has lost some. -/
theorem Merges.sublist {f : ι → List α} {xs ys : List α} (h : Merges f xs)
    (hsub : ys.Sublist xs) : ∃ g : ι → List α, (∀ i, (g i).Sublist (f i)) ∧ Merges g ys := by
  obtain ⟨log, rfl, hpart⟩ := h
  obtain ⟨kept, hkept, rfl⟩ := List.sublist_map_iff.mp hsub
  refine ⟨fun i => part i kept, fun i => ?_, kept, rfl, fun _ => rfl⟩
  rw [← hpart i]
  exact hkept.filterMap _

/-- The first entries of a log: the first ones of each writer. -/
theorem Merges.initial {f : ι → List α} {xs ys : List α} (h : Merges f xs) (hpre : ys <+: xs) :
    ∃ g : ι → List α, (∀ i, g i <+: f i) ∧ Merges g ys := by
  obtain ⟨log, rfl, hpart⟩ := h
  obtain ⟨rest, hrest⟩ := hpre
  obtain ⟨first, last, rfl, rfl, -⟩ := List.map_eq_append_iff.mp hrest.symm
  refine ⟨fun i => part i first, fun i => ?_, first, rfl, fun _ => rfl⟩
  rw [← hpart i, part_append]
  exact List.prefix_append _ _

/-- The same where entries went astray and arrive in another order. -/
theorem Merges.subperm {f : ι → List α} {xs ys : List α} (h : Merges f xs)
    (hsub : ys.Subperm xs) : ∃ g : ι → List α, (∀ i, (g i).Subperm (f i)) ∧ Merges g ys := by
  obtain ⟨zs, hperm, hsublist⟩ := hsub
  obtain ⟨g, hg, log, rfl, hpart⟩ := h.sublist hsublist
  have hcomp : Relation.Comp (· = List.map Prod.snd ·) List.Perm ys log := by
    rw [List.eq_map_comp_perm]
    exact hperm.symm
  obtain ⟨log', rfl, hlog⟩ := hcomp
  refine ⟨fun i => part i log', fun i => ?_, log', rfl, fun _ => rfl⟩
  have hparts : (part i log').Perm (g i) := hpart i ▸ hlog.filterMap _
  exact hparts.subperm.trans (hg i).subperm

omit [DecidableEq ι] [DecidableEq κ] in
theorem subperm_filterMap {xs ys : List α} (h : xs.Subperm ys) (g : α → Option β) :
    (xs.filterMap g).Subperm (ys.filterMap g) := by
  obtain ⟨zs, hperm, hsublist⟩ := h
  exact ⟨zs.filterMap g, hperm.filterMap g, hsublist.filterMap g⟩

theorem part_filterMap (g : α → Option β) (i : ι) (log : List (ι × α)) :
    part i (log.filterMap fun entry => (g entry.2).map (Prod.mk entry.1)) =
      (part i log).filterMap g := by
  unfold part
  rw [List.filterMap_filterMap, List.filterMap_filterMap]
  refine List.filterMap_congr fun entry _ => ?_
  by_cases h : entry.1 = i <;> cases hg : g entry.2 <;> simp [h, hg]

/-- What is read of the entries. -/
theorem Merges.filterMap {f : ι → List α} {xs : List α} (h : Merges f xs) (g : α → Option β) :
    Merges (fun i => (f i).filterMap g) (xs.filterMap g) := by
  obtain ⟨log, rfl, hpart⟩ := h
  refine ⟨log.filterMap fun entry => (g entry.2).map (Prod.mk entry.1), ?_, fun i => ?_⟩
  · rw [List.map_filterMap, List.filterMap_map]
    refine List.filterMap_congr fun entry _ => ?_
    cases hg : g entry.2 <;> simp [hg]
  · rw [part_filterMap, hpart]

/-- A log of logs: what was merged into a part of it is merged into it. -/
theorem Merges.join {f : ι → List α} {xs : List α} (h : Merges f xs) {g : ι → κ → List α}
    (hparts : ∀ i, Merges (g i) (f i)) : Merges (fun p : ι × κ => g p.1 p.2) xs := by
  obtain ⟨log, rfl, hpart⟩ := h
  have key : ∀ (log : List (ι × α)) (g : ι → κ → List α),
      (∀ i, Merges (g i) (part i log)) →
      Merges (fun p : ι × κ => g p.1 p.2) (log.map Prod.snd) := by
    intro log
    -- from the last entry: it is the last one of its writer's part, so of one of its parts
    induction log using List.reverseRecOn with
    | nil =>
        intro g hg
        refine ⟨[], rfl, fun p => ?_⟩
        obtain ⟨inner, hinner, hparts⟩ := hg p.1
        obtain rfl : inner = [] := List.map_eq_nil_iff.mp hinner
        exact hparts p.2
    | append_singleton log entry ih =>
        obtain ⟨i, a⟩ := entry
        intro g hg
        obtain ⟨inner, hinner, hparts⟩ := hg i
        rw [part_append, part_singleton, if_pos rfl] at hinner
        obtain ⟨before, last, rfl, hbefore, hlast⟩ := List.map_eq_append_iff.mp hinner
        obtain ⟨⟨k, b⟩, rfl, rfl⟩ := List.map_eq_singleton_iff.mp hlast
        let g' : ι → κ → List α := fun j => if j = i then fun k => part k before else g j
        have hg' : ∀ j, Merges (g' j) (part j log) := by
          intro j
          by_cases hj : j = i
          · subst hj
            exact ⟨before, hbefore, fun k => by simp [g']⟩
          · have hmerges := hg j
            rw [part_append, part_singleton, if_neg (Ne.symm hj), List.append_nil] at hmerges
            simpa [g', hj] using hmerges
        rw [List.map_append]
        refine (ih g' hg').concat (i, k) b fun p => ?_
        obtain ⟨j, m⟩ := p
        by_cases hj : j = i
        · subst hj
          have hm := hparts m
          rw [part_append, part_singleton] at hm
          simp only [g', if_true, Prod.mk.injEq, true_and, ← hm]
          split <;> simp
        · simp [g', hj, Ne.symm hj]
  exact key log g fun i => hpart i ▸ hparts i

end Merges

end ZeroTrust.Lib
