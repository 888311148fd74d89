/-
# `ZeroTrust.Lib.Script` — the statements of a request, one by one

A handler runs statements against a store and replies.  Outside a transaction each statement
takes effect by itself, so a handler that gives up half-way leaves what it has done so far.
A `Script` is the handler as its statements see it: a statement is a partial function of the
store, `none` being a constraint that does not hold, and what comes next may depend on whether
it failed, which is how a handler looks at an error or drops it.

    read         a query; the handler is handed the store, or nothing if the query fails
    exec         a statement that takes effect at once
    transaction  a `Body`, which ends in a commit or is rolled back with an error

Statements also fail for reasons that are not in the store.  `refuses n` says that the n-th
one does, counting queries, `BEGIN` and `COMMIT`.  Inside a transaction nothing succeeds any
more after the first failure, and its commit takes nothing over.

    `run_of_clean`      a script that never gives an error after a statement that took effect
                        leaves the store alone when it replies with an error
    `afterAll_eq_iff`   statements that only remove rows leave the store alone iff none of
                        those carried out finds a row
-/
import Mathlib.Tactic.Common

namespace ZeroTrust.Lib

/-- What a handler does inside a transaction. -/
inductive Body (σ ε : Type) where
  | commit
  | rollback (e : ε)
  | read (k : Option σ → Body σ ε)
  | exec (statement : σ → Option σ) (k : Bool → Body σ ε)

inductive Script (σ ε : Type) where
  /-- `none` is a reply that everything is fine. -/
  | reply (e : Option ε)
  | read (k : Option σ → Script σ ε)
  | exec (statement : σ → Option σ) (k : Bool → Script σ ε)
  /-- `noBegin` is the reply if the transaction cannot begin; `k` is told of the commit. -/
  | transaction (noBegin : ε) (body : Body σ ε) (k : Bool → Script σ ε)

variable {σ ε : Type}

/-- A statement, refused or not. -/
def attempt (refused : Bool) (statement : σ → Option σ) (s : σ) : Option σ :=
  if refused then none else statement s

@[simp] theorem attempt_eq_none {refused : Bool} {statement : σ → Option σ} {s : σ} :
    attempt refused statement s = none ↔ refused = true ∨ statement s = none := by
  cases refused <;> simp [attempt]

@[simp] theorem attempt_eq_some {refused : Bool} {statement : σ → Option σ} {s s' : σ} :
    attempt refused statement s = some s' ↔ refused = false ∧ statement s = some s' := by
  cases refused <;> simp [attempt]

/-- How many statements have been run, and what is to be committed, if anything. -/
def Body.run (refuses : Nat → Bool) : Body σ ε → Nat → Bool → σ → Nat × Except ε (Option σ)
  | .commit, n, aborted, s => (n + 1, .ok (if aborted || refuses n then none else some s))
  | .rollback e, n, _, _ => (n, .error e)
  | .read k, n, aborted, s =>
      if aborted || refuses n then (k none).run refuses (n + 1) true s
      else (k (some s)).run refuses (n + 1) false s
  | .exec statement k, n, aborted, s =>
      match attempt (aborted || refuses n) statement s with
      | none => (k false).run refuses (n + 1) true s
      | some s' => (k true).run refuses (n + 1) false s'

/-- None of `count` statements is refused, from the `n`-th on. -/
def Unrefused (refuses : Nat → Bool) (n count : Nat) : Prop :=
  ∀ i < count, refuses (n + i) = false

theorem unrefused_add {refuses : Nat → Bool} {n k m : Nat} :
    Unrefused refuses n (k + m) ↔ Unrefused refuses n k ∧ Unrefused refuses (n + k) m := by
  constructor
  · intro h
    refine ⟨fun i hi => h i (Nat.lt_add_right m hi), fun i hi => ?_⟩
    rw [Nat.add_assoc]
    exact h (k + i) (Nat.add_lt_add_left hi k)
  · rintro ⟨hfirst, hrest⟩ i hi
    by_cases hk : i < k
    · exact hfirst i hk
    · obtain ⟨j, rfl⟩ := Nat.exists_eq_add_of_le (Nat.not_lt.mp hk)
      rw [← Nat.add_assoc]
      exact hrest j (Nat.lt_of_add_lt_add_left hi)

@[simp] theorem unrefused_zero {refuses : Nat → Bool} {n : Nat} : Unrefused refuses n 0 :=
  fun i hi => absurd hi (Nat.not_lt_zero i)

@[simp] theorem unrefused_one {refuses : Nat → Bool} {n : Nat} :
    Unrefused refuses n 1 ↔ refuses n = false := by
  simp [Unrefused]

theorem unrefused_succ {refuses : Nat → Bool} {n count : Nat} :
    Unrefused refuses n (count + 1) ↔
      Unrefused refuses n count ∧ refuses (n + count) = false := by
  rw [unrefused_add, unrefused_one]

theorem unrefused_cons {refuses : Nat → Bool} {n count : Nat} :
    Unrefused refuses n (count + 1) ↔ refuses n = false ∧ Unrefused refuses (n + 1) count := by
  rw [Nat.add_comm, unrefused_add, unrefused_one]

/-- A statement whose error ends the transaction. -/
def Body.checked (e : ε) (statement : σ → Option σ) (next : Body σ ε) : Body σ ε :=
  .exec statement fun done => if done then next else .rollback e

/-- One after the other; their errors are dropped. -/
def Body.execAll : List (σ → Option σ) → Body σ ε → Body σ ε
  | [], rest => rest
  | statement :: statements, rest => .exec statement fun _ => Body.execAll statements rest

/-! ## Transactions that are carried through -/

namespace Body

/-- Nothing is refused from the `n`-th statement on, and `s'` is committed. -/
def Commits (refuses : Nat → Bool) : Body σ ε → Nat → σ → σ → Prop
  | .commit, n, s, s' => refuses n = false ∧ s' = s
  | .rollback _, _, _, _ => False
  | .read k, n, s, s' => refuses n = false ∧ (k (some s)).Commits refuses (n + 1) s s'
  | .exec statement k, n, s, s' =>
      refuses n = false ∧ ∃ t, statement s = some t ∧ (k true).Commits refuses (n + 1) t s'

/-- Whatever fails, the transaction is not given up. -/
def NoRollback : Body σ ε → Prop
  | .commit => True
  | .rollback _ => False
  | .read k => ∀ o, (k o).NoRollback
  | .exec _ k => ∀ done, (k done).NoRollback

section

variable {refuses : Nat → Bool} {n : Nat} {s s' : σ}

theorem run_aborted {body : Body σ ε} : (body.run refuses n true s).2 ≠ .ok (some s') := by
  induction body generalizing n s with
  | commit => simp [run]
  | rollback e => simp [run]
  | read k ih => exact ih none
  | exec statement k ih => exact ih false

/-- The transaction takes effect iff every statement of it does. -/
theorem run_eq_commit_iff {body : Body σ ε} :
    (body.run refuses n false s).2 = .ok (some s') ↔ body.Commits refuses n s s' := by
  induction body generalizing n s with
  | commit =>
      cases hran : refuses n <;> simp [run, Commits, hran, eq_comm]
  | rollback e => simp [run, Commits]
  | read k ih =>
      cases hran : refuses n with
      | false => simp [run, Commits, hran, ih]
      | true => simp [run, Commits, hran, run_aborted]
  | exec statement k ih =>
      rw [run, Commits, Bool.false_or]
      cases hstep : attempt (refuses n) statement s with
      | none =>
          refine iff_of_false run_aborted ?_
          rintro ⟨hran, t, ht, -⟩
          rw [attempt_eq_some.mpr ⟨hran, ht⟩] at hstep
          cases hstep
      | some t =>
          obtain ⟨hran, ht⟩ := attempt_eq_some.mp hstep
          simp only [ih, hran, ht, true_and, Option.some.injEq, exists_eq_left']

theorem run_of_noRollback {body : Body σ ε} (h : body.NoRollback) (refuses : Nat → Bool) (n : Nat)
    (s : σ) (aborted : Bool) : ∃ o, (body.run refuses n aborted s).2 = .ok o := by
  induction body generalizing n s aborted with
  | commit => exact ⟨_, rfl⟩
  | rollback e => exact h.elim
  | read k ih =>
      rw [run]
      split
      · exact ih none (h none) (n + 1) s true
      · exact ih (some s) (h (some s)) (n + 1) s false
  | exec statement k ih =>
      rw [run]
      split
      · exact ih false (h false) (n + 1) s true
      next t _ => exact ih true (h true) (n + 1) t false

theorem noRollback_commit : (commit : Body σ ε).NoRollback := trivial

theorem noRollback_execAll {rest : Body σ ε} (h : rest.NoRollback)
    (statements : List (σ → Option σ)) : (execAll statements rest).NoRollback := by
  induction statements with
  | nil => exact h
  | cons statement statements ih => exact fun _ => ih

theorem commits_execAll {rest : Body σ ε} {statements : List (σ → Option σ)} :
    (execAll statements rest).Commits refuses n s s' ↔
      Unrefused refuses n statements.length ∧
      ∃ t, statements.foldlM (fun s statement => statement s) s = some t ∧
        rest.Commits refuses (n + statements.length) t s' := by
  induction statements generalizing n s with
  | nil => simp [execAll]
  | cons statement statements ih =>
      have hlength : n + (statements.length + 1) = n + 1 + statements.length := by omega
      rw [execAll, Commits, List.length_cons, hlength, unrefused_cons, List.foldlM_cons]
      simp only [ih, Option.bind_eq_bind, Option.bind_eq_some_iff]
      constructor
      · rintro ⟨hran, t, ht, hrest, u, hu, hcommits⟩
        exact ⟨⟨hran, hrest⟩, u, ⟨t, ht, hu⟩, hcommits⟩
      · rintro ⟨⟨hran, hrest⟩, u, ⟨t, ht, hu⟩, hcommits⟩
        exact ⟨hran, t, ht, hrest, u, hu, hcommits⟩

theorem commits_checked {e : ε} {statement : σ → Option σ} {next : Body σ ε} :
    (checked e statement next).Commits refuses n s s' ↔
      refuses n = false ∧ ∃ t, statement s = some t ∧ next.Commits refuses (n + 1) t s' := Iff.rfl

/-- The transaction is not given up, and `o` is committed, or nothing. -/
def Settles (refuses : Nat → Bool) (body : Body σ ε) (n : Nat) (s : σ) (o : Option σ) : Prop :=
  (body.run refuses n false s).2 = .ok o

theorem settles_some {body : Body σ ε} :
    body.Settles refuses n s (some s') ↔ body.Commits refuses n s s' := run_eq_commit_iff

theorem settles_none {body : Body σ ε} (h : body.NoRollback) :
    body.Settles refuses n s none ↔ ∀ s', ¬ body.Commits refuses n s s' := by
  obtain ⟨o, ho⟩ := run_of_noRollback h refuses n s false
  constructor
  · intro hnone s' hcommits
    have hsome := settles_some.mpr hcommits
    rw [Settles] at hnone hsome
    rw [hnone] at hsome
    cases hsome
  · intro hno
    cases o with
    | none => exact ho
    | some s' => exact absurd (settles_some.mp ho) (hno s')

/-- A body that commits one store, where `P` holds, and otherwise nothing. -/
theorem settles_iff {body : Body σ ε} (h : body.NoRollback) {P : Prop} {t : σ} {o : Option σ}
    (hcommits : ∀ s', body.Commits refuses n s s' ↔ P ∧ s' = t) :
    body.Settles refuses n s o ↔ P ∧ o = some t ∨ ¬ P ∧ o = none := by
  cases o with
  | none =>
      rw [settles_none h]
      simp [hcommits]
  | some s' =>
      rw [settles_some, hcommits]
      simp

theorem settles_checked {e : ε} {statement : σ → Option σ} {next : Body σ ε} {o : Option σ} :
    (checked e statement next).Settles refuses n s o ↔
      refuses n = false ∧ ∃ t, statement s = some t ∧ next.Settles refuses (n + 1) t o := by
  rw [Settles, checked, run, Bool.false_or]
  cases hstep : attempt (refuses n) statement s with
  | none =>
      refine iff_of_false (fun h => by cases h) ?_
      rintro ⟨hran, t, ht, -⟩
      rw [attempt_eq_some.mpr ⟨hran, ht⟩] at hstep
      cases hstep
  | some t =>
      obtain ⟨hran, ht⟩ := attempt_eq_some.mp hstep
      simp only [hran, ht, true_and, Option.some.injEq, exists_eq_left', if_true, Settles]

end

end Body

/-- Statements on one part of the store, one after the other. -/
theorem foldlM_part {τ α : Type} (part : σ → τ) (replace : σ → τ → σ)
    (hpart : ∀ s t, part (replace s t) = t)
    (hreplace : ∀ s t t', replace (replace s t) t' = replace s t')
    (hself : ∀ s, replace s (part s) = s) {f : τ → α → Option τ} {statement : α → σ → Option σ}
    (hstatement : ∀ a s, statement a s = (f (part s) a).map (replace s)) (as : List α) (s : σ) :
    (as.map statement).foldlM (fun s statement => statement s) s =
      (as.foldlM f (part s)).map (replace s) := by
  rw [List.foldlM_map]
  induction as generalizing s with
  | nil => simp [hself]
  | cons a as ih =>
      rw [List.foldlM_cons, List.foldlM_cons, hstatement]
      cases f (part s) a with
      | none => rfl
      | some t =>
          have hsame : replace (replace s t) = replace s := funext (hreplace s t)
          have hrest := ih (replace s t)
          rw [hpart, hsame] at hrest
          simpa using hrest

namespace Script

/-- The reply, and the store after it. -/
def run (refuses : Nat → Bool) : Script σ ε → Nat → σ → Option ε × σ
  | .reply e, _, s => (e, s)
  | .read k, n, s => (k (if refuses n then none else some s)).run refuses (n + 1) s
  | .exec statement k, n, s =>
      match attempt (refuses n) statement s with
      | none => (k false).run refuses (n + 1) s
      | some s' => (k true).run refuses (n + 1) s'
  | .transaction noBegin body k, n, s =>
      if refuses n then (some noBegin, s)
      else
        match body.run refuses (n + 1) false s with
        | (_, .error e) => (some e, s)
        | (m, .ok none) => (k false).run refuses m s
        | (m, .ok (some s')) => (k true).run refuses m s'

/-- A handler that always ends well once its transaction is not given up. -/
theorem run_transaction {refuses : Nat → Bool} {n : Nat} {s s' : σ} {e : ε} {body : Body σ ε} :
    (transaction e body fun _ => reply none).run refuses n s = (none, s') ↔
      refuses n = false ∧ (body.Settles refuses (n + 1) s (some s') ∨
        body.Settles refuses (n + 1) s none ∧ s' = s) := by
  rw [run]
  cases hran : refuses n with
  | true => simp
  | false =>
      unfold Body.Settles
      rcases body.run refuses (n + 1) false s with ⟨m, e' | _ | t⟩ <;>
        simp [run, eq_comm]

/-- Whatever is replied: the store is what was committed, or as it was. -/
theorem run_transaction_snd (refuses : Nat → Bool) (body : Body σ ε) (answer : Bool → Option ε)
    {n : Nat} {s s' : σ} {e : ε} :
    ((transaction e body fun committed => reply (answer committed)).run refuses n s).2 = s' ↔
      (refuses n = false ∧ body.Commits refuses (n + 1) s s') ∨
        (¬ (refuses n = false ∧ ∃ t, body.Commits refuses (n + 1) s t) ∧ s' = s) := by
  rw [run]
  cases hran : refuses n with
  | true => simp [eq_comm (a := s)]
  | false =>
      simp only [← Body.run_eq_commit_iff, true_and, Bool.false_eq_true, if_false]
      rcases body.run refuses (n + 1) false s with ⟨m, e' | _ | t⟩ <;>
        simp [run, eq_comm (b := s')]

/-- A statement whose error is the reply. -/
def checked (e : ε) (statement : σ → Option σ) (next : Script σ ε) : Script σ ε :=
  .exec statement fun done => if done then next else .reply (some e)

/-- One after the other; their errors are dropped. -/
def execAll : List (σ → Option σ) → Script σ ε → Script σ ε
  | [], rest => rest
  | statement :: statements, rest => .exec statement fun _ => execAll statements rest

/-- No error reply comes after a statement that took effect; `touched` says that there has
been one. -/
def Clean : Script σ ε → Bool → Prop
  | .reply e, touched => touched = true → e = none
  | .read k, touched => ∀ o, (k o).Clean touched
  | .exec _ k, touched => (k false).Clean touched ∧ (k true).Clean true
  | .transaction _ _ k, touched =>
      touched = false ∧ (k false).Clean touched ∧ (k true).Clean true

theorem run_of_clean {refuses : Nat → Bool} {script : Script σ ε} {touched : Bool} {n : Nat}
    {s s' : σ} {e : ε} (h : script.Clean touched) (hrun : script.run refuses n s = (some e, s')) :
    touched = false ∧ s' = s := by
  induction script generalizing touched n s with
  | reply e' =>
      obtain ⟨rfl, rfl⟩ := Prod.mk.inj hrun
      refine ⟨?_, rfl⟩
      rw [← Bool.not_eq_true]
      intro htouched
      cases h htouched
  | read k ih => exact ih _ (h _) hrun
  | exec statement k ih =>
      rw [run] at hrun
      split at hrun
      · exact ih false h.1 hrun
      · -- after a statement that took effect there is no error
        cases (ih true h.2 hrun).1
  | transaction noBegin body k ih =>
      obtain ⟨htouched, hfailed, hdone⟩ := h
      rw [run] at hrun
      split at hrun
      · exact ⟨htouched, (Prod.mk.inj hrun).2.symm⟩
      · split at hrun
        · exact ⟨htouched, (Prod.mk.inj hrun).2.symm⟩
        · exact ih false hfailed hrun
        · cases (ih true hdone hrun).1

/-! ### What is clean -/

@[simp] theorem clean_done {touched : Bool} : (reply none : Script σ ε).Clean touched :=
  fun _ => rfl

@[simp] theorem clean_error {e : ε} : (reply (some e) : Script σ ε).Clean false := by
  intro h
  cases h

@[simp] theorem clean_read {k : Option σ → Script σ ε} {touched : Bool} :
    (read k).Clean touched ↔ ∀ o, (k o).Clean touched := Iff.rfl

@[simp] theorem clean_ite {p : Prop} [Decidable p] {script rest : Script σ ε} {touched : Bool} :
    (if p then script else rest).Clean touched ↔
      (p → script.Clean touched) ∧ (¬ p → rest.Clean touched) := by
  by_cases h : p <;> simp [h]

@[simp] theorem clean_checked {e : ε} {statement : σ → Option σ} {next : Script σ ε} :
    (checked e statement next).Clean false ↔ next.Clean true := by
  simp [checked, Clean]

@[simp] theorem clean_transaction {e : ε} {body : Body σ ε} {k : Bool → Script σ ε} :
    (transaction e body k).Clean false ↔ (k false).Clean false ∧ (k true).Clean true := by
  simp [Clean]

theorem clean_execAll {rest : Script σ ε} (h : ∀ touched, rest.Clean touched) :
    ∀ (statements : List (σ → Option σ)) (touched : Bool),
      (execAll statements rest).Clean touched
  | [], touched => h touched
  | _ :: statements, touched =>
      ⟨clean_execAll h statements touched, clean_execAll h statements true⟩

/-! ## Scripts that are not clean

A script may begin at a store other than the one the request found. -/

/-- Whenever the reply is an error, the store is `s₀` again. -/
def ErrorLeaves (refuses : Nat → Bool) (s₀ : σ) (script : Script σ ε) (n : Nat) (s : σ) : Prop :=
  ∀ e s', script.run refuses n s = (some e, s') → s' = s₀

section ErrorLeaves

variable {refuses : Nat → Bool} {s₀ s : σ} {n : Nat}

theorem errorLeaves_of_clean {script : Script σ ε} (h : script.Clean false) :
    ErrorLeaves refuses s script n s := fun _ _ hrun => (run_of_clean h hrun).2

@[simp] theorem errorLeaves_done : ErrorLeaves refuses s₀ (reply none : Script σ ε) n s := by
  intro e s' hrun
  cases hrun

@[simp] theorem errorLeaves_error {e : ε} :
    ErrorLeaves refuses s₀ (reply (some e)) n s ↔ s = s₀ := by
  constructor
  · intro h
    exact h e s rfl
  · rintro rfl e' s' hrun
    exact (Prod.mk.inj hrun).2.symm

@[simp] theorem errorLeaves_read {k : Option σ → Script σ ε} :
    ErrorLeaves refuses s₀ (read k) n s ↔
      ErrorLeaves refuses s₀ (k (if refuses n then none else some s)) (n + 1) s := Iff.rfl

@[simp] theorem errorLeaves_ite {p : Prop} [Decidable p] {script rest : Script σ ε} :
    ErrorLeaves refuses s₀ (if p then script else rest) n s ↔
      (p → ErrorLeaves refuses s₀ script n s) ∧ (¬ p → ErrorLeaves refuses s₀ rest n s) := by
  by_cases h : p <;> simp [h]

@[simp] theorem errorLeaves_checked {e : ε} {statement : σ → Option σ} {next : Script σ ε} :
    ErrorLeaves refuses s₀ (checked e statement next) n s ↔
      (refuses n = true ∨ statement s = none → s = s₀) ∧
      (refuses n = false → ∀ s', statement s = some s' →
        ErrorLeaves refuses s₀ next (n + 1) s') := by
  have hrun : (checked e statement next).run refuses n s =
      match attempt (refuses n) statement s with
      | none => (some e, s)
      | some s' => next.run refuses (n + 1) s' := by
    rw [checked, run]
    cases attempt (refuses n) statement s <;> rfl
  unfold ErrorLeaves
  rw [hrun, ← attempt_eq_none]
  cases hstep : attempt (refuses n) statement s with
  | none =>
      constructor
      · intro h
        refine ⟨fun _ => h e s rfl, fun hran s' hs' => ?_⟩
        rw [attempt_eq_some.mpr ⟨hran, hs'⟩] at hstep
        cases hstep
      · rintro ⟨h, -⟩ e' s' hrun
        rw [← h rfl, (Prod.mk.inj hrun).2]
  | some s' =>
      obtain ⟨hran, hs'⟩ := attempt_eq_some.mp hstep
      constructor
      · intro h
        refine ⟨?_, fun _ s'' hs'' => ?_⟩
        · rintro ⟨⟩
        · rw [hs'] at hs''
          cases hs''
          exact h
      · rintro ⟨-, h⟩
        exact h hran s' hs'

end ErrorLeaves

/-! ## Statements whose errors are dropped -/

/-- The store after them; the first one is the n-th of the script. -/
def afterAll (refuses : Nat → Bool) : Nat → List (σ → Option σ) → σ → σ
  | _, [], s => s
  | n, statement :: statements, s =>
      afterAll refuses (n + 1) statements ((attempt (refuses n) statement s).getD s)

theorem run_execAll {refuses : Nat → Bool} {rest : Script σ ε} :
    ∀ {statements : List (σ → Option σ)} {n : Nat} {s : σ},
      (execAll statements rest).run refuses n s =
        rest.run refuses (n + statements.length) (afterAll refuses n statements s)
  | [], _, _ => rfl
  | statement :: statements, n, s => by
      have hlength : n + (statement :: statements).length = n + 1 + statements.length := by
        rw [List.length_cons]
        omega
      rw [hlength, execAll, run, afterAll]
      cases attempt (refuses n) statement s with
      | none => exact run_execAll
      | some s' => exact run_execAll

theorem errorLeaves_execAll {refuses : Nat → Bool} {s₀ s : σ} {n : Nat} {rest : Script σ ε}
    {statements : List (σ → Option σ)} :
    ErrorLeaves refuses s₀ (execAll statements rest) n s ↔
      ErrorLeaves refuses s₀ rest (n + statements.length) (afterAll refuses n statements s) := by
  simp only [ErrorLeaves, run_execAll]

/-- If it is carried out, nothing changes. -/
def Idle (statement : σ → Option σ) (s : σ) : Prop := ∀ s', statement s = some s' → s' = s

/-- A statement that changes something makes the store smaller. -/
def Shrinks (size : σ → Nat) (statement : σ → Option σ) : Prop :=
  ∀ s s', statement s = some s' → s' = s ∨ size s' < size s

theorem idle_of_eq {statement : σ → Option σ} {s : σ} (h : statement s = some s) :
    Idle statement s := by
  intro s' hs'
  rw [h] at hs'
  exact (Option.some.inj hs').symm

theorem forall_getElem?_cons {α : Type} {p : Nat → α → Prop} {a : α} {as : List α} :
    (∀ i b, (a :: as)[i]? = some b → p i b) ↔
      p 0 a ∧ ∀ i b, as[i]? = some b → p (i + 1) b := by
  constructor
  · intro h
    exact ⟨h 0 a rfl, fun i b hb => h (i + 1) b hb⟩
  · rintro ⟨hzero, hsucc⟩ (_ | i) b hb
    · rw [List.getElem?_cons_zero] at hb
      rwa [← Option.some.inj hb]
    · exact hsucc i b hb

theorem afterAll_cases {size : σ → Nat} (refuses : Nat → Bool) :
    ∀ {statements : List (σ → Option σ)} (n : Nat) (s : σ),
      (∀ statement ∈ statements, Shrinks size statement) →
      afterAll refuses n statements s = s ∨ size (afterAll refuses n statements s) < size s
  | [], _, _, _ => Or.inl rfl
  | statement :: statements, n, s, h => by
      obtain ⟨hfirst, hrest⟩ := List.forall_mem_cons.mp h
      rw [afterAll]
      cases hstep : attempt (refuses n) statement s with
      | none => exact afterAll_cases refuses (n + 1) s hrest
      | some s' =>
          rw [Option.getD_some]
          rcases hfirst s s' (attempt_eq_some.mp hstep).2 with rfl | hlt
          · exact afterAll_cases refuses (n + 1) _ hrest
          · right
            rcases afterAll_cases refuses (n + 1) s' hrest with heq | hlt'
            · rwa [heq]
            · exact Nat.lt_trans hlt' hlt

/-- Nothing that was removed comes back. -/
theorem afterAll_eq_iff {size : σ → Nat} (refuses : Nat → Bool) :
    ∀ {statements : List (σ → Option σ)} (n : Nat) (s : σ),
      (∀ statement ∈ statements, Shrinks size statement) →
      (afterAll refuses n statements s = s ↔
        ∀ i statement, statements[i]? = some statement → refuses (n + i) = false →
          Idle statement s)
  | [], n, s, _ => by simp [afterAll]
  | statement :: statements, n, s, h => by
      obtain ⟨hfirst, hrest⟩ := List.forall_mem_cons.mp h
      have ih : ∀ s', afterAll refuses (n + 1) statements s' = s' ↔
          ∀ i statement, statements[i]? = some statement → refuses (n + (i + 1)) = false →
            Idle statement s' := by
        intro s'
        rw [afterAll_eq_iff refuses (n + 1) s' hrest]
        exact forall_congr' fun i => by rw [Nat.add_right_comm n 1 i, Nat.add_assoc]
      rw [afterAll, forall_getElem?_cons, Nat.add_zero]
      cases hstep : attempt (refuses n) statement s with
      | none =>
          have hidle : refuses n = false → Idle statement s := by
            intro hran s' hs'
            rw [attempt_eq_some.mpr ⟨hran, hs'⟩] at hstep
            cases hstep
          rw [Option.getD_none, ih]
          exact ⟨fun hall => ⟨hidle, hall⟩, And.right⟩
      | some s' =>
          obtain ⟨hran, hs'⟩ := attempt_eq_some.mp hstep
          rw [Option.getD_some]
          rcases hfirst s s' hs' with rfl | hlt
          · rw [ih]
            exact ⟨fun hall => ⟨fun _ => idle_of_eq hs', hall⟩, And.right⟩
          · -- the store has become smaller, and stays so
            constructor
            · intro heq
              rcases afterAll_cases refuses (n + 1) s' hrest with hend | hend
              · rw [heq] at hend
                rw [hend] at hlt
                exact absurd hlt (Nat.lt_irrefl _)
              · rw [heq] at hend
                exact absurd (Nat.lt_trans hlt hend) (Nat.lt_irrefl _)
            · rintro ⟨hidle, -⟩
              rw [hidle hran s' hs'] at hlt
              exact absurd hlt (Nat.lt_irrefl _)

end Script

end ZeroTrust.Lib
