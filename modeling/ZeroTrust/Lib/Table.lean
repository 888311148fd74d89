/-
# `ZeroTrust.Lib.Table` — tables with a primary key

A table is a list of rows no two of which have the same key; the list order is
the order in which the store enumerates them.  `get` is the lookup by key; the
statements that write are

    put       INSERT … ON CONFLICT (key) DO UPDATE
    insert    INSERT, which fails if the key is taken
    update    UPDATE, row by row, of columns that are not the key
    filter    DELETE of the other rows

and each has a lemma that says what `get` finds after it (`get_put` and so on).

A map whose values do not hold their key is an `AList`; the last section says what its
`lookup` finds after an insertion or an erasure.
-/
import Mathlib.Data.List.AList
import Mathlib.Data.List.Nodup
import Mathlib.Tactic.Common

namespace ZeroTrust.Lib

/-- Keys stay distinct when a row with a fresh one is added at the end. -/
theorem nodup_keys_append {ρ κ : Type} {key : ρ → κ} {rows : List ρ} {r : ρ}
    (h : (rows.map key).Nodup) (hfresh : key r ∉ rows.map key) :
    ((rows ++ [r]).map key).Nodup := by
  rw [List.map_append, List.map_singleton]
  exact List.Nodup.append h (List.nodup_singleton _) (List.disjoint_singleton.mpr hfresh)

structure Table {ρ κ : Type} (key : ρ → κ) where
  rows : List ρ
  keys_nodup : (rows.map key).Nodup

namespace Table

variable {ρ κ : Type} {key : ρ → κ}

def empty : Table key := ⟨[], List.nodup_nil⟩

instance : EmptyCollection (Table key) := ⟨empty⟩

def single (r : ρ) : Table key := ⟨[r], List.nodup_singleton _⟩

theorem ext_rows : ∀ {t t' : Table key}, t.rows = t'.rows → t = t'
  | ⟨_, _⟩, ⟨_, _⟩, rfl => rfl

variable [DecidableEq κ]

def get (t : Table key) (k : κ) : Option ρ := t.rows.find? fun r => key r = k

theorem get_eq_none {t : Table key} {k : κ} : t.get k = none ↔ ∀ r ∈ t.rows, key r ≠ k := by
  simp [get]

theorem mem_of_get {t : Table key} {k : κ} {r : ρ} (h : t.get k = some r) :
    r ∈ t.rows ∧ key r = k := by
  refine ⟨List.mem_of_find?_eq_some h, ?_⟩
  exact of_decide_eq_true (List.find?_some (p := fun r => decide (key r = k)) h)

theorem get_of_mem {t : Table key} {r : ρ} (hr : r ∈ t.rows) : t.get (key r) = some r := by
  cases hget : t.get (key r) with
  | none => exact absurd rfl (get_eq_none.mp hget r hr)
  | some found =>
      obtain ⟨hfound, hkey⟩ := mem_of_get hget
      rw [List.inj_on_of_nodup_map t.keys_nodup hfound hr hkey]

/-- A row is found under its key, and only there. -/
theorem get_eq_some {t : Table key} {k : κ} {r : ρ} :
    t.get k = some r ↔ r ∈ t.rows ∧ key r = k :=
  ⟨mem_of_get, fun ⟨hr, hkey⟩ => hkey ▸ get_of_mem hr⟩

/-- The rows with the one of `r`'s key replaced by `r`. -/
def replaceRow (key : ρ → κ) (r : ρ) (rows : List ρ) : List ρ :=
  rows.map fun old => if key old = key r then r else old

theorem keys_replaceRow (r : ρ) (rows : List ρ) :
    (replaceRow key r rows).map key = rows.map key := by
  unfold replaceRow
  rw [List.map_map]
  refine List.map_congr_left fun old _ => ?_
  by_cases h : key old = key r <;> simp [h]

def put (t : Table key) (r : ρ) : Table key :=
  if h : t.get (key r) = none then
    { rows := t.rows ++ [r]
      keys_nodup := by
        have hfresh : key r ∉ t.rows.map key := by
          rintro hmem
          obtain ⟨old, hold, hkey⟩ := List.mem_map.mp hmem
          exact get_eq_none.mp h old hold hkey
        exact nodup_keys_append t.keys_nodup hfresh }
  else
    { rows := replaceRow key r t.rows
      keys_nodup := by
        rw [keys_replaceRow]
        exact t.keys_nodup }

theorem rows_put_of_free {t : Table key} {r : ρ} (h : t.get (key r) = none) :
    (t.put r).rows = t.rows ++ [r] := by
  rw [put, dif_pos h]

theorem mem_rows_put {t : Table key} {r x : ρ} :
    x ∈ (t.put r).rows ↔ x = r ∨ (x ∈ t.rows ∧ key x ≠ key r) := by
  unfold put
  split
  next h =>
    have hfresh := get_eq_none.mp h
    simp only [List.mem_append, List.mem_singleton]
    constructor
    · rintro (hx | rfl)
      · exact Or.inr ⟨hx, hfresh x hx⟩
      · exact Or.inl rfl
    · rintro (rfl | ⟨hx, -⟩)
      · exact Or.inr rfl
      · exact Or.inl hx
  next h =>
    obtain ⟨old, hold⟩ := Option.ne_none_iff_exists'.mp h
    obtain ⟨hmem, hkey⟩ := get_eq_some.mp hold
    simp only [replaceRow, List.mem_map]
    constructor
    · rintro ⟨y, hy, rfl⟩
      by_cases hyr : key y = key r
      · exact Or.inl (if_pos hyr)
      · exact Or.inr (by rw [if_neg hyr]; exact ⟨hy, hyr⟩)
    · rintro (rfl | ⟨hx, hne⟩)
      · exact ⟨old, hmem, if_pos hkey⟩
      · exact ⟨x, hx, if_neg hne⟩

/-! Where the whole row is the key. -/

theorem get_id_eq_none [DecidableEq ρ] {t : Table (id : ρ → ρ)} {r : ρ} :
    t.get (id r) = none ↔ r ∉ t.rows := by
  rw [get_eq_none]
  constructor
  · intro h hr
    exact h r hr rfl
  · rintro h x hx rfl
    exact h hx

theorem mem_rows_put_id [DecidableEq ρ] {t : Table (id : ρ → ρ)} {r x : ρ} :
    x ∈ (t.put r).rows ↔ x = r ∨ x ∈ t.rows := by
  rw [mem_rows_put, id, id]
  by_cases heq : x = r <;> simp [heq]

theorem get_put (t : Table key) (r : ρ) (k : κ) :
    (t.put r).get k = if k = key r then some r else t.get k := by
  split
  next h => exact get_eq_some.mpr ⟨mem_rows_put.mpr (Or.inl rfl), h.symm⟩
  next h =>
    refine Option.ext fun x => ?_
    rw [get_eq_some, get_eq_some, mem_rows_put]
    constructor
    · rintro ⟨rfl | ⟨hx, -⟩, hk⟩
      · exact absurd hk.symm h
      · exact ⟨hx, hk⟩
    · rintro ⟨hx, rfl⟩
      exact ⟨Or.inr ⟨hx, h⟩, rfl⟩

/-- `none` if the key is taken. -/
def insert (t : Table key) (r : ρ) : Option (Table key) :=
  if t.get (key r) = none then some (t.put r) else none

theorem insert_eq_some {t t' : Table key} {r : ρ} (h : t.insert r = some t') :
    t.get (key r) = none ∧ t' = t.put r := by
  unfold insert at h
  split at h
  next hfree => exact ⟨hfree, (Option.some.inj h).symm⟩
  · cases h

theorem insert_isSome {t : Table key} {r : ρ} : t.insert r ≠ none ↔ t.get (key r) = none := by
  unfold insert
  split <;> simp_all

/-- Rows inserted one after the other: their keys are free and distinct. -/
theorem foldlM_insert {rows : List ρ} {t t' : Table key} :
    rows.foldlM insert t = some t' ↔
      (rows.map key).Nodup ∧ (∀ r ∈ rows, t.get (key r) = none) ∧ t' = rows.foldl put t := by
  induction rows generalizing t with
  | nil => simp [eq_comm]
  | cons r rows ih =>
      rw [List.foldlM_cons, List.map_cons, List.nodup_cons, List.forall_mem_cons, List.foldl_cons]
      have hfresh : (∀ x ∈ rows, (t.put r).get (key x) = none) ↔
          key r ∉ rows.map key ∧ ∀ x ∈ rows, t.get (key x) = none := by
        simp only [get_put, List.mem_map, not_exists, not_and]
        constructor
        · intro h
          refine ⟨fun x hx heq => ?_, fun x hx => ?_⟩
          · have hnone := h x hx
            rw [if_pos heq] at hnone
            cases hnone
          · have hnone := h x hx
            split at hnone
            · cases hnone
            · exact hnone
        · rintro ⟨hne, h⟩ x hx
          rw [if_neg (hne x hx)]
          exact h x hx
      by_cases hfree : t.get (key r) = none
      · have hinsert : t.insert r = some (t.put r) := if_pos hfree
        rw [hinsert, Option.bind_eq_bind, Option.bind_some, ih, hfresh]
        tauto
      · have hinsert : t.insert r = none := if_neg hfree
        rw [hinsert]
        simp [hfree]

theorem mem_rows_foldl_put_of_free {rows : List ρ} {t : Table key} (hnodup : (rows.map key).Nodup)
    (hfree : ∀ r ∈ rows, t.get (key r) = none) {x : ρ} :
    x ∈ (rows.foldl put t).rows ↔ x ∈ rows ∨ x ∈ t.rows := by
  induction rows generalizing t with
  | nil => simp
  | cons r rows ih =>
      obtain ⟨hr, hrows⟩ := List.forall_mem_cons.mp hfree
      obtain ⟨hnotMem, hnodup⟩ := List.nodup_cons.mp hnodup
      have hfree' : ∀ x ∈ rows, (t.put r).get (key x) = none := by
        intro x hx
        have hne : key x ≠ key r := fun heq => hnotMem (heq ▸ List.mem_map_of_mem hx)
        rw [get_put, if_neg hne]
        exact hrows x hx
      rw [List.foldl_cons, ih hnodup hfree', mem_rows_put, List.mem_cons]
      constructor
      · rintro (hx | rfl | ⟨hx, -⟩)
        · exact Or.inl (Or.inr hx)
        · exact Or.inl (Or.inl rfl)
        · exact Or.inr hx
      · rintro ((rfl | hx) | hx)
        · exact Or.inr (Or.inl rfl)
        · exact Or.inl hx
        · exact Or.inr (Or.inr ⟨hx, get_eq_none.mp hr x hx⟩)

omit [DecidableEq κ] in
theorem map_key_of_kept {f : ρ → ρ} (hf : ∀ r, key (f r) = key r) (rows : List ρ) :
    (rows.map f).map key = rows.map key := by
  rw [List.map_map]
  exact List.map_congr_left fun r _ => hf r

/-- Every row rewritten by a function that keeps its key. -/
def update (t : Table key) (f : ρ → ρ) (hf : ∀ r, key (f r) = key r) : Table key where
  rows := t.rows.map f
  keys_nodup := by
    rw [map_key_of_kept hf]
    exact t.keys_nodup

@[simp] theorem get_update (t : Table key) {f : ρ → ρ} (hf : ∀ r, key (f r) = key r) (k : κ) :
    (t.update f hf).get k = (t.get k).map f := by
  simp only [get, update, List.find?_map]
  congr 2
  funext r
  simp only [Function.comp_apply, hf]

/-- The rows that `p` keeps. -/
def filter (t : Table key) (p : ρ → Bool) : Table key where
  rows := t.rows.filter p
  keys_nodup := t.keys_nodup.sublist (List.filter_sublist.map key)

theorem get_filter (t : Table key) (p : ρ → Bool) (k : κ) :
    (t.filter p).get k = (t.get k).filter p := by
  refine Option.ext fun r => ?_
  rw [get_eq_some, Option.filter_eq_some_iff, get_eq_some]
  simp only [filter, List.mem_filter]
  exact and_right_comm

omit [DecidableEq κ] in
theorem filter_eq_self {t : Table key} {p : ρ → Bool} :
    t.filter p = t ↔ ∀ r ∈ t.rows, p r = true := by
  rw [← List.filter_eq_self]
  exact ⟨fun h => congrArg Table.rows h, fun h => ext_rows h⟩

omit [DecidableEq κ] in
/-- Rows do not come back by being deleted. -/
theorem length_filter_lt {t : Table key} {p : ρ → Bool} (h : ¬ ∀ r ∈ t.rows, p r = true) :
    (t.filter p).rows.length < t.rows.length := by
  push Not at h
  obtain ⟨r, hr, hp⟩ := h
  exact List.length_filter_lt_length_iff_exists.mpr ⟨r, hr, hp⟩

/-- `DELETE … WHERE key = k`. -/
theorem get_filter_ne (t : Table key) (k k' : κ) :
    (t.filter fun r => key r ≠ k).get k' = if k' = k then none else t.get k' := by
  rw [get_filter]
  cases hget : t.get k' with
  | none => simp
  | some r =>
      obtain ⟨-, rfl⟩ := mem_of_get hget
      by_cases hk : key r = k <;> simp [hk]

/-- A row written row after row under other keys. -/
theorem get_foldl_put_of_ne {k : κ} : ∀ (rows : List ρ) (t : Table key),
    (∀ r ∈ rows, key r ≠ k) → (rows.foldl put t).get k = t.get k
  | [], _, _ => rfl
  | r :: rows, t, h => by
      obtain ⟨hr, hrows⟩ := List.forall_mem_cons.mp h
      rw [List.foldl_cons, get_foldl_put_of_ne rows _ hrows, get_put, if_neg (Ne.symm hr)]

/-- Rows with distinct keys, written one after the other, are all found. -/
theorem get_foldl_put : ∀ (rows : List ρ) (t : Table key), (rows.map key).Nodup →
    ∀ r ∈ rows, (rows.foldl put t).get (key r) = some r
  | r :: rows, t, h, x, hx => by
      obtain ⟨hfresh, hrows⟩ := List.nodup_cons.mp h
      rcases List.mem_cons.mp hx with rfl | hx
      · have hne : ∀ r ∈ rows, key r ≠ key x := fun r hr heq =>
          hfresh (heq ▸ List.mem_map_of_mem hr)
        rw [List.foldl_cons, get_foldl_put_of_ne rows _ hne, get_put, if_pos rfl]
      · exact get_foldl_put rows _ hrows x hx

/-- Rows with distinct keys, written to an empty table. -/
theorem mem_rows_foldl_put {rows : List ρ} (h : (rows.map key).Nodup) {r : ρ} :
    r ∈ (rows.foldl put (∅ : Table key)).rows ↔ r ∈ rows := by
  constructor
  · intro hr
    by_contra hout
    have hget := get_of_mem hr
    by_cases hkey : ∃ x ∈ rows, key x = key r
    · obtain ⟨x, hx, hxr⟩ := hkey
      rw [← hxr, get_foldl_put rows ∅ h x hx, Option.some.injEq] at hget
      exact hout (hget ▸ hx)
    · push Not at hkey
      rw [get_foldl_put_of_ne rows ∅ hkey] at hget
      cases hget
  · intro hr
    exact (get_eq_some.mp (get_foldl_put rows ∅ h r hr)).1

end Table

section

variable {κ ρ : Type} [DecidableEq κ] {t : AList fun _ : κ => ρ} {k k' : κ} {r r' : ρ}

theorem lookup_insert_eq_some :
    (t.insert k r).lookup k' = some r' ↔ k' = k ∧ r' = r ∨ k' ≠ k ∧ t.lookup k' = some r' := by
  by_cases hk : k' = k
  · subst hk
    rw [AList.lookup_insert, Option.some.injEq]
    simp [eq_comm]
  · rw [AList.lookup_insert_ne hk]
    simp [hk]

theorem lookup_erase_eq_some :
    (t.erase k).lookup k' = some r ↔ k' ≠ k ∧ t.lookup k' = some r := by
  by_cases hk : k' = k
  · subst hk
    rw [AList.lookup_erase]
    simp
  · rw [AList.lookup_erase_ne hk]
    simp [hk]

end

end ZeroTrust.Lib
