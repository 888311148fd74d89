/-
# `ZeroTrust.Lib.Slice` — slices, and loops over the array behind them

A slice is the front of an array; behind it is room that `append` may write in.  The loops
here write to the array that they read, element by element:

    `updateAll`      `for i := range s { if p(s[i]) { s[i] = f(s[i]) } }`
    `updateFirst`    the same, and out of the loop after the first such element
    `filterInPlace`  `t := s[:0]; for _, a := range s { if p(a) { t = append(t, a) } }`

Each is the list function one expects (`toList_updateAll`, `toList_updateFirst`,
`toList_filterInPlace`): the last one has never written beyond what it has read.  An index out
of range, and an append that would leave the array, are `none`, and do not happen.

Nothing here names a particular program.
-/
import Mathlib.Data.List.Basic
import Mathlib.Tactic.Common

namespace ZeroTrust.Lib

structure Slice (α : Type) where
  backing : Array α
  len : Nat
  len_le : len ≤ backing.size

namespace Slice

variable {α : Type}

def toList (s : Slice α) : List α := s.backing.toList.take s.len

def empty : Slice α := ⟨#[], 0, Nat.le_refl 0⟩

/-- Without room left, the elements move to a new array, with `room` behind them. -/
def append [Inhabited α] (room : Nat → Nat) (s : Slice α) (a : α) : Slice α :=
  if h : s.len < s.backing.size then
    ⟨s.backing.set s.len a h, s.len + 1, by rw [Array.size_set]; exact h⟩
  else
    ⟨(s.toList ++ a :: List.replicate (room s.len) default).toArray, s.len + 1, by
      have hlength : s.toList.length = s.len := by
        rw [toList, List.length_take, Array.length_toList, Nat.min_eq_left s.len_le]
      simp [hlength]⟩

/-! ## The loops -/

def updateLoop (p : α → Bool) (f : α → α) : Nat → Array α → Nat → Option (Array α)
  | 0, backing, _ => some backing
  | k + 1, backing, i =>
      match backing[i]? with
      | none => none
      | some a =>
          updateLoop p f k (if p a then backing.setIfInBounds i (f a) else backing) (i + 1)

/-- `none` when the loop has ended without a write. -/
def updateFirstLoop (p : α → Bool) (f : α → α) (backing : Array α) :
    Nat → Nat → Option (Array α)
  | 0, _ => none
  | k + 1, i =>
      match backing[i]? with
      | none => none
      | some a =>
          if p a then some (backing.setIfInBounds i (f a))
          else updateFirstLoop p f backing k (i + 1)

/-- `i` elements are read and `j` of them kept. -/
def filterLoop (p : α → Bool) : Nat → Array α → Nat → Nat → Option (Array α × Nat)
  | 0, backing, _, j => some (backing, j)
  | k + 1, backing, i, j =>
      match backing[i]? with
      | none => none
      | some a =>
          if p a then
            if j < backing.size then
              filterLoop p k (backing.setIfInBounds j a) (i + 1) (j + 1)
            else none
          else filterLoop p k backing (i + 1) j

/-- The slice of the first `len` elements. -/
def upTo (backing : Array α) (len : Nat) : Option (Slice α) :=
  if h : len ≤ backing.size then some ⟨backing, len, h⟩ else none

def updateAll (p : α → Bool) (f : α → α) (s : Slice α) : Option (Slice α) :=
  (updateLoop p f s.len s.backing 0).bind fun backing => upTo backing s.len

def updateFirst (p : α → Bool) (f : α → α) (s : Slice α) : Option (Slice α) :=
  (updateFirstLoop p f s.backing s.len 0).bind fun backing => upTo backing s.len

def filterInPlace (p : α → Bool) (s : Slice α) : Option (Slice α) :=
  (filterLoop p s.len s.backing 0 0).bind fun written => upTo written.1 written.2

/-- The first element with `p`, changed, and the rest of the list as it is. -/
def updateFirstList (p : α → Bool) (f : α → α) : List α → Option (List α)
  | [] => none
  | a :: as => if p a then some (f a :: as) else (updateFirstList p f as).map (a :: ·)

/-! ## One element -/

section

variable {backing : Array α} {before after : List α} {a : α}

theorem getElem?_split (h : backing.toList = before ++ a :: after) :
    backing[before.length]? = some a := by
  rw [← Array.getElem?_toList, h, List.getElem?_append_right (Nat.le_refl _), Nat.sub_self]
  rfl

theorem setIfInBounds_split (h : backing.toList = before ++ a :: after) (b : α) :
    (backing.setIfInBounds before.length b).toList = before ++ b :: after := by
  rw [Array.toList_setIfInBounds, h, List.set_append_right _ _ (Nat.le_refl _), Nat.sub_self]
  rfl

end

theorem length_toList (s : Slice α) : s.toList.length = s.len := by
  rw [toList, List.length_take, Array.length_toList, Nat.min_eq_left s.len_le]

/-- The array is the slice and the room behind it. -/
theorem toList_backing (s : Slice α) : ∃ room, s.backing.toList = s.toList ++ room :=
  ⟨s.backing.toList.drop s.len, (List.take_append_drop _ _).symm⟩

theorem upTo_eq {backing : Array α} {as room : List α} (h : backing.toList = as ++ room) :
    ∃ s, upTo backing as.length = some s ∧ s.toList = as := by
  have hle : as.length ≤ backing.size := by
    rw [← Array.length_toList, h, List.length_append]
    exact Nat.le_add_right _ _
  refine ⟨⟨backing, as.length, hle⟩, dif_pos hle, ?_⟩
  rw [toList, h, List.take_left]

theorem toList_append [Inhabited α] (room : Nat → Nat) (s : Slice α) (a : α) :
    (s.append room a).toList = s.toList ++ [a] := by
  have hfront : ∀ rest, (s.toList ++ a :: rest).take (s.len + 1) = s.toList ++ [a] := by
    intro rest
    rw [← s.length_toList, List.take_length_add_append]
    rfl
  unfold append
  split
  next h =>
    rw [toList, Array.toList_set, List.set_eq_take_append_cons_drop,
      if_pos (by rwa [Array.length_toList])]
    exact hfront _
  next h => exact hfront _

/-! ## The loops as list functions -/

variable (p : α → Bool) (f : α → α)

/-- The elements in front of the index are done, the others as they were. -/
theorem updateLoop_eq {rest room : List α} : ∀ {b : Array α} {d : List α},
    b.toList = d ++ (rest ++ room) →
      ∃ b', updateLoop p f rest.length b d.length = some b' ∧
        b'.toList = d ++ (rest.map (fun a => if p a then f a else a) ++ room) := by
  induction rest with
  | nil =>
      intro b d h
      exact ⟨b, rfl, h⟩
  | cons a rest ih =>
      intro b d h
      rw [List.cons_append] at h
      have hone : (if p a then b.setIfInBounds d.length (f a) else b).toList =
          (d ++ [if p a then f a else a]) ++ (rest ++ room) := by
        split
        · rw [setIfInBounds_split h, List.append_assoc]
          rfl
        · rw [h, List.append_assoc]
          rfl
      obtain ⟨b', hloop, hlist⟩ := ih hone
      rw [List.length_append] at hloop
      refine ⟨b', ?_, ?_⟩
      · rw [List.length_cons, updateLoop, getElem?_split h]
        exact hloop
      · rw [hlist, List.append_assoc]
        rfl

theorem toList_updateAll (s : Slice α) :
    ∃ s', s.updateAll p f = some s' ∧
      s'.toList = s.toList.map fun a => if p a then f a else a := by
  obtain ⟨room, hroom⟩ := s.toList_backing
  obtain ⟨b', hloop, hlist⟩ := updateLoop_eq p f (d := []) hroom
  rw [List.nil_append] at hlist
  obtain ⟨s', hupTo, hs'⟩ := upTo_eq hlist
  rw [List.length_nil, s.length_toList] at hloop
  rw [List.length_map, s.length_toList] at hupTo
  refine ⟨s', ?_, hs'⟩
  rw [updateAll, hloop]
  exact hupTo

/-- No element in front of the index has `p`. -/
theorem updateFirstLoop_eq {rest room : List α} : ∀ {b : Array α} {d : List α},
    b.toList = d ++ (rest ++ room) →
      (updateFirstLoop p f b rest.length d.length).map Array.toList =
        (updateFirstList p f rest).map fun rest' => d ++ (rest' ++ room) := by
  induction rest with
  | nil =>
      intro b d h
      rfl
  | cons a rest ih =>
      intro b d h
      have hnext : b.toList = (d ++ [a]) ++ (rest ++ room) := by
        rw [h, List.append_assoc]
        rfl
      rw [List.cons_append] at h
      rw [List.length_cons, updateFirstLoop, getElem?_split h, updateFirstList]
      by_cases hp : p a = true
      · simp only [if_pos hp, Option.map_some, setIfInBounds_split h, List.cons_append]
      · have hrest := ih hnext
        rw [List.length_append] at hrest
        simp only [if_neg hp, Option.map_map]
        rw [List.length_singleton] at hrest
        rw [hrest]
        refine congrArg (fun g => (updateFirstList p f rest).map g) (funext fun rest' => ?_)
        simp

theorem length_updateFirstList {as as' : List α} (h : updateFirstList p f as = some as') :
    as'.length = as.length := by
  induction as generalizing as' with
  | nil => cases h
  | cons a as ih =>
      rw [updateFirstList] at h
      split at h
      · rw [← Option.some.inj h]
        rfl
      · obtain ⟨rest, hrest, rfl⟩ := Option.map_eq_some_iff.mp h
        rw [List.length_cons, List.length_cons, ih hrest]

theorem toList_updateFirst (s : Slice α) :
    (s.updateFirst p f).map toList = updateFirstList p f s.toList := by
  obtain ⟨room, hroom⟩ := s.toList_backing
  have hloop := updateFirstLoop_eq p f (d := []) hroom
  rw [List.length_nil, s.length_toList] at hloop
  rw [updateFirst]
  cases hfirst : updateFirstList p f s.toList with
  | none =>
      rw [hfirst, Option.map_none, Option.map_eq_none_iff] at hloop
      rw [hloop]
      rfl
  | some as =>
      rw [hfirst, Option.map_some] at hloop
      obtain ⟨b', hb', hlist⟩ := Option.map_eq_some_iff.mp hloop
      rw [List.nil_append] at hlist
      obtain ⟨s', hupTo, hs'⟩ := upTo_eq hlist
      rw [length_updateFirstList p f hfirst, s.length_toList] at hupTo
      rw [hb', Option.bind_some, hupTo, Option.map_some, hs']

/-- What is kept stands in front; the elements from the index on are as they were. -/
theorem filterLoop_eq {rest room : List α} : ∀ {b : Array α} {kept gap : List α},
    b.toList = kept ++ (gap ++ (rest ++ room)) →
      ∃ b' more, filterLoop p rest.length b (kept.length + gap.length) kept.length =
          some (b', (kept ++ rest.filter p).length) ∧
        b'.toList = kept ++ rest.filter p ++ more := by
  induction rest with
  | nil =>
      intro b kept gap h
      refine ⟨b, gap ++ room, ?_, ?_⟩
      · rw [List.filter_nil, List.append_nil]
        rfl
      · rw [List.filter_nil, List.append_nil, h]
        rfl
  | cons a rest ih =>
      intro b kept gap h
      have hread : b[kept.length + gap.length]? = some a := by
        have hsplit : b.toList = (kept ++ gap) ++ a :: (rest ++ room) := by
          rw [h, List.append_assoc]
          rfl
        rw [← List.length_append]
        exact getElem?_split hsplit
      rw [List.length_cons, filterLoop, hread]
      by_cases hp : p a = true
      · -- the element that is written over has been read
        obtain ⟨x, gap', hgap⟩ : ∃ x gap', gap ++ [a] = x :: gap' :=
          List.exists_cons_of_ne_nil (by simp)
        have hover : b.toList = kept ++ x :: (gap' ++ (rest ++ room)) := by
          rw [h, ← List.cons_append, ← hgap, List.append_assoc]
          rfl
        have hin : kept.length < b.size := by
          rw [← Array.length_toList, hover, List.length_append, List.length_cons]
          omega
        have hwritten : (b.setIfInBounds kept.length a).toList =
            (kept ++ [a]) ++ (gap' ++ (rest ++ room)) := by
          rw [setIfInBounds_split hover, List.append_assoc]
          rfl
        obtain ⟨b', more, hloop, hlist⟩ := ih hwritten
        have hlength : gap.length = gap'.length := by
          have hboth := congrArg List.length hgap
          simpa using hboth
        have hindex : (kept ++ [a]).length + gap'.length = kept.length + gap.length + 1 := by
          rw [List.length_append, List.length_singleton, hlength]
          omega
        have hfilter : kept ++ [a] ++ rest.filter p = kept ++ (a :: rest).filter p := by
          rw [List.filter_cons_of_pos hp, List.append_assoc]
          rfl
        rw [hindex, List.length_append, List.length_singleton, hfilter] at hloop
        simp only [if_pos hp, if_pos hin]
        exact ⟨b', more, hloop, hfilter ▸ hlist⟩
      · have hskip : b.toList = kept ++ ((gap ++ [a]) ++ (rest ++ room)) := by
          rw [h, List.append_assoc]
          rfl
        obtain ⟨b', more, hloop, hlist⟩ := ih hskip
        rw [List.length_append, List.length_singleton, ← Nat.add_assoc] at hloop
        simp only [if_neg hp, List.filter_cons_of_neg hp]
        exact ⟨b', more, hloop, hlist⟩

theorem toList_filterInPlace (s : Slice α) :
    ∃ s', s.filterInPlace p = some s' ∧ s'.toList = s.toList.filter p := by
  obtain ⟨room, hroom⟩ := s.toList_backing
  have hstart : s.backing.toList = [] ++ ([] ++ (s.toList ++ room)) := hroom
  obtain ⟨b', more, hloop, hlist⟩ := filterLoop_eq p hstart
  rw [List.nil_append] at hlist hloop
  obtain ⟨s', hupTo, hs'⟩ := upTo_eq hlist
  rw [List.length_nil, s.length_toList] at hloop
  refine ⟨s', ?_, hs'⟩
  rw [filterInPlace, hloop]
  exact hupTo

end Slice

end ZeroTrust.Lib
