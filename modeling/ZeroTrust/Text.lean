/-
# `ZeroTrust.Text` — the string functions the services call

Rust's `str::trim`, `str::to_lowercase`, `str::eq_ignore_ascii_case`,
`str::strip_prefix` and `str::splitn`, and Go's `strings.TrimSpace` and
`strings.ToLower`, on Lean strings (both languages' strings are sequences of
Unicode scalar values wherever the services use these functions; Go's
`strings.Split` at one character is `List.splitOn`).

White space is the Unicode property `White_Space`, the same twenty-five
characters for `char::is_whitespace` and `unicode.IsSpace`.  Lower-casing needs
the Unicode character database; its tables are the fields of `UnicodeData`,
and the two algorithms (Rust's with the final-sigma rule, Go's rune by rune)
are defined over them.  Only the ASCII rows of the tables are fixed, as fields
of the structure.
-/
import Mathlib.Data.List.DropRight
import Mathlib.Tactic.Common

namespace ZeroTrust

/-! ## White space -/

/-- `char::is_whitespace`, `unicode.IsSpace`. -/
def isWhitespace (c : Char) : Bool :=
  let n := c.toNat
  (9 ≤ n && n ≤ 13) || n = 0x20 || n = 0x85 || n = 0xA0 || n = 0x1680 ||
    (0x2000 ≤ n && n ≤ 0x200A) || n = 0x2028 || n = 0x2029 || n = 0x202F || n = 0x205F ||
    n = 0x3000

/-- `str::trim`, `strings.TrimSpace`. -/
def trim (s : String) : String :=
  String.ofList ((s.toList.dropWhile isWhitespace).rdropWhile isWhitespace)

theorem trim_eq_self {s : String} (h : ∀ c ∈ s.toList, isWhitespace c = false) : trim s = s := by
  have hdrop : s.toList.dropWhile isWhitespace = s.toList := by
    cases hs : s.toList with
    | nil => rfl
    | cons c cs =>
        have hc : isWhitespace c = false := h c (hs ▸ List.mem_cons_self)
        simp [hc]
  have hrdrop : s.toList.rdropWhile isWhitespace = s.toList := by
    rw [List.rdropWhile_eq_self_iff]
    intro hne
    rw [h _ (List.getLast_mem hne)]
    exact Bool.false_ne_true
  rw [trim, hdrop, hrdrop, String.ofList_toList]

/-- `str::strip_prefix(p).unwrap_or(self)`. -/
def dropLeading (p s : String) : String :=
  if p.toList <+: s.toList then String.ofList (s.toList.drop p.toList.length) else s

/-- `str::strip_suffix(p).unwrap_or(self)`. -/
def dropTrailing (p s : String) : String :=
  if p.toList <:+ s.toList then
    String.ofList (s.toList.take (s.toList.length - p.toList.length))
  else s

/-- `str::strip_prefix`. -/
def stripLeading (p s : String) : Option String :=
  if p.toList <+: s.toList then some (String.ofList (s.toList.drop p.toList.length)) else none

/-! ## Splitting -/

/-- What stands before and after the first `c` (`str::find` and the two slices around it). -/
def cut (c : Char) : List Char → Option (List Char × List Char)
  | [] => none
  | d :: ds => if d = c then some ([], ds) else (cut c ds).map fun p => (d :: p.1, p.2)

/-- `str::splitn`: at most `n` pieces, the last one unsplit. -/
def splitn (c : Char) : Nat → List Char → List (List Char)
  | 0, _ => []
  | 1, s => [s]
  | n + 2, s =>
      match cut c s with
      | some (a, b) => a :: splitn c (n + 1) b
      | none => [s]

theorem cut_append {c : Char} : ∀ {a b : List Char}, c ∉ a → cut c (a ++ c :: b) = some (a, b)
  | [], b, _ => by simp [cut]
  | d :: a, b, h => by
      rw [List.mem_cons, not_or] at h
      have hne : d ≠ c := fun heq => h.1 heq.symm
      simp [cut, hne, cut_append h.2]

theorem cut_eq_none {c : Char} : ∀ {s : List Char}, c ∉ s → cut c s = none
  | [], _ => rfl
  | d :: s, h => by
      rw [List.mem_cons, not_or] at h
      have hne : d ≠ c := fun heq => h.1 heq.symm
      simp [cut, hne, cut_eq_none h.2]

/-- A string is cut at its first `c`, or has none. -/
theorem cut_cases (c : Char) (s : List Char) :
    (c ∉ s ∧ cut c s = none) ∨ ∃ a b, s = a ++ c :: b ∧ c ∉ a ∧ cut c s = some (a, b) := by
  by_cases hmem : c ∈ s
  · obtain ⟨a, b, rfl, ha⟩ := List.eq_append_cons_of_mem hmem
    exact Or.inr ⟨a, b, rfl, ha, cut_append ha⟩
  · exact Or.inl ⟨hmem, cut_eq_none hmem⟩

/-! ## Lower case -/

/-- The tables of the Unicode character database that lower-casing reads. -/
structure UnicodeData where
  /-- The full lower-case mapping of one character (`char::to_lowercase`). -/
  lower : Char → List Char
  /-- The simple lower-case mapping (`unicode.ToLower`). -/
  simpleLower : Char → Char
  cased : Char → Bool
  caseIgnorable : Char → Bool
  lower_ascii : ∀ c, c.toNat < 128 → lower c = [c.toLower]
  simpleLower_ascii : ∀ c, c.toNat < 128 → simpleLower c = c.toLower

namespace UnicodeData

variable (u : UnicodeData)

/-- The first character that is not case-ignorable is a cased one. -/
def ignorableThenCased (cs : List Char) : Bool :=
  match cs.dropWhile u.caseIgnorable with
  | c :: _ => u.cased c
  | [] => false

/-- `str::to_lowercase` on a list of characters; `before` is what precedes, in
reverse.  A capital sigma at the end of a word is `ς`, any other is `σ`. -/
def lowerChars : List Char → List Char → List Char
  | _, [] => []
  | before, c :: after =>
      (if c = 'Σ' then
        if u.ignorableThenCased before && !u.ignorableThenCased after then ['ς'] else ['σ']
      else u.lower c) ++ lowerChars (c :: before) after

/-- Rust's `str::to_lowercase`. -/
def toLowercase (s : String) : String := String.ofList (u.lowerChars [] s.toList)

/-- Go's `strings.ToLower`. -/
def stringsToLower (s : String) : String := String.ofList (s.toList.map u.simpleLower)

theorem lowerChars_ascii : ∀ (before cs : List Char), (∀ c ∈ cs, c.toNat < 128) →
    u.lowerChars before cs = cs.map Char.toLower
  | _, [], _ => rfl
  | before, c :: cs, h => by
      have hc : c.toNat < 128 := h c List.mem_cons_self
      have hsigma : c ≠ 'Σ' := by
        rintro rfl
        exact absurd hc (by decide)
      have hrest := lowerChars_ascii (c :: before) cs fun d hd => h d (List.mem_cons_of_mem _ hd)
      simp only [lowerChars, if_neg hsigma, u.lower_ascii c hc, hrest, List.map_cons,
        List.singleton_append]

theorem toLowercase_ascii {s : String} (h : ∀ c ∈ s.toList, c.toNat < 128) :
    u.toLowercase s = String.ofList (s.toList.map Char.toLower) := by
  rw [toLowercase, u.lowerChars_ascii [] s.toList h]

end UnicodeData

/-- `str::eq_ignore_ascii_case`. -/
def eqIgnoreAsciiCase (s t : String) : Bool :=
  s.toList.map Char.toLower = t.toList.map Char.toLower

/-- Only ASCII characters, none of them upper case: how keywords are written. -/
def LowerAscii (s : String) : Prop := ∀ c ∈ s.toList, c.toNat < 128 ∧ c.toLower = c

instance (s : String) : Decidable (LowerAscii s) :=
  decidable_of_iff (s.toList.all fun c => c.toNat < 128 && c.toLower = c)
    (by simp [LowerAscii])

theorem ascii_of_toLower {c : Char} (h : c.toLower.toNat < 128) : c.toNat < 128 := by
  unfold Char.toLower at h
  split at h
  next hupper =>
    have hle : c.toNat ≤ 90 := by
      simpa [UInt32.le_iff_toNat_le] using hupper.2
    exact hle.trans_lt (by decide)
  · exact h

/-- Lower-casing a spelling of a keyword gives the keyword. -/
theorem UnicodeData.toLowercase_spelling (u : UnicodeData) {s keyword : String}
    (hkeyword : LowerAscii keyword) (h : eqIgnoreAsciiCase s keyword = true) :
    u.toLowercase s = keyword := by
  have hlower : keyword.toList.map Char.toLower = keyword.toList := by
    rw [List.map_congr_left fun c hc => (hkeyword c hc).2, List.map_id']
  have hchars : s.toList.map Char.toLower = keyword.toList := by
    simpa [eqIgnoreAsciiCase, hlower] using h
  have hascii : ∀ c ∈ s.toList, c.toNat < 128 := by
    intro c hc
    refine ascii_of_toLower (hkeyword _ ?_).1
    exact hchars ▸ List.mem_map_of_mem hc
  rw [u.toLowercase_ascii hascii, hchars, String.ofList_toList]

/-- A database with the ASCII rows only. -/
def UnicodeData.ascii : UnicodeData where
  lower c := [c.toLower]
  simpleLower c := c.toLower
  cased c := c.isAlpha
  caseIgnorable _ := false
  lower_ascii _ _ := rfl
  simpleLower_ascii _ _ := rfl

end ZeroTrust
