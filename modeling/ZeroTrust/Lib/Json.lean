/-
# `ZeroTrust.Lib.Json` — JSON text, written by any escaper and read back

JSON libraries agree on the grammar and differ in which characters of a string
they escape.  `render esc` writes a value compactly (no blanks, members in
order) with the escaper `esc : Char → List Char` as a parameter; `parse` reads
the grammar of RFC 8259 with blanks, all escapes and surrogate pairs.

    Escapes esc  :  each `esc c` is read back as `c`
    parse_render :  Escapes esc → parse (render esc j) = some j

The last section compares two escapers that agree except on the characters of
`special`, where one writes `extra` characters more (`Lengthens`).  The two
texts of a value are then equal if and only if no string of it has a special
character (`render_eq_iff`).  The argument is a count: the texts' lengths
differ by `extra * specials special j`.  `escapeWith special` is the family of
escapers that libraries use; it is lawful, and two members of it compare so.
-/
import ZeroTrust.Lib.Hex

namespace ZeroTrust.Lib

/-- A JSON value.  `real` stands for every number literal that is not a plain
integer (a fraction, an exponent, `-0`): no integer type accepts one. -/
inductive Json where
  | null
  | bool (b : Bool)
  | num (n : Int)
  | real
  | str (s : String)
  | arr (xs : List Json)
  | obj (kvs : List (String × Json))

namespace Json

/-! ## Writing -/

def renderStr (esc : Char → List Char) (s : String) : List Char :=
  '"' :: (s.toList.flatMap esc ++ ['"'])

def renderInt : Int → List Char
  | .ofNat n => Nat.toDigits 10 n
  | .negSucc n => '-' :: Nat.toDigits 10 (n + 1)

mutual
/-- Compact output.  A `real` has lost its literal; `integral` excludes it. -/
def render (esc : Char → List Char) : Json → List Char
  | .null => ['n', 'u', 'l', 'l']
  | .bool true => ['t', 'r', 'u', 'e']
  | .bool false => ['f', 'a', 'l', 's', 'e']
  | .num n => renderInt n
  | .real => []
  | .str s => renderStr esc s
  | .arr [] => ['[', ']']
  | .arr (x :: xs) => '[' :: (render esc x ++ renderElems esc xs)
  | .obj [] => ['{', '}']
  | .obj ((k, v) :: kvs) =>
      '{' :: (renderStr esc k ++ ':' :: (render esc v ++ renderFields esc kvs))
/-- The rest of an array, after its first element. -/
def renderElems (esc : Char → List Char) : List Json → List Char
  | [] => [']']
  | x :: xs => ',' :: (render esc x ++ renderElems esc xs)
/-- The rest of an object, after its first member. -/
def renderFields (esc : Char → List Char) : List (String × Json) → List Char
  | [] => ['}']
  | (k, v) :: kvs =>
      ',' :: (renderStr esc k ++ ':' :: (render esc v ++ renderFields esc kvs))
end

mutual
/-- No number of the value is a `real`. -/
def integral : Json → Bool
  | .real => false
  | .arr xs => integralElems xs
  | .obj kvs => integralFields kvs
  | .null | .bool _ | .num _ | .str _ => true
def integralElems : List Json → Bool
  | [] => true
  | x :: xs => integral x && integralElems xs
def integralFields : List (String × Json) → Bool
  | [] => true
  | (_, v) :: kvs => integral v && integralFields kvs
end

theorem integralElems_iff : ∀ {xs : List Json},
    integralElems xs = true ↔ ∀ x ∈ xs, x.integral = true
  | [] => by simp [integralElems]
  | x :: xs => by rw [integralElems, Bool.and_eq_true, integralElems_iff, List.forall_mem_cons]

/-! ## Reading -/

def isBlank (c : Char) : Bool :=
  c = ' ' || c = '\t' || c = '\n' || c = '\r'

def skipWs (cs : List Char) : List Char := cs.dropWhile isBlank

/-- The four digits of a `\u` escape. -/
def hex4 (a b c d : Char) : Option Nat :=
  match hexVal a, hexVal b, hexVal c, hexVal d with
  | some a, some b, some c, some d => some (4096 * a + 256 * b + 16 * c + d)
  | _, _, _, _ => none

/-- The one-letter escapes. -/
def shortEscape : Char → Option Char
  | '"' => some '"'
  | '\\' => some '\\'
  | '/' => some '/'
  | 'b' => some '\x08'
  | 'f' => some '\x0c'
  | 'n' => some '\n'
  | 'r' => some '\r'
  | 't' => some '\t'
  | _ => none

/-- The character after `\u`: a basic one, or a high surrogate that must be
followed by an escaped low one. -/
def unicodeEscape : List Char → Option (Char × List Char)
  | a :: b :: c :: d :: cs =>
      match hex4 a b c d with
      | none => none
      | some n =>
          if n < 0xD800 ∨ 0xDFFF < n then some (Char.ofNat n, cs)
          else if n < 0xDC00 then
            match cs with
            | '\\' :: 'u' :: a' :: b' :: c' :: d' :: cs' =>
                match hex4 a' b' c' d' with
                | some m =>
                    if 0xDC00 ≤ m ∧ m ≤ 0xDFFF then
                      some (Char.ofNat (0x10000 + 1024 * (n - 0xD800) + (m - 0xDC00)), cs')
                    else none
                | none => none
            | _ => none
          else none
  | _ => none

/-- One character of a string literal; control characters must be escaped. -/
def parseChar : List Char → Option (Char × List Char)
  | [] => none
  | c :: cs =>
      if c = '\\' then
        match cs with
        | [] => none
        | e :: cs' =>
            if e = 'u' then unicodeEscape cs'
            else (shortEscape e).map fun c' => (c', cs')
      else if c.toNat < 0x20 then none
      else some (c, cs)

/-- The rest of a string literal, after its opening quote. -/
def parseStr : Nat → List Char → Option (List Char × List Char)
  | 0, _ => none
  | fuel + 1, cs =>
      match cs with
      | '"' :: r => some ([], r)
      | _ =>
          match parseChar cs with
          | none => none
          | some (c, r) => (parseStr fuel r).map fun p => (c :: p.1, p.2)

/-- Fraction and exponent of a number literal, if any, and what follows. -/
def skipFraction (cs : List Char) : Option (Bool × List Char) :=
  let exponent (seen : Bool) (cs : List Char) : Option (Bool × List Char) :=
    match cs with
    | 'e' :: r | 'E' :: r =>
        let r := match r with
          | '+' :: r' | '-' :: r' => r'
          | _ => r
        if (r.takeWhile Char.isDigit).isEmpty then none
        else some (true, r.dropWhile Char.isDigit)
    | _ => some (seen, cs)
  match cs with
  | '.' :: r =>
      if (r.takeWhile Char.isDigit).isEmpty then none
      else exponent true (r.dropWhile Char.isDigit)
  | _ => exponent false cs

/-- An unsigned integer literal: no leading zero. -/
def parseNat (cs : List Char) : Option (Nat × List Char) :=
  match cs.takeWhile Char.isDigit with
  | [] => none
  | ['0'] => some (0, cs.dropWhile Char.isDigit)
  | '0' :: _ => none
  | ds => some (Nat.ofDigitChars 10 ds 0, cs.dropWhile Char.isDigit)

def parseNumber (cs : List Char) : Option (Json × List Char) :=
  match cs with
  | '-' :: r =>
      match parseNat r with
      | none => none
      | some (n, r) =>
          (skipFraction r).map fun p =>
            (if p.1 || n = 0 then .real else .num (-(n : Int)), p.2)
  | _ =>
      match parseNat cs with
      | none => none
      | some (n, r) => (skipFraction r).map fun p => (if p.1 then .real else .num n, p.2)

/-- One of the three literal names. -/
def parseName (name : List Char) (v : Json) (cs : List Char) : Option (Json × List Char) :=
  if name.isPrefixOf cs then some (v, cs.drop name.length) else none

mutual
/-- A value at the head of the text.  Each level of nesting and each element
costs one unit of fuel, so the length of the text is always enough. -/
def parseValue : Nat → List Char → Option (Json × List Char)
  | 0, _ => none
  | fuel + 1, cs =>
      match skipWs cs with
      | [] => none
      | c :: r =>
          if c = '"' then
            (parseStr (r.length + 1) r).map fun p => (.str (String.ofList p.1), p.2)
          else if c = '[' then
            match skipWs r with
            | ']' :: r' => some (.arr [], r')
            | r' => (parseElems fuel r').map fun p => (.arr p.1, p.2)
          else if c = '{' then
            match skipWs r with
            | '}' :: r' => some (.obj [], r')
            | r' => (parseFields fuel r').map fun p => (.obj p.1, p.2)
          else if c = 'n' then parseName ['n', 'u', 'l', 'l'] .null (c :: r)
          else if c = 't' then parseName ['t', 'r', 'u', 'e'] (.bool true) (c :: r)
          else if c = 'f' then parseName ['f', 'a', 'l', 's', 'e'] (.bool false) (c :: r)
          else parseNumber (c :: r)
def parseElems : Nat → List Char → Option (List Json × List Char)
  | 0, _ => none
  | fuel + 1, cs =>
      match parseValue fuel cs with
      | none => none
      | some (v, r) =>
          match skipWs r with
          | ',' :: r' => (parseElems fuel r').map fun p => (v :: p.1, p.2)
          | ']' :: r' => some ([v], r')
          | _ => none
def parseFields : Nat → List Char → Option (List (String × Json) × List Char)
  | 0, _ => none
  | fuel + 1, cs =>
      match skipWs cs with
      | '"' :: r =>
          match parseStr (r.length + 1) r with
          | none => none
          | some (k, r) =>
              match skipWs r with
              | ':' :: r =>
                  match parseValue fuel r with
                  | none => none
                  | some (v, r) =>
                      match skipWs r with
                      | ',' :: r' =>
                          (parseFields fuel r').map fun p => ((String.ofList k, v) :: p.1, p.2)
                      | '}' :: r' => some ([(String.ofList k, v)], r')
                      | _ => none
              | _ => none
      | _ => none
end

/-- A whole document: one value, then blanks only.  Every string of it has to be Unicode: an
escaped lone surrogate is refused wherever it stands.  A reader that skips the members it does
not know without decoding their strings accepts such a text too. -/
def parse (cs : List Char) : Option Json :=
  match parseValue (cs.length + 1) cs with
  | some (j, r) => if (skipWs r).isEmpty then some j else none
  | none => none

/-! ## Reading back what was written -/

/-- `esc` writes each character so that the reader reads it back, and never
begins with the quote that would end the literal. -/
def Escapes (esc : Char → List Char) : Prop :=
  ∀ c r, parseChar (esc c ++ r) = some (c, r) ∧ ∀ r', esc c ++ r ≠ '"' :: r'

theorem Escapes.ne_nil {esc : Char → List Char} (h : Escapes esc) (c : Char) : esc c ≠ [] := by
  intro hnil
  have hc := (h c []).1
  rw [hnil, List.append_nil] at hc
  exact absurd hc (by simp [parseChar])

theorem Escapes.length_le {esc : Char → List Char} (h : Escapes esc) :
    ∀ s : List Char, s.length ≤ (s.flatMap esc).length
  | [] => Nat.le_refl _
  | c :: s => by
      have hc : 0 < (esc c).length := List.length_pos_iff.mpr (h.ne_nil c)
      have hs := h.length_le s
      simp only [List.flatMap_cons, List.length_append, List.length_cons]
      omega

theorem parseStr_flatMap {esc : Char → List Char} (h : Escapes esc) :
    ∀ (s r : List Char) (fuel : Nat), s.length < fuel →
      parseStr fuel (s.flatMap esc ++ '"' :: r) = some (s, r)
  | [], r, fuel + 1, _ => by simp [parseStr]
  | c :: s, r, fuel + 1, hfuel => by
      have hrest : parseStr fuel (s.flatMap esc ++ '"' :: r) = some (s, r) :=
        parseStr_flatMap h s r fuel (by simpa using hfuel)
      obtain ⟨hread, hquote⟩ := h c (s.flatMap esc ++ '"' :: r)
      rw [List.flatMap_cons, List.append_assoc, parseStr]
      · simp only [hread, hrest, Option.map_some]
      · exact hquote

theorem parseStr_renderStr {esc : Char → List Char} (h : Escapes esc) (s : String)
    (r : List Char) :
    parseStr ((s.toList.flatMap esc ++ ['"'] ++ r).length + 1)
      (s.toList.flatMap esc ++ ['"'] ++ r) = some (s.toList, r) := by
  have hlen := h.length_le s.toList
  rw [List.append_assoc, List.singleton_append]
  refine parseStr_flatMap h _ _ _ ?_
  simp only [List.length_append, List.length_cons]
  omega

/-! ### Numbers -/

/-- What may follow a value inside a document. -/
def Follow (r : List Char) : Prop := ∀ c ∈ r.head?, c = ',' ∨ c = ']' ∨ c = '}'

theorem Follow.nil : Follow [] := fun _ h => by simp at h

theorem Follow.cons {c : Char} {r : List Char} (h : c = ',' ∨ c = ']' ∨ c = '}') :
    Follow (c :: r) := fun c' h' => by
  simp only [List.head?_cons, Option.mem_some_iff] at h'
  exact h' ▸ h

theorem takeWhile_toDigits {r : List Char} (n : Nat) (hr : Follow r) :
    (Nat.toDigits 10 n ++ r).takeWhile Char.isDigit = Nat.toDigits 10 n ∧
      (Nat.toDigits 10 n ++ r).dropWhile Char.isDigit = r := by
  have hd : ∀ c ∈ Nat.toDigits 10 n, c.isDigit = true := fun c hc =>
    Nat.isDigit_of_mem_toDigits (by decide) (by decide) hc
  rw [List.takeWhile_append_of_pos hd, List.dropWhile_append_of_pos hd]
  cases r with
  | nil => simp
  | cons c r =>
      have hc : c.isDigit = false := by
        rcases hr c rfl with rfl | rfl | rfl <;> rfl
      simp [hc]

theorem toDigits_head (n : Nat) (hn : 0 < n) :
    ∃ d ds, Nat.toDigits 10 n = d :: ds ∧ d ≠ '0' := by
  induction n using Nat.strongRecOn with
  | ind n ih =>
      rw [Nat.toDigits_eq_if (by decide)]
      split
      · refine ⟨n.digitChar, [], rfl, ?_⟩
        rw [Ne, Nat.digitChar_eq_zero]
        omega
      · obtain ⟨d, ds, heq, hd⟩ := ih (n / 10) (by omega) (by omega)
        exact ⟨d, ds ++ [(n % 10).digitChar], by rw [heq]; rfl, hd⟩

theorem parseNat_toDigits {r : List Char} (n : Nat) (hr : Follow r) :
    parseNat (Nat.toDigits 10 n ++ r) = some (n, r) := by
  obtain ⟨htake, hdrop⟩ := takeWhile_toDigits n hr
  rw [parseNat, htake, hdrop]
  rcases Nat.eq_zero_or_pos n with rfl | hn
  · rfl
  · obtain ⟨d, ds, heq, hd⟩ := toDigits_head n hn
    have hval : Nat.ofDigitChars 10 (d :: ds) 0 = n := by
      rw [← heq]
      exact Nat.ofDigitChars_ten_toDigits
    rw [heq]
    split
    · next h => cases h
    · next h => exact absurd (List.cons.inj h).1 hd
    · next _ h => exact absurd (List.cons.inj h).1 hd
    · rw [hval]

theorem skipFraction_follow {r : List Char} (hr : Follow r) :
    skipFraction r = some (false, r) := by
  cases r with
  | nil => rfl
  | cons c r => rcases hr c rfl with rfl | rfl | rfl <;> rfl

theorem parseNumber_renderInt {r : List Char} (n : Int) (hr : Follow r) :
    parseNumber (renderInt n ++ r) = some (.num n, r) := by
  cases n with
  | ofNat n =>
      have hhead : ∀ r', Nat.toDigits 10 n ++ r ≠ '-' :: r' := by
        intro r' heq
        have hmem : '-' ∈ Nat.toDigits 10 n := by
          cases hds : Nat.toDigits 10 n with
          | nil => exact absurd hds Nat.toDigits_ne_nil
          | cons d ds =>
              rw [hds] at heq
              exact (List.cons.inj heq).1 ▸ List.mem_cons_self
        exact absurd (Nat.isDigit_of_mem_toDigits (by decide) (by decide) hmem) (by decide)
      rw [renderInt, parseNumber]
      · simp [parseNat_toDigits n hr, skipFraction_follow hr]
      · exact hhead
  | negSucc n =>
      rw [renderInt, List.cons_append, parseNumber, parseNat_toDigits (n + 1) hr]
      simp only [skipFraction_follow hr, Option.map_some]
      rfl

/-! ### Values -/

/-- The first character of a value's text, and what the reader does there. -/
theorem render_head (esc : Char → List Char) :
    ∀ (j : Json), j.integral = true → ∃ c cs, render esc j = c :: cs ∧ isBlank c = false ∧
      c ≠ ']' ∧ c ≠ '}'
  | .null, _ => ⟨_, _, rfl, by decide⟩
  | .bool true, _ => ⟨_, _, rfl, by decide⟩
  | .bool false, _ => ⟨_, _, rfl, by decide⟩
  | .real, h => by simp [integral] at h
  | .str _, _ => ⟨_, _, rfl, by decide⟩
  | .arr [], _ => ⟨_, _, rfl, by decide⟩
  | .arr (_ :: _), _ => ⟨_, _, rfl, by decide⟩
  | .obj [], _ => ⟨_, _, rfl, by decide⟩
  | .obj ((_, _) :: _), _ => ⟨_, _, rfl, by decide⟩
  | .num (.negSucc _), _ => ⟨_, _, rfl, by decide⟩
  | .num (.ofNat n), _ => by
      cases hds : Nat.toDigits 10 n with
      | nil => exact absurd hds Nat.toDigits_ne_nil
      | cons d ds =>
          have hd : d.isDigit = true :=
            Nat.isDigit_of_mem_toDigits (by decide) (by decide) (hds ▸ List.mem_cons_self)
          refine ⟨d, ds, hds, ?_, ?_, ?_⟩
          · cases hb : isBlank d with
            | false => rfl
            | true =>
                simp only [isBlank, Bool.or_eq_true, decide_eq_true_eq] at hb
                rcases hb with ((rfl | rfl) | rfl) | rfl <;> exact absurd hd (by decide)
          · rintro rfl; exact absurd hd (by decide)
          · rintro rfl; exact absurd hd (by decide)

theorem skipWs_cons {c : Char} {cs : List Char} (h : isBlank c = false) :
    skipWs (c :: cs) = c :: cs := by
  simp [skipWs, h]

/-- A value that starts with none of the dispatching characters is a number. -/
theorem parseValue_number {fuel : Nat} {n : Int} {r : List Char} (hr : Follow r) :
    parseValue (fuel + 1) (renderInt n ++ r) = some (.num n, r) := by
  have hnum := parseNumber_renderInt n hr
  obtain ⟨c, cs, heq, hblank, -, -⟩ := render_head (fun _ => []) (.num n) rfl
  simp only [render] at heq
  have hc : c.isDigit = true ∨ c = '-' := by
    cases n with
    | ofNat n =>
        refine Or.inl (Nat.isDigit_of_mem_toDigits (b := 10) (n := n) (by decide) (by decide) ?_)
        rw [show Nat.toDigits 10 n = c :: cs from heq]
        exact List.mem_cons_self
    | negSucc n => exact Or.inr (List.cons.inj heq).1.symm
  have hne : c ≠ '"' ∧ c ≠ '[' ∧ c ≠ '{' ∧ c ≠ 'n' ∧ c ≠ 't' ∧ c ≠ 'f' := by
    refine ⟨?_, ?_, ?_, ?_, ?_, ?_⟩ <;> rintro rfl <;> revert hc <;> decide
  rw [heq] at hnum ⊢
  rw [List.cons_append] at hnum ⊢
  rw [parseValue, skipWs_cons hblank]
  simp only [hne, if_false]
  exact hnum

theorem parseValue_array {fuel : Nat} {c : Char} {cs : List Char} (hblank : isBlank c = false)
    (hclose : c ≠ ']') :
    parseValue (fuel + 1) ('[' :: c :: cs) =
      (parseElems fuel (c :: cs)).map fun p => (.arr p.1, p.2) := by
  rw [parseValue, skipWs_cons (by decide)]
  simp only [Char.reduceEq, if_true, if_false, skipWs_cons hblank]
  split
  · next r' hr' => exact absurd (List.cons.inj hr').1 hclose
  · rfl

theorem parseValue_object {fuel : Nat} {cs : List Char} :
    parseValue (fuel + 1) ('{' :: '"' :: cs) =
      (parseFields fuel ('"' :: cs)).map fun p => (.obj p.1, p.2) := by
  rw [parseValue, skipWs_cons (by decide)]
  simp only [Char.reduceEq, if_true, if_false, skipWs_cons (show isBlank '"' = false by decide)]
  rfl

mutual
theorem parseValue_render {esc : Char → List Char} (h : Escapes esc) :
    ∀ (j : Json) (fuel : Nat) (r : List Char), j.integral = true →
      (render esc j).length ≤ fuel → Follow r →
      parseValue fuel (render esc j ++ r) = some (j, r)
  | .null, fuel + 1, r, _, _, _ => by
      simp [render, parseValue, skipWs, isBlank, parseName]
  | .bool true, fuel + 1, r, _, _, _ => by
      simp [render, parseValue, skipWs, isBlank, parseName]
  | .bool false, fuel + 1, r, _, _, _ => by
      simp [render, parseValue, skipWs, isBlank, parseName]
  | .num n, fuel + 1, r, _, _, hr => by
      rw [render]
      exact parseValue_number hr
  | .num n, 0, r, hint, hlen, _ => by
      obtain ⟨c, cs, heq, -⟩ := render_head esc (.num n) hint
      rw [heq] at hlen
      exact absurd hlen (by simp)
  | .real, _, _, hint, _, _ => by simp [integral] at hint
  | .str s, fuel + 1, r, _, _, _ => by
      have hs := parseStr_renderStr h s r
      rw [render, renderStr, List.cons_append, parseValue, skipWs_cons (by decide)]
      simp only [if_true]
      rw [hs]
      simp only [Option.map_some, String.ofList_toList]
  | .arr [], fuel + 1, r, _, _, _ => by
      simp [render, parseValue, skipWs, isBlank]
  | .arr (x :: xs), fuel + 1, r, hint, hlen, _ => by
      simp only [integral, integralElems, Bool.and_eq_true] at hint
      simp only [render, List.length_cons, List.length_append] at hlen
      have helems := parseElems_render h x xs fuel r hint.1 hint.2
        (by simp only [List.length_append]; omega)
      obtain ⟨c, cs, heq, hblank, hclose, -⟩ := render_head esc x hint.1
      rw [heq, List.cons_append, List.cons_append] at helems
      rw [render, List.cons_append, heq, List.cons_append, List.cons_append,
        parseValue_array hblank hclose, helems]
      rfl
  | .obj [], fuel + 1, r, _, _, _ => by
      simp [render, parseValue, skipWs, isBlank]
  | .obj ((k, v) :: kvs), fuel + 1, r, hint, hlen, _ => by
      simp only [integral, integralFields, Bool.and_eq_true] at hint
      simp only [render, List.length_cons, List.length_append] at hlen
      have hfields := parseFields_render h k v kvs fuel r hint.1 hint.2
        (by simp only [List.length_append, List.length_cons]; omega)
      simp only [renderStr, List.cons_append] at hfields
      simp only [render, renderStr, List.cons_append]
      rw [parseValue_object, hfields]
      rfl
theorem parseElems_render {esc : Char → List Char} (h : Escapes esc) :
    ∀ (x : Json) (xs : List Json) (fuel : Nat) (r : List Char), x.integral = true →
      integralElems xs = true → (render esc x ++ renderElems esc xs).length ≤ fuel →
      parseElems fuel (render esc x ++ renderElems esc xs ++ r) = some (x :: xs, r)
  | _, [], 0, _, _, _, hlen => by simp [renderElems] at hlen
  | _, _ :: _, 0, _, _, _, hlen => by simp [renderElems] at hlen
  | x, [], fuel + 1, r, hx, _, hlen => by
      simp only [renderElems, List.length_append, List.length_singleton] at hlen
      have hval := parseValue_render h x fuel (']' :: r) hx (by omega)
        (.cons (Or.inr (Or.inl rfl)))
      rw [renderElems, List.append_assoc, List.singleton_append, parseElems, hval]
      simp only [skipWs_cons (show isBlank ']' = false by decide)]
  | x, y :: ys, fuel + 1, r, hx, hxs, hlen => by
      simp only [integralElems, Bool.and_eq_true] at hxs
      simp only [renderElems, List.length_append, List.length_cons] at hlen
      have hrest := parseElems_render h y ys fuel r hxs.1 hxs.2
        (by rw [List.length_append]; omega)
      have hval := parseValue_render h x fuel (',' :: (render esc y ++ renderElems esc ys ++ r))
        hx (by omega) (.cons (Or.inl rfl))
      rw [renderElems, List.append_assoc, List.cons_append, parseElems, hval]
      simp only [skipWs_cons (show isBlank ',' = false by decide), hrest, Option.map_some]
theorem parseFields_render {esc : Char → List Char} (h : Escapes esc) :
    ∀ (k : String) (v : Json) (kvs : List (String × Json)) (fuel : Nat) (r : List Char),
      v.integral = true → integralFields kvs = true →
      (renderStr esc k ++ ':' :: (render esc v ++ renderFields esc kvs)).length ≤ fuel →
      parseFields fuel (renderStr esc k ++ ':' :: (render esc v ++ renderFields esc kvs) ++ r) =
        some ((k, v) :: kvs, r)
  | k, v, [], fuel + 1, r, hv, _, hlen => by
      simp only [renderFields, List.length_append, List.length_cons, List.length_nil] at hlen
      have hkey := parseStr_renderStr h k (':' :: (render esc v ++ ('}' :: r)))
      have hval := parseValue_render h v fuel ('}' :: r) hv (by omega)
        (.cons (Or.inr (Or.inr rfl)))
      have htext : renderStr esc k ++ ':' :: (render esc v ++ renderFields esc []) ++ r =
          '"' :: (k.toList.flatMap esc ++ ['"'] ++ ':' :: (render esc v ++ '}' :: r)) := by
        simp [renderStr, renderFields]
      rw [htext, parseFields, skipWs_cons (by decide)]
      simp only [hkey, skipWs_cons (show isBlank ':' = false by decide), hval,
        skipWs_cons (show isBlank '}' = false by decide), String.ofList_toList]
  | k, v, (k', v') :: kvs, fuel + 1, r, hv, hkvs, hlen => by
      simp only [integralFields, Bool.and_eq_true] at hkvs
      simp only [renderFields, List.length_append, List.length_cons] at hlen
      have hrest := parseFields_render h k' v' kvs fuel r hkvs.1 hkvs.2
        (by simp only [List.length_append, List.length_cons]; omega)
      have hkey := parseStr_renderStr h k (':' :: (render esc v ++ (',' ::
        (renderStr esc k' ++ ':' :: (render esc v' ++ renderFields esc kvs) ++ r))))
      have hval := parseValue_render h v fuel
        (',' :: (renderStr esc k' ++ ':' :: (render esc v' ++ renderFields esc kvs) ++ r)) hv
        (by omega) (.cons (Or.inl rfl))
      have htext : renderStr esc k ++ ':' :: (render esc v ++ renderFields esc ((k', v') :: kvs))
            ++ r =
          '"' :: (k.toList.flatMap esc ++ ['"'] ++ ':' :: (render esc v ++ (',' ::
            (renderStr esc k' ++ ':' :: (render esc v' ++ renderFields esc kvs) ++ r)))) := by
        simp [renderStr, renderFields]
      rw [htext, parseFields, skipWs_cons (by decide)]
      simp only [hkey, skipWs_cons (show isBlank ':' = false by decide), hval,
        skipWs_cons (show isBlank ',' = false by decide), hrest, Option.map_some,
        String.ofList_toList]
end

/-- **Round trip.**  Whatever a lawful escaper writes is read back. -/
theorem parse_render {esc : Char → List Char} (h : Escapes esc) {j : Json}
    (hint : j.integral = true) : parse (render esc j) = some j := by
  have hval := parseValue_render h j ((render esc j).length + 1) [] hint (Nat.le_succ _) .nil
  rw [List.append_nil] at hval
  simp [parse, hval, skipWs]

/-! ## Two escapers on one value -/

/-- `esc` and `esc'` agree outside `special`; on it `esc` writes `extra`
characters more. -/
structure Lengthens (esc esc' : Char → List Char) (special : Char → Bool) (extra : Nat) :
    Prop where
  same : ∀ c, special c = false → esc c = esc' c
  long : ∀ c, special c = true → (esc c).length = (esc' c).length + extra

/-- How many characters of a string are special. -/
def specialsStr (special : Char → Bool) (s : String) : Nat := s.toList.countP special

mutual
/-- How many special characters the strings and member names of a value have. -/
def specials (special : Char → Bool) : Json → Nat
  | .str s => specialsStr special s
  | .arr xs => specialsElems special xs
  | .obj kvs => specialsFields special kvs
  | .null | .bool _ | .num _ | .real => 0
def specialsElems (special : Char → Bool) : List Json → Nat
  | [] => 0
  | x :: xs => specials special x + specialsElems special xs
def specialsFields (special : Char → Bool) : List (String × Json) → Nat
  | [] => 0
  | (k, v) :: kvs =>
      specialsStr special k + specials special v + specialsFields special kvs
end

theorem specialsStr_eq_zero {special : Char → Bool} {s : String} :
    specialsStr special s = 0 ↔ ∀ c ∈ s.toList, special c = false := by
  simp [specialsStr, List.countP_eq_zero]

theorem specialsElems_eq_zero {special : Char → Bool} : ∀ {xs : List Json},
    specialsElems special xs = 0 ↔ ∀ x ∈ xs, specials special x = 0
  | [] => by simp [specialsElems]
  | x :: xs => by
      rw [specialsElems, Nat.add_eq_zero_iff, specialsElems_eq_zero, List.forall_mem_cons]

section Compare

variable {esc esc' : Char → List Char} {special : Char → Bool} {extra : Nat}

theorem Lengthens.flatMap (h : Lengthens esc esc' special extra) (s : List Char) :
    (s.flatMap esc).length = (s.flatMap esc').length + extra * s.countP special := by
  induction s with
  | nil => simp
  | cons c s ih =>
      cases hc : special c with
      | false =>
          rw [List.countP_cons_of_neg (by simp [hc])]
          simp only [List.flatMap_cons, List.length_append, h.same c hc]
          omega
      | true =>
          have hlen := h.long c hc
          rw [List.countP_cons_of_pos hc, Nat.mul_succ]
          simp only [List.flatMap_cons, List.length_append]
          omega

theorem Lengthens.renderStr (h : Lengthens esc esc' special extra) (s : String) :
    (renderStr esc s).length =
      (Json.renderStr esc' s).length + extra * specialsStr special s := by
  have hs := h.flatMap s.toList
  simp only [Json.renderStr, specialsStr, List.length_cons, List.length_append, List.length_nil]
  omega

mutual
theorem length_render (h : Lengthens esc esc' special extra) : ∀ j : Json,
    (render esc j).length = (render esc' j).length + extra * specials special j
  | .null | .bool true | .bool false | .num _ | .real => by simp [render, specials]
  | .str s => by
      simp only [render, specials]
      exact h.renderStr s
  | .arr [] => by simp [render, specials, specialsElems]
  | .arr (x :: xs) => by
      have hx := length_render h x
      have hxs := length_renderElems h xs
      simp only [render, specials, specialsElems, List.length_cons, List.length_append,
        Nat.mul_add]
      omega
  | .obj [] => by simp [render, specials, specialsFields]
  | .obj ((k, v) :: kvs) => by
      have hk := h.renderStr k
      have hv := length_render h v
      have hkvs := length_renderFields h kvs
      simp only [render, specials, specialsFields, List.length_cons, List.length_append,
        Nat.mul_add]
      omega
theorem length_renderElems (h : Lengthens esc esc' special extra) : ∀ xs : List Json,
    (renderElems esc xs).length = (renderElems esc' xs).length + extra * specialsElems special xs
  | [] => by simp [renderElems, specialsElems]
  | x :: xs => by
      have hx := length_render h x
      have hxs := length_renderElems h xs
      simp only [renderElems, specialsElems, List.length_cons, List.length_append, Nat.mul_add]
      omega
theorem length_renderFields (h : Lengthens esc esc' special extra) :
    ∀ kvs : List (String × Json), (renderFields esc kvs).length =
      (renderFields esc' kvs).length + extra * specialsFields special kvs
  | [] => by simp [renderFields, specialsFields]
  | (k, v) :: kvs => by
      have hk := h.renderStr k
      have hv := length_render h v
      have hkvs := length_renderFields h kvs
      simp only [renderFields, specialsFields, List.length_cons, List.length_append,
        Nat.mul_add]
      omega
end

theorem Lengthens.renderStr_congr (h : Lengthens esc esc' special extra) {s : String}
    (hs : specialsStr special s = 0) : Json.renderStr esc s = Json.renderStr esc' s := by
  have hflat : s.toList.flatMap esc = s.toList.flatMap esc' :=
    List.flatMap_congr fun c hc => h.same c (by simpa using List.countP_eq_zero.mp hs c hc)
  simp only [Json.renderStr, hflat]

mutual
theorem render_congr (h : Lengthens esc esc' special extra) : ∀ j : Json,
    specials special j = 0 → render esc j = render esc' j
  | .null, _ | .bool true, _ | .bool false, _ | .num _, _ | .real, _ => by simp only [render]
  | .str s, hj => by
      simp only [render]
      exact h.renderStr_congr hj
  | .arr [], _ => by simp only [render]
  | .arr (x :: xs), hj => by
      simp only [specials, specialsElems, Nat.add_eq_zero_iff] at hj
      simp only [render, render_congr h x hj.1, renderElems_congr h xs hj.2]
  | .obj [], _ => by simp only [render]
  | .obj ((k, v) :: kvs), hj => by
      simp only [specials, specialsFields, Nat.add_eq_zero_iff] at hj
      simp only [render, h.renderStr_congr hj.1.1, render_congr h v hj.1.2,
        renderFields_congr h kvs hj.2]
theorem renderElems_congr (h : Lengthens esc esc' special extra) : ∀ xs : List Json,
    specialsElems special xs = 0 → renderElems esc xs = renderElems esc' xs
  | [], _ => by simp only [renderElems]
  | x :: xs, hxs => by
      simp only [specialsElems, Nat.add_eq_zero_iff] at hxs
      simp only [renderElems, render_congr h x hxs.1, renderElems_congr h xs hxs.2]
theorem renderFields_congr (h : Lengthens esc esc' special extra) :
    ∀ kvs : List (String × Json), specialsFields special kvs = 0 →
      renderFields esc kvs = renderFields esc' kvs
  | [], _ => by simp only [renderFields]
  | (k, v) :: kvs, hkvs => by
      simp only [specialsFields, Nat.add_eq_zero_iff] at hkvs
      simp only [renderFields, h.renderStr_congr hkvs.1.1, render_congr h v hkvs.1.2,
        renderFields_congr h kvs hkvs.2]
end

/-- **Two escapers agree on a value exactly when it has no special character.** -/
theorem render_eq_iff (h : Lengthens esc esc' special extra) (hextra : 0 < extra) (j : Json) :
    render esc j = render esc' j ↔ specials special j = 0 := by
  constructor
  · intro heq
    have hlen := length_render h j
    rw [heq] at hlen
    have hzero : extra * specials special j = 0 := by omega
    exact (Nat.mul_eq_zero.mp hzero).resolve_left (by omega)
  · exact render_congr h j

end Compare

/-! ## A family of escapers

The usual one: short escapes for the quote, the backslash and five control
characters, `\u` escapes for the other control characters and for whatever
else a library chooses to escape. -/

/-- The letter of a character's short escape: `shortEscape` without `/`, read
the other way. -/
def shortLetter : Char → Option Char
  | '"' => some '"'
  | '\\' => some '\\'
  | '\x08' => some 'b'
  | '\x0c' => some 'f'
  | '\n' => some 'n'
  | '\r' => some 'r'
  | '\t' => some 't'
  | _ => none

/-- `\u` and four hexadecimal digits. -/
def unicodeSequence (n : Nat) : List Char :=
  ['\\', 'u', (n / 4096 % 16).digitChar, (n / 256 % 16).digitChar, (n / 16 % 16).digitChar,
    (n % 16).digitChar]

def escapeWith (special : Char → Bool) (c : Char) : List Char :=
  match shortLetter c with
  | some e => ['\\', e]
  | none => if c.toNat < 0x20 || special c then unicodeSequence c.toNat else [c]

theorem shortEscape_shortLetter {c e : Char} (h : shortLetter c = some e) :
    shortEscape e = some c ∧ e ≠ 'u' := by
  unfold shortLetter at h
  split at h <;> first
    | cases h; exact ⟨rfl, by decide⟩
    | cases h

theorem parseChar_unicodeSequence {c : Char} (hc : c.toNat < 0x10000) (r : List Char) :
    parseChar (unicodeSequence c.toNat ++ r) = some (c, r) := by
  have hdigit : ∀ n, hexVal (n % 16).digitChar = some (n % 16) := fun n =>
    hexVal_digitChar _ (Nat.mod_lt _ (by decide))
  have hval : 4096 * (c.toNat / 4096 % 16) + 256 * (c.toNat / 256 % 16) +
      16 * (c.toNat / 16 % 16) + c.toNat % 16 = c.toNat := by omega
  have hscalar : c.toNat < 0xD800 ∨ 0xDFFF < c.toNat := by
    rcases c.valid with h | h
    · exact Or.inl h
    · exact Or.inr h.1
  simp [unicodeSequence, parseChar, unicodeEscape, hex4, hdigit, hval, hscalar]

theorem escapes_escapeWith {special : Char → Bool}
    (hspecial : ∀ c, special c = true → c.toNat < 0x10000) : Escapes (escapeWith special) := by
  intro c r
  unfold escapeWith
  cases hshort : shortLetter c with
  | some e =>
      obtain ⟨hread, hne⟩ := shortEscape_shortLetter hshort
      exact ⟨by simp [parseChar, hne, hread], by simp⟩
  | none =>
      by_cases hc : (c.toNat < 0x20 || special c) = true
      · have hbasic : c.toNat < 0x10000 := by
          simp only [Bool.or_eq_true, decide_eq_true_eq] at hc
          rcases hc with hc | hc
          · omega
          · exact hspecial c hc
        simp only [hc, if_true]
        exact ⟨parseChar_unicodeSequence hbasic r, by simp [unicodeSequence]⟩
      · have hback : c ≠ '\\' := by
          rintro rfl
          cases hshort
        simp only [Bool.or_eq_true, decide_eq_true_eq, not_or] at hc
        simp only [hc, decide_false, Bool.or_self, Bool.false_eq_true, if_false]
        refine ⟨by simp [parseChar, hback, hc.1], ?_⟩
        intro r' heq
        rw [(List.cons.inj heq).1] at hshort
        cases hshort

/-- Escaping more characters lengthens the text by five for each of them. -/
theorem lengthens_escapeWith {special : Char → Bool}
    (hplain : ∀ c, special c = true → shortLetter c = none ∧ 0x20 ≤ c.toNat) :
    Lengthens (escapeWith special) (escapeWith fun _ => false) special 5 where
  same c hc := by simp only [escapeWith, hc]
  long c hc := by
    obtain ⟨hshort, hlow⟩ := hplain c hc
    simp [escapeWith, hshort, hc, Nat.not_lt.mpr hlow, unicodeSequence]

end Json

end ZeroTrust.Lib
