/-
# `ZeroTrust.Lib.Hex` — hexadecimal digits and byte strings

`hexEncode` writes two lower-case digits per byte; `hexDecode` reads digits of
either case and refuses an odd length or any other character.  Decoding
inverts encoding (`hexDecode_hexEncode`); encoded text is made of the
characters `0`–`9`, `a`–`f` only (`mem_hexEncode`), which is what lets a
caller reason about stripping prefixes and blanks from it.
-/
import Mathlib.Data.List.Basic
import Mathlib.Tactic.Common

namespace ZeroTrust.Lib

/-- The value of a hexadecimal digit. -/
def hexVal (c : Char) : Option Nat :=
  let n := c.toNat
  if 48 ≤ n ∧ n ≤ 57 then some (n - 48)
  else if 97 ≤ n ∧ n ≤ 102 then some (n - 87)
  else if 65 ≤ n ∧ n ≤ 70 then some (n - 55)
  else none

theorem hexVal_digitChar : ∀ n, n < 16 → hexVal n.digitChar = some n := by decide

def hexEncode : List UInt8 → List Char
  | [] => []
  | b :: bs => (b.toNat / 16).digitChar :: (b.toNat % 16).digitChar :: hexEncode bs

def hexDecode : List Char → Option (List UInt8)
  | [] => some []
  | [_] => none
  | hi :: lo :: cs =>
      match hexVal hi, hexVal lo, hexDecode cs with
      | some h, some l, some bs => some (UInt8.ofNat (16 * h + l) :: bs)
      | _, _, _ => none

theorem hexDecode_hexEncode : ∀ bs : List UInt8, hexDecode (hexEncode bs) = some bs
  | [] => rfl
  | b :: bs => by
      have hb : b.toNat < 256 := b.toNat_lt
      have hhi : hexVal (b.toNat / 16).digitChar = some (b.toNat / 16) :=
        hexVal_digitChar _ (by omega)
      have hlo : hexVal (b.toNat % 16).digitChar = some (b.toNat % 16) :=
        hexVal_digitChar _ (by omega)
      have hsum : 16 * (b.toNat / 16) + b.toNat % 16 = b.toNat := by omega
      simp only [hexEncode, hexDecode, hhi, hlo, hexDecode_hexEncode bs, hsum, UInt8.ofNat_toNat]

/-- Encoded text is made of lower-case hexadecimal digits. -/
theorem mem_hexEncode {c : Char} : ∀ {bs : List UInt8}, c ∈ hexEncode bs →
    ∃ n, n < 16 ∧ c = n.digitChar
  | [], h => absurd h List.not_mem_nil
  | b :: bs, h => by
      have hb : b.toNat < 256 := b.toNat_lt
      rw [hexEncode, List.mem_cons, List.mem_cons] at h
      rcases h with rfl | rfl | h
      · exact ⟨b.toNat / 16, by omega, rfl⟩
      · exact ⟨b.toNat % 16, by omega, rfl⟩
      · exact mem_hexEncode h

end ZeroTrust.Lib
