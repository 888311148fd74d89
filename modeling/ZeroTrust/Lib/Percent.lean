/-
# `ZeroTrust.Lib.Percent` — percent-encoding of query strings

A byte is written as `+` if it is a space, as itself if it is one of those that are kept,
and as `%XX` with upper-case digits otherwise.  Which bytes are kept is a parameter; they
have to be ASCII, and neither `%` nor `+` (`Kept`).

Decoding takes a text apart character by character; a character that is neither `%` nor `+`
stands for its UTF-8 bytes, and a `%` without two digits is an error.

    `percentDecode_percentEncode`  decoding inverts encoding
    `notMem_percentEncode`         a character that is not kept does not occur
-/
import ZeroTrust.Lib.Hex

namespace ZeroTrust.Lib

def percentByte (keep : UInt8 → Bool) (b : UInt8) : List Char :=
  if b = 32 then ['+']
  else if keep b then [Char.ofNat b.toNat]
  else ['%', (b.toNat / 16).digitChar.toUpper, (b.toNat % 16).digitChar.toUpper]

def percentEncode (keep : UInt8 → Bool) (bs : List UInt8) : List Char :=
  bs.flatMap (percentByte keep)

def percentDecode : List Char → Option (List UInt8)
  | [] => some []
  | '%' :: hi :: lo :: cs =>
      match hexVal hi, hexVal lo, percentDecode cs with
      | some h, some l, some bs => some (UInt8.ofNat (16 * h + l) :: bs)
      | _, _, _ => none
  | '+' :: cs => (percentDecode cs).map fun bs => 32 :: bs
  | c :: cs => if c = '%' then none else (percentDecode cs).map fun bs =>
      String.utf8EncodeChar c ++ bs

/-- The bytes that are kept can be told from an escape. -/
def Kept (keep : UInt8 → Bool) : Prop :=
  ∀ b, keep b = true → b.toNat < 128 ∧ Char.ofNat b.toNat ≠ '%' ∧ Char.ofNat b.toNat ≠ '+'

theorem hexVal_upper : ∀ n, n < 16 → hexVal n.digitChar.toUpper = some n := by decide

theorem upper_ne {c : Char} (hc : hexVal c = none) : ∀ n, n < 16 → n.digitChar.toUpper ≠ c := by
  rintro n hn rfl
  rw [hexVal_upper n hn] at hc
  cases hc

theorem utf8EncodeChar_ofNat : ∀ n : Fin 128,
    String.utf8EncodeChar (Char.ofNat n.val) = [UInt8.ofNat n.val] := by decide +kernel

theorem percentDecode_cons {c : Char} (hpercent : c ≠ '%') (hplus : c ≠ '+') (cs : List Char) :
    percentDecode (c :: cs) =
      (percentDecode cs).map fun bs => String.utf8EncodeChar c ++ bs := by
  conv_lhs => unfold percentDecode
  split <;> simp_all

theorem percentDecode_escape (b : UInt8) (cs : List Char) :
    percentDecode ('%' :: (b.toNat / 16).digitChar.toUpper :: (b.toNat % 16).digitChar.toUpper ::
      cs) = (percentDecode cs).map fun bs => b :: bs := by
  have hb : b.toNat < 256 := b.toNat_lt
  have hhi : b.toNat / 16 < 16 := by omega
  have hlo : b.toNat % 16 < 16 := by omega
  have hsum : UInt8.ofNat (16 * (b.toNat / 16) + b.toNat % 16) = b := by
    rw [Nat.div_add_mod, UInt8.ofNat_toNat]
  rw [percentDecode, hexVal_upper _ hhi, hexVal_upper _ hlo]
  cases percentDecode cs with
  | none => rfl
  | some bs => exact congrArg (fun b => some (b :: bs)) hsum

section

variable {keep : UInt8 → Bool}

theorem percentDecode_percentByte (hkeep : Kept keep) (b : UInt8) (cs : List Char) :
    percentDecode (percentByte keep b ++ cs) = (percentDecode cs).map fun bs => b :: bs := by
  unfold percentByte
  split
  next hspace =>
    subst hspace
    simp [percentDecode]
  next =>
    split
    next hkept =>
      obtain ⟨hascii, hpercent, hplus⟩ := hkeep b hkept
      have hbytes : String.utf8EncodeChar (Char.ofNat b.toNat) = [b] := by
        rw [utf8EncodeChar_ofNat ⟨b.toNat, hascii⟩, UInt8.ofNat_toNat]
      rw [List.singleton_append, percentDecode_cons hpercent hplus, hbytes]
      rfl
    next => exact percentDecode_escape b cs

theorem percentDecode_percentEncode (hkeep : Kept keep) (bs : List UInt8) :
    percentDecode (percentEncode keep bs) = some bs := by
  induction bs with
  | nil => rfl
  | cons b bs ih =>
      have hcons : percentEncode keep (b :: bs) = percentByte keep b ++ percentEncode keep bs :=
        List.flatMap_cons
      rw [hcons, percentDecode_percentByte hkeep, ih, Option.map_some]

/-- A separator that is not kept does not occur. -/
theorem notMem_percentEncode {c : Char} (hplus : c ≠ '+') (hpercent : c ≠ '%')
    (hdigit : hexVal c = none) (hkeep : ∀ b, keep b = true → Char.ofNat b.toNat ≠ c)
    (bs : List UInt8) : c ∉ percentEncode keep bs := by
  intro hmem
  obtain ⟨b, -, hb⟩ := List.mem_flatMap.mp hmem
  have hlt : b.toNat < 256 := b.toNat_lt
  unfold percentByte at hb
  split at hb
  · exact hplus (List.mem_singleton.mp hb)
  · split at hb
    next hkept => exact hkeep b hkept (List.mem_singleton.mp hb).symm
    next =>
      simp only [List.mem_cons, List.not_mem_nil, or_false] at hb
      rcases hb with h | h | h
      · exact hpercent h
      · exact upper_ne hdigit _ (by omega) h.symm
      · exact upper_ne hdigit _ (by omega) h.symm

end

end ZeroTrust.Lib
