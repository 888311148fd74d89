/-
# `ZeroTrust.Lib.Base64` — base64url without padding

RFC 4648, section 5, for a string of bytes: write the bits of the bytes one after the other,
cut them into groups of six, fill the last group up with zeros on the right, and write each
group with a character of the alphabet.

    `base64Url_append`     three bytes are four characters, whatever comes after
    `length_base64Url`     `n` bytes are `4n/3` characters, rounded up
    `base64Url_injective`  no two strings of bytes have one encoding

Nothing here names a particular program.
-/
import Mathlib.Algebra.Ring.Nat
import Mathlib.Data.List.Induction
import Mathlib.Tactic.Common

namespace ZeroTrust.Lib.Base64

/-! ## Bits -/

/-- The last `w` bits of `n`, the first one in front. -/
def bits : Nat → Nat → List Bool
  | 0, _ => []
  | w + 1, n => bits w (n / 2) ++ [decide (n % 2 = 1)]

/-- The number that bits stand for. -/
def value (bs : List Bool) : Nat := bs.foldl (fun n b => 2 * n + b.toNat) 0

theorem length_bits (w n : Nat) : (bits w n).length = w := by
  induction w generalizing n with
  | zero => rfl
  | succ w ih => rw [bits, List.length_append, ih, List.length_singleton]

theorem bits_add (u v n : Nat) : bits (u + v) n = bits u (n / 2 ^ v) ++ bits v n := by
  induction v generalizing n with
  | zero => rw [Nat.add_zero, Nat.pow_zero, Nat.div_one, bits, List.append_nil]
  | succ v ih =>
      have hdiv : n / 2 / 2 ^ v = n / 2 ^ (v + 1) := by
        rw [Nat.div_div_eq_div_mul, Nat.pow_succ, Nat.mul_comm]
      rw [← Nat.add_assoc, bits, ih, hdiv, bits, List.append_assoc]

/-- Only the last `w` bits count. -/
theorem bits_mod (w n : Nat) : bits w (n % 2 ^ w) = bits w n := by
  induction w generalizing n with
  | zero => rfl
  | succ w ih =>
      have hhalf : n % 2 ^ (w + 1) / 2 = n / 2 % 2 ^ w := by
        rw [Nat.pow_succ, Nat.mul_comm, Nat.mod_mul_right_div_self]
      have hlast : n % 2 ^ (w + 1) % 2 = n % 2 :=
        Nat.mod_mod_of_dvd n ⟨2 ^ w, Nat.pow_succ'⟩
      rw [bits, hhalf, ih, hlast, bits]

/-- Two numbers side by side. -/
theorem bits_append {u v m n : Nat} (h : n < 2 ^ v) :
    bits u m ++ bits v n = bits (u + v) (m * 2 ^ v + n) := by
  have hpos : 0 < 2 ^ v := Nat.two_pow_pos v
  have hdiv : (m * 2 ^ v + n) / 2 ^ v = m := by
    rw [Nat.mul_comm, Nat.mul_add_div hpos, Nat.div_eq_of_lt h, Nat.add_zero]
  have hmod : (m * 2 ^ v + n) % 2 ^ v = n := by
    rw [Nat.mul_comm, Nat.mul_add_mod, Nat.mod_eq_of_lt h]
  rw [bits_add, hdiv, ← bits_mod v (m * 2 ^ v + n), hmod]

theorem value_concat (bs : List Bool) (b : Bool) : value (bs ++ [b]) = 2 * value bs + b.toNat := by
  rw [value, List.foldl_append]
  rfl

theorem value_bits (w n : Nat) : value (bits w n) = n % 2 ^ w := by
  induction w generalizing n with
  | zero => rw [Nat.pow_zero, Nat.mod_one]; rfl
  | succ w ih =>
      have hlast : (decide (n % 2 = 1)).toNat = n % 2 := by
        rcases Nat.mod_two_eq_zero_or_one n with h | h <;> rw [h] <;> rfl
      rw [bits, value_concat, ih, hlast, Nat.pow_succ, Nat.mul_comm (2 ^ w), Nat.mod_mul,
        Nat.add_comm]

theorem bits_value (bs : List Bool) : bits bs.length (value bs) = bs := by
  induction bs using List.reverseRecOn with
  | nil => rfl
  | append_singleton bs b ih =>
      have hb := b.toNat_lt
      have hhalf : (2 * value bs + b.toNat) / 2 = value bs := by omega
      have hlast : decide ((2 * value bs + b.toNat) % 2 = 1) = b := by cases b <;> simp
      rw [List.length_append, List.length_singleton, bits, value_concat, hhalf, ih, hlast]

theorem value_lt (bs : List Bool) : value bs < 2 ^ bs.length := by
  rw [← bits_value bs, value_bits, length_bits]
  exact Nat.mod_lt _ (Nat.two_pow_pos _)

/-! ## The encoding -/

def byteBits (b : UInt8) : List Bool := bits 8 b.toNat

/-- Groups of six bits, the last one filled up with zeros. -/
def sextets : List Bool → List Nat
  | [] => []
  | a :: b :: c :: d :: e :: f :: rest => value [a, b, c, d, e, f] :: sextets rest
  | rest => [value (rest ++ List.replicate (6 - rest.length) false)]

/-- Table 2 of RFC 4648. -/
def alphabet (n : Nat) : Char :=
  if n < 26 then Char.ofNat (65 + n)
  else if n < 52 then Char.ofNat (97 + (n - 26))
  else if n < 62 then Char.ofNat (48 + (n - 52))
  else if n = 62 then '-'
  else '_'

def base64Url (bytes : List UInt8) : List Char :=
  (sextets (bytes.flatMap byteBits)).map alphabet

example : base64Url [20, 251, 156, 3, 217, 126] = "FPucA9l-".toList := by decide

/-! ## Groups -/

theorem sextets_append {group : List Bool} (h : group.length = 6) (rest : List Bool) :
    sextets (group ++ rest) = value group :: sextets rest := by
  match group, h with
  | [a, b, c, d, e, f], _ => rfl

theorem sextets_short {rest : List Bool} (hne : rest ≠ []) (h : rest.length < 6) :
    sextets rest = [value (rest ++ List.replicate (6 - rest.length) false)] := by
  match rest, hne, h with
  | [_], _, _ => rfl
  | [_, _], _, _ => rfl
  | [_, _, _], _, _ => rfl
  | [_, _, _, _], _, _ => rfl
  | [_, _, _, _, _], _, _ => rfl

/-- A string of bits has a group of six in front, or is short. -/
theorem sextets_cases (bs : List Bool) :
    bs = [] ∨ (bs ≠ [] ∧ bs.length < 6) ∨
      ∃ group rest, group.length = 6 ∧ bs = group ++ rest := by
  by_cases hshort : bs.length < 6
  · by_cases hnil : bs = []
    · exact Or.inl hnil
    · exact Or.inr (Or.inl ⟨hnil, hshort⟩)
  · refine Or.inr (Or.inr ⟨bs.take 6, bs.drop 6, ?_, (List.take_append_drop 6 bs).symm⟩)
    rw [List.length_take]
    omega

theorem length_sextets (bs : List Bool) : (sextets bs).length = (bs.length + 5) / 6 := by
  induction hn : bs.length using Nat.strongRecOn generalizing bs with
  | ind n ih =>
      rcases sextets_cases bs with rfl | ⟨hne, hshort⟩ | ⟨group, rest, hgroup, rfl⟩
      · subst hn
        rfl
      · have hpos := List.length_pos_iff.mpr hne
        rw [sextets_short hne hshort, List.length_singleton]
        omega
      · rw [List.length_append] at hn
        rw [sextets_append hgroup, List.length_cons, ih rest.length (by omega) rest rfl]
        omega

theorem sextets_append_of_dvd {bs : List Bool} (h : 6 ∣ bs.length) (rest : List Bool) :
    sextets (bs ++ rest) = sextets bs ++ sextets rest := by
  induction hn : bs.length using Nat.strongRecOn generalizing bs with
  | ind n ih =>
      rcases sextets_cases bs with rfl | ⟨hne, hshort⟩ | ⟨group, more, hgroup, rfl⟩
      · rfl
      · have hpos := List.length_pos_iff.mpr hne
        omega
      · rw [List.length_append] at h hn
        rw [List.append_assoc, sextets_append hgroup, sextets_append hgroup,
          ih more.length (by omega) (by omega) rfl, List.cons_append]

theorem lt_of_mem_sextets {bs : List Bool} {n : Nat} (h : n ∈ sextets bs) : n < 64 := by
  induction hn : bs.length using Nat.strongRecOn generalizing bs with
  | ind k ih =>
      rcases sextets_cases bs with rfl | ⟨hne, hshort⟩ | ⟨group, more, hgroup, rfl⟩
      · exact absurd h List.not_mem_nil
      · rw [sextets_short hne hshort, List.mem_singleton] at h
        have hlt := value_lt (bs ++ List.replicate (6 - bs.length) false)
        have hsix : (bs ++ List.replicate (6 - bs.length) false).length = 6 := by
          rw [List.length_append, List.length_replicate]
          omega
        rw [hsix] at hlt
        exact h ▸ hlt
      · rw [sextets_append hgroup] at h
        rw [List.length_append] at hn
        rcases List.mem_cons.mp h with rfl | h
        · have hlt := value_lt group
          rwa [hgroup] at hlt
        · exact ih more.length (by omega) h rfl

/-- Strings of bits of one length have the same groups only if they are the same. -/
theorem sextets_injective {bs bs' : List Bool} (hlength : bs.length = bs'.length)
    (h : sextets bs = sextets bs') : bs = bs' := by
  have hvalue : ∀ {xs ys : List Bool}, xs.length = ys.length → value xs = value ys → xs = ys := by
    intro xs ys hlen hval
    rw [← bits_value xs, ← bits_value ys, hlen, hval]
  induction hn : bs.length using Nat.strongRecOn generalizing bs bs' with
  | ind n ih =>
      rcases sextets_cases bs with rfl | ⟨hne, hshort⟩ | ⟨group, rest, hgroup, rfl⟩
      · exact (List.eq_nil_of_length_eq_zero hlength.symm).symm
      · have hne' : bs' ≠ [] := by
          rintro rfl
          exact hne (List.eq_nil_of_length_eq_zero hlength)
        rw [sextets_short hne hshort, sextets_short hne' (by omega), hlength] at h
        have hpadded := hvalue (by simp [hlength]) (List.cons.inj h).1
        exact (List.append_inj hpadded hlength).1
      · rcases sextets_cases bs' with rfl | ⟨hne', hshort'⟩ | ⟨group', rest', hgroup', rfl⟩
        · rw [List.length_append, List.length_nil] at hlength
          omega
        · rw [List.length_append] at hlength
          omega
        · rw [sextets_append hgroup, sextets_append hgroup'] at h
          obtain ⟨hfirst, hrest⟩ := List.cons.inj h
          rw [List.length_append, List.length_append] at hlength
          rw [List.length_append] at hn
          have hgroups : group = group' := hvalue (hgroup.trans hgroup'.symm) hfirst
          rw [hgroups, ih rest.length (by omega) (by omega) hrest rfl]

/-! ## Bytes -/

theorem length_flatMap_byteBits (bytes : List UInt8) :
    (bytes.flatMap byteBits).length = 8 * bytes.length := by
  induction bytes with
  | nil => rfl
  | cons b bytes ih =>
      rw [List.flatMap_cons, List.length_append, ih, byteBits, length_bits, List.length_cons]
      omega

theorem length_base64Url (bytes : List UInt8) :
    (base64Url bytes).length = (4 * bytes.length + 2) / 3 := by
  rw [base64Url, List.length_map, length_sextets, length_flatMap_byteBits]
  omega

/-- A byte is the number of its bits. -/
theorem byteBits_injective {b b' : UInt8} (h : byteBits b = byteBits b') : b = b' := by
  have hvalue := congrArg value h
  rw [byteBits, byteBits, value_bits, value_bits, Nat.mod_eq_of_lt b.toNat_lt,
    Nat.mod_eq_of_lt b'.toNat_lt] at hvalue
  exact UInt8.toNat_inj.mp hvalue

theorem flatMap_byteBits_injective {bytes bytes' : List UInt8}
    (h : bytes.flatMap byteBits = bytes'.flatMap byteBits) : bytes = bytes' := by
  induction bytes generalizing bytes' with
  | nil =>
      have hlength := length_flatMap_byteBits bytes'
      rw [← h, List.flatMap_nil, List.length_nil] at hlength
      exact (List.eq_nil_of_length_eq_zero (by omega)).symm
  | cons b bytes ih =>
      cases bytes' with
      | nil =>
          have hlength := length_flatMap_byteBits (b :: bytes)
          rw [h, List.flatMap_nil, List.length_nil, List.length_cons] at hlength
          omega
      | cons b' bytes' =>
          rw [List.flatMap_cons, List.flatMap_cons] at h
          obtain ⟨hfirst, hrest⟩ := List.append_inj h (by simp [byteBits, length_bits])
          rw [byteBits_injective hfirst, ih hrest]

theorem alphabet_injective {m n : Nat} (hm : m < 64) (hn : n < 64)
    (h : alphabet m = alphabet n) : m = n := by
  have hall : ∀ m n : Fin 64, alphabet m.val = alphabet n.val → m = n := by decide +kernel
  exact Fin.mk.inj_iff.mp (hall ⟨m, hm⟩ ⟨n, hn⟩ h)

theorem map_alphabet_injective {ms ns : List Nat} (hm : ∀ m ∈ ms, m < 64) (hn : ∀ n ∈ ns, n < 64)
    (h : ms.map alphabet = ns.map alphabet) : ms = ns := by
  induction ms generalizing ns with
  | nil => exact (List.map_eq_nil_iff.mp h.symm).symm
  | cons m ms ih =>
      cases ns with
      | nil => cases h
      | cons n ns =>
          obtain ⟨hfirst, hrest⟩ := List.cons.inj h
          obtain ⟨hmlt, hms⟩ := List.forall_mem_cons.mp hm
          obtain ⟨hnlt, hns⟩ := List.forall_mem_cons.mp hn
          rw [alphabet_injective hmlt hnlt hfirst, ih hms hns hrest]

theorem base64Url_injective {bytes bytes' : List UInt8} (h : base64Url bytes = base64Url bytes') :
    bytes = bytes' := by
  have hlength : bytes.length = bytes'.length := by
    have hchars := congrArg List.length h
    rw [length_base64Url, length_base64Url] at hchars
    omega
  have hsextets : sextets (bytes.flatMap byteBits) = sextets (bytes'.flatMap byteBits) :=
    map_alphabet_injective (fun _ => lt_of_mem_sextets) (fun _ => lt_of_mem_sextets) h
  refine flatMap_byteBits_injective (sextets_injective ?_ hsextets)
  rw [length_flatMap_byteBits, length_flatMap_byteBits, hlength]

/-! ## Three bytes at a time -/

theorem base64Url_append {bytes : List UInt8} (h : 3 ∣ bytes.length) (rest : List UInt8) :
    base64Url (bytes ++ rest) = base64Url bytes ++ base64Url rest := by
  have hsix : 6 ∣ (bytes.flatMap byteBits).length := by
    rw [length_flatMap_byteBits]
    omega
  rw [base64Url, List.flatMap_append, sextets_append_of_dvd hsix, List.map_append]
  rfl

/-- What is written for `val`, group by group. -/
theorem base64Url_three (a b c : UInt8) {val : Nat}
    (hval : val = a.toNat * 65536 + b.toNat * 256 + c.toNat) :
    base64Url [a, b, c] = [alphabet (val / 2 ^ 18 % 64), alphabet (val / 2 ^ 12 % 64),
      alphabet (val / 2 ^ 6 % 64), alphabet (val % 64)] := by
  have hbits : [a, b, c].flatMap byteBits = bits 24 val ++ [] := by
    simp only [List.flatMap_cons, List.flatMap_nil, List.append_nil, byteBits]
    rw [bits_append c.toNat_lt, bits_append (by have := b.toNat_lt; have := c.toNat_lt; omega)]
    exact congrArg (bits 24) (by omega)
  rw [base64Url, hbits, bits_add 6 18, bits_add 6 12, bits_add 6 6, List.append_assoc,
    List.append_assoc, List.append_assoc, sextets_append (length_bits 6 _),
    sextets_append (length_bits 6 _), sextets_append (length_bits 6 _),
    sextets_append (length_bits 6 _), value_bits, value_bits, value_bits, value_bits]
  rfl

/-- Fewer than six bits are a group with zeros behind them. -/
theorem sextets_bits {w k v : Nat} (hw : 0 < w) (h : w + k = 6) (hk : 0 < k) :
    sextets (bits w v) = [v * 2 ^ k % 64] := by
  have hne : bits w v ≠ [] := by
    rw [← List.length_pos_iff, length_bits]
    exact hw
  have hzeros : List.replicate k false = bits k 0 := by
    obtain ⟨rfl | rfl | rfl | rfl | rfl, hkw⟩ :
        (k = 1 ∨ k = 2 ∨ k = 3 ∨ k = 4 ∨ k = 5) ∧ k < 6 := ⟨by omega, by omega⟩ <;> rfl
  have hfill : 6 - w = k := by omega
  have hsix : 2 ^ 6 = 64 := rfl
  rw [sextets_short hne (by rw [length_bits]; omega), length_bits, hfill, hzeros,
    bits_append (Nat.two_pow_pos k), value_bits, h, Nat.add_zero, hsix]

theorem base64Url_two (a b : UInt8) {val : Nat} (hval : val = a.toNat * 65536 + b.toNat * 256) :
    base64Url [a, b] = [alphabet (val / 2 ^ 18 % 64), alphabet (val / 2 ^ 12 % 64),
      alphabet (val / 2 ^ 6 % 64)] := by
  obtain ⟨v, hv⟩ : ∃ v, v = a.toNat * 256 + b.toNat := ⟨_, rfl⟩
  have hbits : [a, b].flatMap byteBits = bits 16 v := by
    simp only [List.flatMap_cons, List.flatMap_nil, List.append_nil, byteBits]
    rw [bits_append b.toNat_lt]
    exact congrArg (bits 16) hv.symm
  have hfirst : v / 2 ^ 10 % 64 = val / 2 ^ 18 % 64 := by omega
  have hsecond : v / 2 ^ 4 % 64 = val / 2 ^ 12 % 64 := by omega
  have hlast : v * 2 ^ 2 % 64 = val / 2 ^ 6 % 64 := by omega
  rw [base64Url, hbits, bits_add 6 10, bits_add 6 4, sextets_append (length_bits 6 _),
    sextets_append (length_bits 6 _), sextets_bits (k := 2) (by decide) rfl (by decide),
    value_bits, value_bits, ← hfirst, ← hsecond, ← hlast]
  rfl

theorem base64Url_one (a : UInt8) {val : Nat} (hval : val = a.toNat * 65536) :
    base64Url [a] = [alphabet (val / 2 ^ 18 % 64), alphabet (val / 2 ^ 12 % 64)] := by
  have hbits : [a].flatMap byteBits = bits 8 a.toNat := by
    simp only [List.flatMap_cons, List.flatMap_nil, List.append_nil, byteBits]
  have hfirst : a.toNat / 2 ^ 2 % 64 = val / 2 ^ 18 % 64 := by omega
  have hlast : a.toNat * 2 ^ 4 % 64 = val / 2 ^ 12 % 64 := by omega
  rw [base64Url, hbits, bits_add 6 2, sextets_append (length_bits 6 _),
    sextets_bits (k := 4) (by decide) rfl (by decide), value_bits, ← hfirst, ← hlast]
  rfl

end ZeroTrust.Lib.Base64
