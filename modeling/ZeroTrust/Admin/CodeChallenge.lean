/-
# `ZeroTrust.Admin.CodeChallenge` — the encoding that the PKCE check compares

`encodeBase64URL` of `handlers_device_auth.go` is a loop over indices: three bytes are packed
into a number and four characters taken out of it, and what is left at the end, one byte or
two, has a branch of its own.  An index out of range panics, here `none`.

    `rounds_eq`           the loop has written the encoding of the bytes read so far
    `encodeBase64URL_eq`  the result is base64url without padding; nothing panics
    `encodeBase64Url_eq`  the flow's `challenge` has the same encoding

Two digests have the same encoding only if they are the same, so a verifier is accepted iff
its SHA-256 is the digest whose encoding the client sent (`encodeBase64URL_correct`).
-/
import ZeroTrust.Lib.Base64
import ZeroTrust.Admin.DeviceFlow

namespace ZeroTrust.Admin.CodeChallenge

open Lib.Base64 DeviceFlow

/-! ## The loop -/

/-- `encTable[i]`. -/
def encByte (i : Nat) : Option Char := encTable[i]?

/-- `dst[i] = c`. -/
def put (dst : Array Char) (i : Nat) (c : Char) : Option (Array Char) :=
  if i < dst.size then some (dst.setIfInBounds i c) else none

/-- One round of the loop: `dst` after it. -/
def round (b : Array UInt8) (dst : Array Char) (di si : Nat) : Option (Array Char) := do
  let val :=
    (← b[si]?).toNat <<< 16 ||| (← b[si + 1]?).toNat <<< 8 ||| (← b[si + 2]?).toNat
  let dst ← put dst (di + 0) (← encByte (val >>> 18 &&& 0x3F))
  let dst ← put dst (di + 1) (← encByte (val >>> 12 &&& 0x3F))
  let dst ← put dst (di + 2) (← encByte (val >>> 6 &&& 0x3F))
  put dst (di + 3) (← encByte (val &&& 0x3F))

/-- `for si < n2`: `dst`, `di` and `si` after the loop. -/
def rounds (b : Array UInt8) (n2 : Nat) (dst : Array Char) (di si : Nat) :
    Option (Array Char × Nat × Nat) :=
  if si < n2 then
    (round b dst di si).bind fun dst => rounds b n2 dst (di + 4) (si + 3)
  else some (dst, di, si)
termination_by n2 - si

/-- The branches for the bytes that are left. -/
def remainder (b : Array UInt8) (dst : Array Char) (di si rem : Nat) :
    Option (Array Char × Nat) :=
  if rem = 2 then do
    let val := (← b[si]?).toNat <<< 16 ||| (← b[si + 1]?).toNat <<< 8
    let dst ← put dst (di + 0) (← encByte (val >>> 18 &&& 0x3F))
    let dst ← put dst (di + 1) (← encByte (val >>> 12 &&& 0x3F))
    let dst ← put dst (di + 2) (← encByte (val >>> 6 &&& 0x3F))
    some (dst, di + 3)
  else if rem = 1 then do
    let val := (← b[si]?).toNat <<< 16
    let dst ← put dst (di + 0) (← encByte (val >>> 18 &&& 0x3F))
    let dst ← put dst (di + 1) (← encByte (val >>> 12 &&& 0x3F))
    some (dst, di + 2)
  else some (dst, di)

/-- The characters of `dst` are ASCII, one byte each. -/
def encodeBase64URL (b : Array UInt8) : Option String := do
  let n := b.size
  let dst := Array.replicate ((n + 2) / 3 * 4) (Char.ofNat 0)
  let n2 := n - n % 3
  let (dst, di, si) ← rounds b n2 dst 0 0
  let (dst, di) ← remainder b dst di si (n - n2)
  if di ≤ dst.size then some (String.ofList (dst.toList.take di)) else none

/-! ## One character -/

theorem encByte_eq {i : Nat} (h : i < 64) : encByte i = some (alphabet i) := by
  have hall : ∀ i : Fin 64, encByte i.val = some (alphabet i.val) := by decide +kernel
  exact hall ⟨i, h⟩

/-- Six bits of a number, as the loop takes them out. -/
theorem encByte_sextet (val k : Nat) :
    encByte (val >>> k &&& 0x3F) = some (alphabet (val / 2 ^ k % 64)) := by
  have hmask : val >>> k &&& 0x3F = val / 2 ^ k % 64 := by
    rw [Nat.shiftRight_eq_div_pow]
    exact Nat.and_two_pow_sub_one_eq_mod _ 6
  rw [hmask, encByte_eq (Nat.mod_lt _ (by decide))]

theorem pack_two (a b : UInt8) :
    a.toNat <<< 16 ||| b.toNat <<< 8 = a.toNat * 65536 + b.toNat * 256 := by
  have hb : b.toNat <<< 8 < 2 ^ 16 := by
    rw [Nat.shiftLeft_eq]
    have hlt := b.toNat_lt
    omega
  rw [← Nat.shiftLeft_add_eq_or_of_lt hb, Nat.shiftLeft_eq, Nat.shiftLeft_eq]

theorem pack_three (a b c : UInt8) :
    a.toNat <<< 16 ||| b.toNat <<< 8 ||| c.toNat =
      a.toNat * 65536 + b.toNat * 256 + c.toNat := by
  have hc : c.toNat < 2 ^ 8 := c.toNat_lt
  have hval : a.toNat * 65536 + b.toNat * 256 = (a.toNat * 256 + b.toNat) <<< 8 := by
    rw [Nat.shiftLeft_eq]
    omega
  rw [pack_two, hval, ← Nat.shiftLeft_add_eq_or_of_lt hc]

variable {b : Array UInt8} {dst : Array Char} {di si : Nat} {cs : List Char}

/-- The characters up to `di` are written. -/
def Written (dst : Array Char) (di : Nat) (cs : List Char) : Prop :=
  dst.toList.take di = cs

theorem put_eq (c : Char) (hi : di < dst.size) (h : Written dst di cs) :
    ∃ dst', put dst di c = some dst' ∧ dst'.size = dst.size ∧
      Written dst' (di + 1) (cs ++ [c]) := by
  refine ⟨_, if_pos hi, Array.size_setIfInBounds, ?_⟩
  have hlength : (dst.toList.take di).length = di := by
    rw [List.length_take, Array.length_toList]
    omega
  rw [Written, Array.toList_setIfInBounds, List.set_eq_take_append_cons_drop,
    if_pos (by rwa [Array.length_toList]), ← h, List.take_append, hlength,
    List.take_of_length_le (by omega), Nat.add_sub_cancel_left]
  rfl

/-! ## The loop and the rest -/

theorem round_eq (hsi : si + 2 < b.size) (hdi : di + 3 < dst.size) (h : Written dst di cs) :
    ∃ dst', round b dst di si = some dst' ∧ dst'.size = dst.size ∧
      Written dst' (di + 4) (cs ++ base64Url [b[si], b[si + 1], b[si + 2]]) := by
  have hval := pack_three b[si] b[si + 1] b[si + 2]
  generalize hv : b[si].toNat <<< 16 ||| b[si + 1].toNat <<< 8 ||| b[si + 2].toNat = val at hval
  have hlast : encByte (val &&& 0x3F) = some (alphabet (val % 64)) := by
    have hmask := encByte_sextet val 0
    rwa [Nat.shiftRight_zero, Nat.pow_zero, Nat.div_one] at hmask
  obtain ⟨d1, hd1, hs1, h1⟩ := put_eq (alphabet (val / 2 ^ 18 % 64)) (by omega) h
  obtain ⟨d2, hd2, hs2, h2⟩ := put_eq (alphabet (val / 2 ^ 12 % 64)) (by omega) h1
  obtain ⟨d3, hd3, hs3, h3⟩ := put_eq (alphabet (val / 2 ^ 6 % 64)) (by omega) h2
  obtain ⟨d4, hd4, hs4, h4⟩ := put_eq (alphabet (val % 64)) (by omega) h3
  refine ⟨d4, ?_, by omega, ?_⟩
  · simp only [round, getElem?_pos b si (by omega), getElem?_pos b (si + 1) (by omega),
      getElem?_pos b (si + 2) hsi, Option.bind_eq_bind, Option.bind_some, hv, encByte_sextet,
      hlast, hd1, hd2, hd3, hd4, Nat.add_zero]
  · rw [base64Url_three _ _ _ hval]
    simpa only [List.append_assoc, List.cons_append, List.nil_append] using h4

theorem take_one (hsi : si < b.size) :
    b.toList.take (si + 1) = b.toList.take si ++ [b[si]] :=
  List.take_succ_eq_append_getElem (by rwa [Array.length_toList])

theorem take_two (hsi : si + 1 < b.size) :
    b.toList.take (si + 2) = b.toList.take si ++ [b[si], b[si + 1]] := by
  rw [take_one hsi, take_one (Nat.lt_of_succ_lt hsi), List.append_assoc]
  rfl

theorem take_three (hsi : si + 2 < b.size) :
    b.toList.take (si + 3) = b.toList.take si ++ [b[si], b[si + 1], b[si + 2]] := by
  rw [take_one hsi, take_two (Nat.lt_of_succ_lt hsi), List.append_assoc]
  rfl

/-- After any number of rounds, the encoding of the bytes read is written. -/
theorem rounds_eq {n2 : Nat} (hn2 : n2 ≤ b.size) (hthree : 3 ∣ n2) (hsi : 3 ∣ si) (hle : si ≤ n2)
    (hdi : di = si / 3 * 4) (hsize : n2 / 3 * 4 ≤ dst.size)
    (h : Written dst di (base64Url (b.toList.take si))) :
    ∃ dst', rounds b n2 dst di si = some (dst', n2 / 3 * 4, n2) ∧ dst'.size = dst.size ∧
      Written dst' (n2 / 3 * 4) (base64Url (b.toList.take n2)) := by
  induction hleft : n2 - si using Nat.strongRecOn generalizing dst di si with
  | ind k ih =>
      unfold rounds
      by_cases hend : si < n2
      · have hread : si + 2 < b.size := by omega
        obtain ⟨dst', hround, hsize', hwritten⟩ := round_eq hread (by omega) h
        have hdvd : 3 ∣ (b.toList.take si).length := by
          rw [List.length_take, Array.length_toList, Nat.min_eq_left (by omega)]
          exact hsi
        rw [← base64Url_append hdvd, ← take_three (by omega)] at hwritten
        rw [if_pos hend, hround, Option.bind_some, ← hsize']
        exact ih (n2 - (si + 3)) (by omega) (by omega) (by omega) (by omega) (by omega) hwritten rfl
      · obtain rfl : si = n2 := by omega
        rw [if_neg hend, ← hdi]
        exact ⟨dst, rfl, rfl, h⟩

theorem remainder_eq {rem : Nat} (hrem : si + rem = b.size) (hthree : 3 ∣ si) (hlt : rem < 3)
    (hdi : di + (4 * rem + 2) / 3 ≤ dst.size)
    (h : Written dst di (base64Url (b.toList.take si))) :
    ∃ dst', remainder b dst di si rem = some (dst', di + (4 * rem + 2) / 3) ∧
      dst'.size = dst.size ∧ Written dst' (di + (4 * rem + 2) / 3) (base64Url b.toList) := by
  have hlength : b.toList.length = b.size := Array.length_toList
  have hdvd : 3 ∣ (b.toList.take si).length := by
    rw [List.length_take, Nat.min_eq_left (by omega)]
    exact hthree
  have hall : b.toList = b.toList.take (si + rem) := (List.take_of_length_le (by omega)).symm
  unfold remainder
  obtain rfl | rfl | rfl : rem = 2 ∨ rem = 1 ∨ rem = 0 := by omega
  · have hval := pack_two b[si] b[si + 1]
    generalize hv : b[si].toNat <<< 16 ||| b[si + 1].toNat <<< 8 = val at hval
    obtain ⟨d1, hd1, hs1, h1⟩ := put_eq (alphabet (val / 2 ^ 18 % 64)) (by omega) h
    obtain ⟨d2, hd2, hs2, h2⟩ := put_eq (alphabet (val / 2 ^ 12 % 64)) (by omega) h1
    obtain ⟨d3, hd3, hs3, h3⟩ := put_eq (alphabet (val / 2 ^ 6 % 64)) (by omega) h2
    refine ⟨d3, ?_, by omega, ?_⟩
    · simp only [if_true, getElem?_pos b si (by omega), getElem?_pos b (si + 1) (by omega),
        Option.bind_eq_bind, Option.bind_some, hv, encByte_sextet, hd1, hd2, hd3, Nat.add_zero]
    · rw [hall, take_two (by omega), base64Url_append hdvd, base64Url_two _ _ hval]
      simpa only [List.append_assoc, List.cons_append, List.nil_append] using h3
  · have hval := Nat.shiftLeft_eq b[si].toNat 16
    generalize hv : b[si].toNat <<< 16 = val at hval
    obtain ⟨d1, hd1, hs1, h1⟩ := put_eq (alphabet (val / 2 ^ 18 % 64)) (by omega) h
    obtain ⟨d2, hd2, hs2, h2⟩ := put_eq (alphabet (val / 2 ^ 12 % 64)) (by omega) h1
    refine ⟨d2, ?_, by omega, ?_⟩
    · simp only [OfNat.one_ne_ofNat, if_true, if_false, getElem?_pos b si (by omega),
        Option.bind_eq_bind, Option.bind_some, hv, encByte_sextet, hd1, hd2, Nat.add_zero]
    · rw [hall, take_one (by omega), base64Url_append hdvd, base64Url_one _ hval]
      simpa only [List.append_assoc, List.cons_append, List.nil_append] using h2
  · refine ⟨dst, rfl, rfl, ?_⟩
    rw [hall]
    exact h

/-- **`encodeBase64URL` is base64url without padding**, and no index is out of range. -/
theorem encodeBase64URL_eq (b : Array UInt8) :
    encodeBase64URL b = some (String.ofList (base64Url b.toList)) := by
  obtain ⟨dst, hdst⟩ : ∃ dst, Array.replicate ((b.size + 2) / 3 * 4) (Char.ofNat 0) = dst :=
    ⟨_, rfl⟩
  have hsize : dst.size = (b.size + 2) / 3 * 4 := by rw [← hdst, Array.size_replicate]
  obtain ⟨n2, hn2⟩ : ∃ n2, b.size - b.size % 3 = n2 := ⟨_, rfl⟩
  have hthree : 3 ∣ n2 := by omega
  have hle : n2 ≤ b.size := by omega
  have hleft : n2 + (b.size - n2) = b.size := by omega
  have hstart : Written dst 0 (base64Url (b.toList.take 0)) := rfl
  obtain ⟨dst', hrounds, hsize', hwritten⟩ :=
    rounds_eq hle hthree (Nat.dvd_zero 3) (Nat.zero_le _) rfl (by omega) hstart
  obtain ⟨dst'', hrest, hsize'', hall⟩ :=
    remainder_eq hleft hthree (by omega) (by omega) hwritten
  simp only [encodeBase64URL, hdst, hn2, hrounds, hrest, Option.bind_eq_bind, Option.bind_some]
  rw [if_pos (by omega)]
  exact congrArg (fun cs => some (String.ofList cs)) hall

/-! ## The check of the flow -/

theorem encChar_eq (n : Nat) : encChar n = alphabet (n % 64) := by
  have hall : ∀ i : Fin 64, encTable.getD i.val 'A' = alphabet i.val := by decide +kernel
  exact hall ⟨n % 64, Nat.mod_lt _ (by decide)⟩

/-- The encoder in the model of the flow is the same. -/
theorem encodeBase64Url_eq (bytes : List UInt8) : encodeBase64Url bytes = base64Url bytes := by
  have h18 : 2 ^ 18 = 262144 := rfl
  have h12 : 2 ^ 12 = 4096 := rfl
  have h6 : 2 ^ 6 = 64 := rfl
  induction bytes using encodeBase64Url.induct with
  | case1 a b c rest ih =>
      have hdvd : 3 ∣ [a, b, c].length := Nat.dvd_refl 3
      have hgroup : a :: b :: c :: rest = [a, b, c] ++ rest := rfl
      rw [hgroup, base64Url_append hdvd, base64Url_three a b c rfl, ← ih]
      simp only [List.cons_append, List.nil_append, encodeBase64Url, encChar_eq, h18, h12, h6]
  | case2 a b =>
      rw [base64Url_two a b rfl]
      simp only [encodeBase64Url, encChar_eq, h18, h12, h6]
  | case3 a =>
      rw [base64Url_one a rfl]
      simp only [encodeBase64Url, encChar_eq, h18, h12]
  | case4 => rfl

theorem encodeBase64URL_injective {b b' : Array UInt8}
    (h : encodeBase64URL b = encodeBase64URL b') : b = b' := by
  rw [encodeBase64URL_eq, encodeBase64URL_eq] at h
  have hchars : base64Url b.toList = base64Url b'.toList :=
    String.ofList_injective (Option.some.inj h)
  exact Array.toList_inj.mp (base64Url_injective hchars)

variable {S : DeviceServer} {s : State} {req : AuthorizeRequest} {idpId : Option String}
  {wsId : String} {entry : DeviceCodeEntry} {digest : List UInt8}

/-- An authorize request with an empty challenge is refused, so the check is never left out. -/
theorem verifyPkce_iff (hsent : resolveAuthorize S s req idpId = .ok wsId)
    (hdigest : req.codeChallenge = String.ofList (base64Url digest))
    (hentry : entry.codeChallenge = req.codeChallenge) (verifier : String) :
    verifyPkce S entry verifier = .verified ↔ S.sha256 verifier.toUTF8 = digest := by
  have hne : entry.codeChallenge ≠ "" := hentry ▸ challenge_of_resolve hsent
  have hsame : S.challenge verifier = entry.codeChallenge ↔ S.sha256 verifier.toUTF8 = digest := by
    rw [DeviceServer.challenge, encodeBase64Url_eq, hentry, hdigest]
    constructor
    · intro h
      exact base64Url_injective (String.ofList_injective h)
    · rintro rfl
      rfl
  rw [← hsame, verifyPkce]
  constructor
  · intro h
    by_contra hdiffers
    rw [if_pos ⟨hne, hdiffers⟩] at h
    cases h
  · intro h
    exact if_neg fun hboth => hboth.2 h

/-- **Every string of bytes is encoded as base64url without padding**, its own way, so that the
check accepts the verifiers with the digest that the client encoded, and no others. -/
theorem encodeBase64URL_correct (S : DeviceServer) :
    (∀ b : Array UInt8, encodeBase64URL b = some (String.ofList (base64Url b.toList)) ∧
      (base64Url b.toList).length = (4 * b.size + 2) / 3) ∧
    (∀ b b' : Array UInt8, encodeBase64URL b = encodeBase64URL b' → b = b') ∧
    ∀ (s : State) (req : AuthorizeRequest) (idpId : Option String) (wsId : String)
      (entry : DeviceCodeEntry) (digest : List UInt8) (verifier : String),
      resolveAuthorize S s req idpId = .ok wsId →
      req.codeChallenge = String.ofList (base64Url digest) →
      entry.codeChallenge = req.codeChallenge →
      (verifyPkce S entry verifier = .verified ↔ S.sha256 verifier.toUTF8 = digest) := by
  refine ⟨fun b => ⟨encodeBase64URL_eq b, ?_⟩, fun b b' => encodeBase64URL_injective, ?_⟩
  · rw [length_base64Url, Array.length_toList]
  · intro s req idpId wsId entry digest verifier hsent hdigest hentry
    exact verifyPkce_iff hsent hdigest hentry verifier

/-- The code that the example's callback gives out. -/
def exampleEntry : DeviceCodeEntry where
  code := "92eb5ffee6ae2fec"
  email := "alice@acme.io"
  wsId := "ws_1"
  wsSlug := "acme"
  state := "device:0cc175b9c0f1b6a8"
  codeChallenge := exampleRequest.codeChallenge
  expiresAt := 1735690500 * nanosPerSec

theorem exampleVerifier_verified :
    verifyPkce exampleDeviceServer exampleEntry exampleVerifier = .verified :=
  ((encodeBase64URL_correct exampleDeviceServer).2.2
    (.init (1735690200 * nanosPerSec) exampleDirectory.workspaces) exampleRequest (some "") _
    exampleEntry _ exampleVerifier rfl (by decide) rfl).mpr rfl

end ZeroTrust.Admin.CodeChallenge
