/-
# `ZeroTrust.Admin.LoginStates` — what a state carries through a login

A signup has to remember the workspace that is to be made, and an invitation its token,
while the browser is at the identity provider.  Both travel in the state: the request that
starts the login writes them, the callback reads them back.

    regular   <csrf>                               nothing
    signup    signup:<csrf>:<name>:<slug>:<id>     three strings, escaped for a query
    invite    invite:<token>                       the token, as it is

The callback tests the prefixes, `invite:` first, and splits a signup state at its first
four colons.  An escaped string has no colon, and neither prefix is the beginning of a
number in hex, so `recover` gives back what was written (`recover_start`).

The three strings of a signup are Go strings: any bytes.
-/
import ZeroTrust.Lib.Percent
import ZeroTrust.Admin.OAuthFlows

namespace ZeroTrust.Admin.LoginStates

open Lib
open OAuthFlows (Flow LoginQuery unreserved randomHex loginState hasPrefix detectFlow)

/-! ## Reading a state -/

/-- What `handleProviderCallback` finds in a state. -/
inductive Recovered where
  | regular
  | signup (wsName wsSlug signupId : List UInt8)
  | invite (inviteToken : String)
  deriving DecidableEq

def Recovered.flow : Recovered → Flow
  | regular => .regular
  | signup .. => .signup
  | invite _ => .invite

/-- `url.QueryUnescape`; where it gives an error, which the callback drops, the string is
empty. -/
def queryUnescape (s : List Char) : List UInt8 := (percentDecode s).getD []

/-- `strings.SplitN(stateParam, ":", 5)`; a state of less than four parts gives nothing. -/
def recoverSignup (stateParam : String) : Recovered :=
  match splitn ':' 5 stateParam.toList with
  | [_, _, wsName, wsSlug] => .signup (queryUnescape wsName) (queryUnescape wsSlug) []
  | [_, _, wsName, wsSlug, signupId] =>
      .signup (queryUnescape wsName) (queryUnescape wsSlug) (queryUnescape signupId)
  | _ => .signup [] [] []

def recover (stateParam : String) : Recovered :=
  if hasPrefix "invite:" stateParam then .invite (dropLeading "invite:" stateParam)
  else if hasPrefix "signup:" stateParam then recoverSignup stateParam
  else .regular

/-- The callback serves the flow it reads out of the state. -/
theorem flow_recover (stateParam : String) : (recover stateParam).flow = detectFlow stateParam := by
  unfold recover detectFlow
  split
  · rfl
  split
  · unfold recoverSignup
    split <;> rfl
  · rfl

/-! ## Writing a state -/

/-- `url.QueryEscape`. -/
def escapeBytes (bs : List UInt8) : String := String.ofList (percentEncode unreserved bs)

def signupState (csrfState : String) (wsName wsSlug signupId : List UInt8) : String :=
  "signup:" ++ csrfState ++ ":" ++ escapeBytes wsName ++ ":" ++ escapeBytes wsSlug ++ ":" ++
    escapeBytes signupId

/-- The strings of a request are the bytes of its query. -/
def bytes (s : String) : List UInt8 := s.toUTF8.toList

/-- The state of `handleProviderLogin`. -/
theorem loginState_eq (q : LoginQuery) (random : List UInt8) :
    (loginState q random).2 =
      if q.flow = "signup" then
        signupState (randomHex random) (bytes q.wsName) (bytes q.wsSlug) (bytes q.signupId)
      else randomHex random := by
  unfold loginState
  split <;> rfl

/-! ## The round trip -/

theorem kept_unreserved : Kept unreserved := by
  have hall : ∀ n : Fin 256, unreserved (UInt8.ofNat n.val) = true →
      n.val < 128 ∧ Char.ofNat n.val ≠ '%' ∧ Char.ofNat n.val ≠ '+' := by decide +kernel
  intro b hb
  have hn := hall ⟨b.toNat, b.toNat_lt⟩
  rw [UInt8.ofNat_toNat] at hn
  exact hn hb

theorem colon_not_unreserved (b : UInt8) (h : unreserved b = true) : Char.ofNat b.toNat ≠ ':' := by
  have hall : ∀ n : Fin 256, unreserved (UInt8.ofNat n.val) = true →
      Char.ofNat n.val ≠ ':' := by decide +kernel
  have hn := hall ⟨b.toNat, b.toNat_lt⟩
  rw [UInt8.ofNat_toNat] at hn
  exact hn h

/-- `url.QueryUnescape` inverts `url.QueryEscape`. -/
theorem queryUnescape_escapeBytes (bs : List UInt8) :
    queryUnescape (escapeBytes bs).toList = bs := by
  rw [queryUnescape, escapeBytes, String.toList_ofList,
    percentDecode_percentEncode kept_unreserved, Option.getD_some]

theorem colon_notMem_escapeBytes (bs : List UInt8) : ':' ∉ (escapeBytes bs).toList := by
  rw [escapeBytes, String.toList_ofList]
  exact notMem_percentEncode (by decide) (by decide) (by decide) colon_not_unreserved bs

theorem colon_notMem_randomHex (random : List UInt8) : ':' ∉ (randomHex random).toList := by
  rw [randomHex, String.toList_ofList]
  intro hmem
  obtain ⟨n, hn, hcolon⟩ := mem_hexEncode hmem
  have hnot : ∀ n, n < 16 → ':' ≠ n.digitChar := by decide
  exact hnot n hn hcolon

theorem hasPrefix_append (p s : String) : hasPrefix p (p ++ s) = true := by
  rw [hasPrefix, List.isPrefixOf_iff_prefix, String.toList_append]
  exact List.prefix_append _ _

theorem recover_randomHex (random : List UInt8) : recover (randomHex random) = .regular := by
  have hno : ∀ p : String, ':' ∈ p.toList → hasPrefix p (randomHex random) = false :=
    fun p hp => OAuthFlows.not_prefix_randomHex hp random
  rw [recover, hno "invite:" (by decide), hno "signup:" (by decide)]
  rfl

theorem recover_invite (token : String) : recover ("invite:" ++ token) = .invite token := by
  have hpre : "invite:".toList <+: ("invite:" ++ token).toList := by
    rw [String.toList_append]
    exact List.prefix_append _ _
  rw [recover, hasPrefix_append, if_pos rfl, dropLeading, if_pos hpre, String.toList_append,
    List.drop_left, String.ofList_toList]

theorem splitn_signupState {csrfState : String} (hcsrf : ':' ∉ csrfState.toList)
    (wsName wsSlug signupId : List UInt8) :
    splitn ':' 5 (signupState csrfState wsName wsSlug signupId).toList =
      ["signup".toList, csrfState.toList, (escapeBytes wsName).toList,
        (escapeBytes wsSlug).toList, (escapeBytes signupId).toList] := by
  have hstate : (signupState csrfState wsName wsSlug signupId).toList =
      "signup".toList ++ ':' :: (csrfState.toList ++ ':' :: ((escapeBytes wsName).toList ++
        ':' :: ((escapeBytes wsSlug).toList ++ ':' :: (escapeBytes signupId).toList))) := by
    simp [signupState]
  simp only [hstate, splitn, cut_append (show ':' ∉ "signup".toList by decide), cut_append hcsrf,
    cut_append (colon_notMem_escapeBytes wsName), cut_append (colon_notMem_escapeBytes wsSlug)]

theorem recover_signupState {csrfState : String} (hcsrf : ':' ∉ csrfState.toList)
    (wsName wsSlug signupId : List UInt8) :
    recover (signupState csrfState wsName wsSlug signupId) =
      .signup wsName wsSlug signupId := by
  have hsignup : hasPrefix "signup:" (signupState csrfState wsName wsSlug signupId) = true := by
    simp only [signupState, String.append_assoc]
    exact hasPrefix_append _ _
  have hinvite : hasPrefix "invite:" (signupState csrfState wsName wsSlug signupId) = false := by
    simp [hasPrefix, signupState, List.isPrefixOf]
  rw [recover, hinvite, hsignup, recoverSignup, splitn_signupState hcsrf]
  simp only [queryUnescape_escapeBytes, Bool.false_eq_true, if_false, if_true]

/-- What a login request puts into its state. -/
def ofLogin (q : LoginQuery) : Recovered :=
  if q.flow = "signup" then .signup (bytes q.wsName) (bytes q.wsSlug) (bytes q.signupId)
  else .regular

/-- **Nothing is lost on the way.**  The callback tells a regular login, a signup and an
invitation apart, and gets back the three strings of a signup, whatever their bytes, and the
token of an invitation. -/
theorem recover_start :
    (∀ q random, recover (loginState q random).2 = ofLogin q) ∧
    (∀ random wsName wsSlug signupId,
      recover (signupState (randomHex random) wsName wsSlug signupId) =
        .signup wsName wsSlug signupId) ∧
    ∀ token, recover ("invite:" ++ token) = .invite token := by
  refine ⟨fun q random => ?_, fun random => ?_, recover_invite⟩
  · rw [loginState_eq, ofLogin]
    split
    · exact recover_signupState (colon_notMem_randomHex random) _ _ _
    · exact recover_randomHex random
  · exact recover_signupState (colon_notMem_randomHex random)

/-- A name with a colon, a space, a per cent sign and the prefix of an invitation. -/
example : recover (signupState "00ff" (bytes "invite: 100%") [255, 58] []) =
    .signup (bytes "invite: 100%") [255, 58] [] := by
  decide +kernel

end ZeroTrust.Admin.LoginStates
