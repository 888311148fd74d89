/-
# `ZeroTrust.Admin.OAuthFlows` — four login flows and one map of states

A login starts with a request that makes up a state, stores it in the map of
`oauth_invite_handlers.go` and sends the browser to the identity provider with it; it goes
on with a callback that takes the state out of the map again.

    flow      state                                 started by             callback
    regular   16 random bytes, in hex               handleProviderLogin    provider
    signup    signup:<hex>:<name>:<slug>:<id>       handleProviderLogin    provider
    invite    invite:<token>                        handleInviteAccept     provider
    device    device:<hex>                          handleDeviceAuthorize  device

The provider callback tells its flows apart by the prefix, and what has neither `invite:` nor
`signup:` it takes for a regular login.  The device callback insists on `device:`.  So a
device state given to the provider callback passes for a regular one.

Each access to the maps is a step of its own, so requests interleave at every point where the
mutex is free.  The records of the start requests and of the callbacks are kept, so what is
said of them in a state reached is said of the whole run.

    `Traced`            each acceptance goes back to a storing of its state, and no two to one
    `Honoured`          and this storing belongs to the flow that the callback serves
    `honoured_iff`      `Honoured` holds iff no provider callback finds a device state
-/
import Mathlib.Logic.Function.Basic
import Mathlib.Data.Set.Function
import ZeroTrust.Lib.Hex
import ZeroTrust.Admin.DeviceFlow

namespace ZeroTrust.Admin.OAuthFlows

open Lib
open DeviceFlow (OAuthStates storeOAuthState consumeOAuthState hasDevicePrefix stateTtl
  AuthorizeRequest DeviceServer resolveAuthorize)

/-! ## The requests -/

inductive Flow where
  | regular
  | signup
  | invite
  | device
  deriving DecidableEq

/-- The query of a login request. -/
structure LoginQuery where
  flow : String
  wsName : String
  wsSlug : String
  signupId : String
  returnTo : String

/-- The columns of `workspace_invites` and `invite_tokens` that `handleInviteAccept` reads. -/
structure InviteToken where
  token : String
  expiresAt : Int
  used : Int
  deriving DecidableEq

/-- What `url.QueryEscape` leaves as it is. -/
def unreserved (b : UInt8) : Bool :=
  let c := Char.ofNat b.toNat
  ('a' ≤ c ∧ c ≤ 'z') ∨ ('A' ≤ c ∧ c ≤ 'Z') ∨ ('0' ≤ c ∧ c ≤ '9') ∨ c ∈ ['-', '_', '.', '~']

/-- `url.QueryEscape`. -/
def queryEscape (s : String) : String :=
  String.ofList (s.toUTF8.toList.flatMap fun b =>
    if b = 32 then ['+']
    else if unreserved b then [Char.ofNat b.toNat]
    else ['%', (b.toNat / 16).digitChar.toUpper, (b.toNat % 16).digitChar.toUpper])

def randomHex (bytes : List UInt8) : String := String.ofList (hexEncode bytes)

/-- The flow and the state of a login request. -/
def loginState (q : LoginQuery) (bytes : List UInt8) : Flow × String :=
  if q.flow = "signup" then
    (.signup, "signup:" ++ randomHex bytes ++ ":" ++ queryEscape q.wsName ++ ":" ++
      queryEscape q.wsSlug ++ ":" ++ queryEscape q.signupId)
  else (.regular, randomHex bytes)

def hasPrefix (p s : String) : Bool := p.toList.isPrefixOf s.toList

/-- The flow that `handleProviderCallback` detects from the state's prefix. -/
def detectFlow (stateParam : String) : Flow :=
  if hasPrefix "invite:" stateParam then .invite
  else if hasPrefix "signup:" stateParam then .signup
  else .regular

/-! ## The state -/

/-- A start request that has made up its state. -/
structure Start where
  flow : Flow
  state : String
  /-- `none` until it has stored the state. -/
  storedAt : Option SystemTime

inductive Check where
  | pending
  /-- `invalid or expired state`. -/
  | refused
  | passed (passedAt : SystemTime)

structure Callback where
  /-- The flow that the callback serves. -/
  flow : Flow
  stateParam : String
  returnTo : String
  check : Check

abbrev ReturnTos := Table (Prod.fst : String × String → String)

structure State where
  now : SystemTime
  oauthStates : OAuthStates
  returnTos : ReturnTos
  workspaces : Table WorkspaceRow.id
  workspaceInvites : Table InviteToken.token
  inviteTokens : Table InviteToken.token
  starts : List Start
  callbacks : List Callback

def State.init (now : SystemTime) : State where
  now := now
  oauthStates := ∅
  returnTos := ∅
  workspaces := ∅
  workspaceInvites := ∅
  inviteTokens := ∅
  starts := []
  callbacks := []

inductive Event where
  /-- `configured` is false if the provider has no configuration; `random` is `none` if the
  system has no random bytes. -/
  | providerLogin (configured : Bool) (q : LoginQuery) (random : Option (List UInt8))
  /-- `failure` is what the request ends with if the database does not answer. -/
  | inviteAccept (configured : Bool) (failure : Option String) (token returnTo : String)
  /-- `inserted` is false if the database refuses the row. -/
  | deviceAuthorize (req : AuthorizeRequest) (idpId : Option String)
      (random : Option (List UInt8)) (inserted : Bool)
  /-- `storeOAuthState` of the n-th start request. -/
  | storeState (n : Nat)
  /-- A provider callback, up to its return address. -/
  | providerCallback (configured : Bool) (stateParam : String)
  /-- `consumeOAuthState` of the n-th callback. -/
  | checkState (n : Nat)
  | deviceCallback (stateParam : String)
  /-- Other requests write these tables. -/
  | tables (workspaces : Table WorkspaceRow.id)
      (workspaceInvites inviteTokens : Table InviteToken.token)
  | tick (now : SystemTime)

namespace State

/-- A start request with its state, and its return address if it has one. -/
def start (s : State) (flow : Flow) (state returnTo : String) : State :=
  { s with
    returnTos := if returnTo = "" then s.returnTos else s.returnTos.put (state, returnTo)
    starts := s.starts ++ [⟨flow, state, none⟩] }

/-- Check workspace_invites first, then fall back to legacy invite_tokens. -/
def inviteToken (s : State) (token : String) : Option InviteToken :=
  (s.workspaceInvites.get token).or (s.inviteTokens.get token)

/-- The checks of `handleInviteAccept`. -/
def resolveInvite (s : State) (configured : Bool) (failure : Option String) (token : String) :
    Except (Nat × String) Unit :=
  if !configured then .error (503, "OAuth not configured")
  else if token = "" then .error (400, "missing token")
  else
    match failure, s.inviteToken token with
    | some message, _ => .error (500, message)
    | none, none => .error (404, "invite token not found")
    | none, some row =>
        if row.used ≠ 0 then .error (410, "invite token already used")
        else if s.now / nanosPerSec > row.expiresAt then .error (410, "invite token expired")
        else .ok ()

def verdict (accepted : Bool) (now : SystemTime) : Check :=
  if accepted then .passed now else .refused

def step (S : DeviceServer) (s : State) : Event → Option State
  | .providerLogin configured q random =>
      match configured, random with
      | true, some bytes =>
          some (s.start (loginState q bytes).1 (loginState q bytes).2 q.returnTo)
      | _, _ => some s
  | .inviteAccept configured failure token returnTo =>
      match s.resolveInvite configured failure token with
      | .ok () => some (s.start .invite ("invite:" ++ token) returnTo)
      | .error _ => some s
  | .deviceAuthorize req idpId random inserted =>
      match resolveAuthorize S (.init s.now s.workspaces) req idpId, random with
      | .ok _, some bytes =>
          if inserted then some (s.start .device ("device:" ++ randomHex bytes) "") else some s
      | _, _ => some s
  | .storeState n =>
      match s.starts[n]? with
      | some ⟨flow, state, none⟩ =>
          some { s with
            oauthStates := storeOAuthState s.oauthStates state s.now
            starts := s.starts.set n ⟨flow, state, some s.now⟩ }
      | _ => none
  | .providerCallback configured stateParam =>
      if !configured then some s
      else
        some { s with
          returnTos := s.returnTos.filter fun entry => entry.1 ≠ stateParam
          callbacks := s.callbacks ++
            [⟨detectFlow stateParam, stateParam,
              ((s.returnTos.get stateParam).map Prod.snd).getD "", .pending⟩] }
  | .checkState n =>
      match s.callbacks[n]? with
      | some ⟨flow, stateParam, returnTo, .pending⟩ =>
          let (oauthStates, ok) := consumeOAuthState s.oauthStates stateParam s.now
          some { s with
            oauthStates
            callbacks := s.callbacks.set n ⟨flow, stateParam, returnTo, verdict ok s.now⟩ }
      | _ => none
  | .deviceCallback stateParam =>
      if !hasDevicePrefix stateParam then some s
      else
        some { s with callbacks := s.callbacks ++ [⟨.device, stateParam, "", .pending⟩] }
  | .tables workspaces workspaceInvites inviteTokens =>
      some { s with workspaces, workspaceInvites, inviteTokens }
  | .tick now => if s.now ≤ now then some { s with now } else none

end State

/-! ## Which flow a state belongs to -/

/-- Told by the prefix. -/
def flowOf (state : String) : Flow := if hasDevicePrefix state then .device else detectFlow state

theorem not_prefix_randomHex {p : String} (hp : ':' ∈ p.toList) (bytes : List UInt8) :
    p.toList.isPrefixOf (randomHex bytes).toList = false := by
  rw [Bool.eq_false_iff]
  intro hprefix
  rw [List.isPrefixOf_iff_prefix, randomHex, String.toList_ofList] at hprefix
  obtain ⟨n, hn, hcolon⟩ := mem_hexEncode (List.IsPrefix.subset hprefix hp)
  have hnot : ∀ n, n < 16 → ':' ≠ n.digitChar := by decide
  exact hnot n hn hcolon

theorem flowOf_loginState (q : LoginQuery) (bytes : List UInt8) :
    flowOf (loginState q bytes).2 = (loginState q bytes).1 := by
  unfold loginState
  split
  · simp [flowOf, detectFlow, hasDevicePrefix, hasPrefix, List.isPrefixOf]
  · have hnone : ∀ p : String, ':' ∈ p.toList →
        p.toList.isPrefixOf (randomHex bytes).toList = false :=
      fun p hp => not_prefix_randomHex hp bytes
    simp only [flowOf, detectFlow, hasDevicePrefix, hasPrefix, hnone "device:" (by decide),
      hnone "invite:" (by decide), hnone "signup:" (by decide), Bool.false_eq_true, if_false]

theorem flowOf_invite (token : String) : flowOf ("invite:" ++ token) = .invite := by
  simp [flowOf, detectFlow, hasDevicePrefix, hasPrefix, List.isPrefixOf]

theorem flowOf_device (csrfState : String) : flowOf ("device:" ++ csrfState) = .device := by
  simp [flowOf, hasDevicePrefix, List.isPrefixOf]

/-! ## Where an acceptance comes from -/

/-- The n-th callback got past its check. -/
def State.Passed (s : State) (n : Nat) (c : Callback) (passedAt : SystemTime) : Prop :=
  s.callbacks[n]? = some c ∧ c.check = .passed passedAt

/-- The start request stored the state that the callback accepted, and not too long ago. -/
structure Stored (a : Start) (c : Callback) (passedAt : SystemTime) : Prop where
  state : a.state = c.stateParam
  inTime : ∃ storedAt, a.storedAt = some storedAt ∧ storedAt ≤ passedAt ∧
    passedAt ≤ storedAt + stateTtl

/-- Every callback that got past its check accepted a state that a start request of its own
flow had stored, and no two of them the same storing. -/
def Honoured (s : State) : Prop :=
  ∃ origin : Nat → Nat,
    (∀ n c passedAt, s.Passed n c passedAt →
      ∃ a, s.starts[origin n]? = some a ∧ Stored a c passedAt ∧ a.flow = c.flow) ∧
    ∀ n n' c c' t t', s.Passed n c t → s.Passed n' c' t' → origin n = origin n' → n = n'

/-- The invariant: all of that but for the flow, and what the map says of the start requests.
`origin` is the start request that an acceptance is due to. -/
structure Traced (s : State) (origin : Nat → Nat) : Prop where
  flows : ∀ a ∈ s.starts, a.flow = flowOf a.state
  served : ∀ c ∈ s.callbacks,
    c.flow = detectFlow c.stateParam ∨ c.flow = .device ∧ hasDevicePrefix c.stateParam
  entries : ∀ e ∈ s.oauthStates.rows, ∃ m a storedAt, s.starts[m]? = some a ∧ a.state = e.1 ∧
    a.storedAt = some storedAt ∧ storedAt ≤ s.now ∧ e.2 = storedAt + stateTtl ∧
    ∀ n c passedAt, s.Passed n c passedAt → origin n ≠ m
  passed : ∀ n c passedAt, s.Passed n c passedAt →
    ∃ a, s.starts[origin n]? = some a ∧ Stored a c passedAt
  once : ∀ n n' c c' t t', s.Passed n c t → s.Passed n' c' t' → origin n = origin n' → n = n'

section Traced

variable {S : DeviceServer} {s s' : State} {origin : Nat → Nat}

theorem traced_init (now : SystemTime) : Traced (.init now) id where
  flows a ha := absurd ha List.not_mem_nil
  served c hc := absurd hc List.not_mem_nil
  entries e he := absurd he List.not_mem_nil
  passed n c t h := by cases h.1
  once n n' c c' t t' h := by cases h.1

theorem getElem?_concat {α : Type} {l : List α} {x y : α} {n : Nat} (h : (l ++ [x])[n]? = some y) :
    l[n]? = some y ∨ y = x := by
  rw [List.getElem?_append] at h
  split at h
  · exact Or.inl h
  · exact Or.inr (List.mem_singleton.mp (List.mem_of_getElem? h))

/-- After a callback has come in. -/
theorem passed_concat {n : Nat} {c d : Callback} {passedAt : SystemTime} {returnTos : ReturnTos}
    (hpending : c.check = .pending) :
    State.Passed { s with returnTos, callbacks := s.callbacks ++ [c] } n d passedAt ↔
      s.Passed n d passedAt := by
  constructor
  · rintro ⟨hd, hpassed⟩
    rcases getElem?_concat hd with hold | rfl
    · exact ⟨hold, hpassed⟩
    · cases hpending.symm.trans hpassed
  · rintro ⟨hd, hpassed⟩
    have hlt : n < s.callbacks.length := (List.getElem?_eq_some_iff.mp hd).1
    exact ⟨(List.getElem?_append_left hlt).trans hd, hpassed⟩

/-- A step that accepts no state and leaves what is stored of the start requests. -/
theorem Traced.of_passed (h : Traced s origin) (hflows : ∀ a ∈ s'.starts, a.flow = flowOf a.state)
    (hserved : ∀ c ∈ s'.callbacks,
      c.flow = detectFlow c.stateParam ∨ c.flow = .device ∧ hasDevicePrefix c.stateParam)
    (hnow : s.now ≤ s'.now) (hentries : ∀ e ∈ s'.oauthStates.rows, e ∈ s.oauthStates.rows)
    (hstarts : ∀ (m : Nat) (a : Start) storedAt, s.starts[m]? = some a →
      a.storedAt = some storedAt → s'.starts[m]? = some a)
    (hpassed : ∀ n c passedAt, s'.Passed n c passedAt → s.Passed n c passedAt) :
    Traced s' origin where
  flows := hflows
  served := hserved
  entries e he := by
    obtain ⟨m, a, storedAt, ha, hstate, hstored, hle, hexpires, hfree⟩ :=
      h.entries e (hentries e he)
    refine ⟨m, a, storedAt, hstarts m a storedAt ha hstored, hstate, hstored, hle.trans hnow,
      hexpires, ?_⟩
    exact fun n c passedAt hp => hfree n c passedAt (hpassed n c passedAt hp)
  passed n c passedAt hp := by
    obtain ⟨a, ha, hstored⟩ := h.passed n c passedAt (hpassed n c passedAt hp)
    obtain ⟨storedAt, hsome, -⟩ := hstored.inTime
    exact ⟨a, hstarts _ a storedAt ha hsome, hstored⟩
  once n n' c c' t t' hp hp' := h.once n n' c c' t t' (hpassed n c t hp) (hpassed n' c' t' hp')

theorem Traced.start (h : Traced s origin) {flow : Flow} {state : String} (returnTo : String)
    (hflow : flowOf state = flow) : Traced (s.start flow state returnTo) origin := by
  refine h.of_passed ?_ h.served le_rfl (fun e he => he) ?_ fun n c passedAt hp => hp
  · intro a ha
    rcases List.mem_append.mp ha with ha | ha
    · exact h.flows a ha
    · rw [List.mem_singleton.mp ha, hflow]
  · intro m a storedAt hm _
    have hlt : m < s.starts.length := (List.getElem?_eq_some_iff.mp hm).1
    exact (List.getElem?_append_left hlt).trans hm

theorem Traced.callback (h : Traced s origin) {c : Callback} (returnTos : ReturnTos)
    (hc : c.flow = detectFlow c.stateParam ∨ c.flow = .device ∧ hasDevicePrefix c.stateParam)
    (hpending : c.check = .pending) :
    Traced { s with returnTos, callbacks := s.callbacks ++ [c] } origin := by
  refine h.of_passed h.flows ?_ le_rfl (fun e he => he) (fun m a _ hm _ => hm) ?_
  · intro d hd
    rcases List.mem_append.mp hd with hd | hd
    · exact h.served d hd
    · rwa [List.mem_singleton.mp hd]
  · exact fun n d passedAt hp => (passed_concat hpending).mp hp

theorem Traced.storeState (h : Traced s origin) {n : Nat} {flow : Flow} {state : String}
    (hn : s.starts[n]? = some ⟨flow, state, none⟩) :
    Traced { s with
      oauthStates := storeOAuthState s.oauthStates state s.now
      starts := s.starts.set n ⟨flow, state, some s.now⟩ } origin := by
  have hlt : n < s.starts.length := (List.getElem?_eq_some_iff.mp hn).1
  have hstarts : ∀ (m : Nat) (a : Start) storedAt, s.starts[m]? = some a →
      a.storedAt = some storedAt →
      (s.starts.set n ⟨flow, state, some s.now⟩)[m]? = some a := by
    intro m a storedAt hm hstored
    have hne : n ≠ m := by
      rintro rfl
      cases hn.symm.trans hm
      cases hstored
    rw [List.getElem?_set_ne hne, hm]
  have hset : Traced { s with starts := s.starts.set n ⟨flow, state, some s.now⟩ } origin := by
    refine h.of_passed ?_ h.served le_rfl (fun e he => he) hstarts fun k c passedAt hp => hp
    intro a ha
    rcases List.mem_or_eq_of_mem_set ha with hold | rfl
    · exact h.flows a hold
    · exact h.flows ⟨flow, state, none⟩ (List.mem_of_getElem? hn)
  refine ⟨hset.flows, hset.served, ?_, hset.passed, hset.once⟩
  intro e he
  rcases DeviceFlow.mem_storeOAuthState he with rfl | ⟨hold, -⟩
  · refine ⟨n, ⟨flow, state, some s.now⟩, s.now, List.getElem?_set_self hlt, rfl, rfl, le_rfl, rfl,
      ?_⟩
    -- nothing is due to a start request that had not stored its state
    intro k c passedAt hp heq
    obtain ⟨a, ha, hstored⟩ := h.passed k c passedAt hp
    obtain ⟨storedAt, hsome, -⟩ := hstored.inTime
    rw [heq, hn] at ha
    cases ha
    cases hsome
  · exact hset.entries e hold

/-- After the check of the n-th callback. -/
theorem passed_set {n k : Nat} {flow : Flow} {stateParam returnTo : String} {check : Check}
    {d : Callback} {passedAt : SystemTime} {oauthStates : OAuthStates}
    (hn : s.callbacks[n]? = some ⟨flow, stateParam, returnTo, .pending⟩) :
    State.Passed { s with
      oauthStates
      callbacks := s.callbacks.set n ⟨flow, stateParam, returnTo, check⟩ } k d passedAt ↔
    k = n ∧ d = ⟨flow, stateParam, returnTo, check⟩ ∧ check = .passed passedAt ∨
      s.Passed k d passedAt := by
  by_cases hk : k = n
  · subst hk
    simp only [State.Passed, List.getElem?_set_self (List.getElem?_eq_some_iff.mp hn).1, hn,
      Option.some.injEq, true_and]
    constructor
    · rintro ⟨rfl, hpassed⟩
      exact Or.inl ⟨rfl, hpassed⟩
    · rintro (⟨rfl, hpassed⟩ | ⟨rfl, hpassed⟩)
      · exact ⟨rfl, hpassed⟩
      · cases hpassed
  · simp only [State.Passed, List.getElem?_set_ne (Ne.symm hk), hk, false_and, false_or]

theorem not_passed_of_pending {n : Nat} {c d : Callback} {passedAt : SystemTime}
    (hn : s.callbacks[n]? = some c) (hpending : c.check = .pending) : ¬ s.Passed n d passedAt := by
  rintro ⟨hd, hpassed⟩
  obtain rfl := Option.some.inj (hn.symm.trans hd)
  cases hpending.symm.trans hpassed

theorem Traced.refused (h : Traced s origin) {n : Nat} {flow : Flow} {stateParam returnTo : String}
    {oauthStates : OAuthStates}
    (hn : s.callbacks[n]? = some ⟨flow, stateParam, returnTo, .pending⟩)
    (hentries : ∀ e ∈ oauthStates.rows, e ∈ s.oauthStates.rows) :
    Traced { s with
      oauthStates
      callbacks := s.callbacks.set n ⟨flow, stateParam, returnTo, .refused⟩ } origin := by
  refine h.of_passed h.flows ?_ le_rfl hentries (fun m a _ hm _ => hm) ?_
  · intro d hd
    rcases List.mem_or_eq_of_mem_set hd with hold | rfl
    · exact h.served d hold
    · exact h.served ⟨flow, _, returnTo, .pending⟩ (List.mem_of_getElem? hn)
  · intro k d passedAt hp
    rcases (passed_set hn).mp hp with ⟨-, -, hrefused⟩ | hbefore
    · cases hrefused
    · exact hbefore

theorem Traced.accepted (h : Traced s origin) {n : Nat} {flow : Flow} {stateParam returnTo : String}
    {oauthStates : OAuthStates}
    (hn : s.callbacks[n]? = some ⟨flow, stateParam, returnTo, .pending⟩)
    (hconsume : consumeOAuthState s.oauthStates stateParam s.now = (oauthStates, true)) :
    ∃ origin', Traced { s with
      oauthStates
      callbacks := s.callbacks.set n ⟨flow, stateParam, returnTo, .passed s.now⟩ } origin' := by
  obtain ⟨e, he, rfl, hnow, hrest⟩ := DeviceFlow.consumeOAuthState_accepts hconsume
  obtain ⟨m, a, storedAt, ha, hstate, hstored, hle, hexpires, hfree⟩ := h.entries e he
  have hother : ∀ {k d t}, s.Passed k d t → k ≠ n := by
    rintro k d t hp rfl
    exact not_passed_of_pending hn rfl hp
  refine ⟨Function.update origin n m, h.flows, ?_, ?_, ?_, ?_⟩
  · intro d hd
    rcases List.mem_or_eq_of_mem_set hd with hold | rfl
    · exact h.served d hold
    · exact h.served ⟨flow, _, returnTo, .pending⟩ (List.mem_of_getElem? hn)
  · -- an entry that is left is another state's, and so another request's
    intro e' he'
    obtain ⟨hold, hne⟩ := hrest e' he'
    obtain ⟨m', a', storedAt', ha', hstate', hstored', hle', hexpires', hfree'⟩ := h.entries e' hold
    refine ⟨m', a', storedAt', ha', hstate', hstored', hle', hexpires', ?_⟩
    intro k d passedAt hp
    rcases (passed_set hn).mp hp with ⟨rfl, -, -⟩ | hbefore
    · rw [Function.update_self]
      rintro rfl
      rw [ha, Option.some.injEq] at ha'
      exact hne (hstate'.symm.trans (ha' ▸ hstate))
    · rw [Function.update_of_ne (hother hbefore)]
      exact hfree' k d passedAt hbefore
  · intro k d passedAt hp
    rcases (passed_set hn).mp hp with ⟨rfl, rfl, hnew⟩ | hbefore
    · obtain rfl := Check.passed.inj hnew
      rw [Function.update_self]
      exact ⟨a, ha, hstate, storedAt, hstored, hle, hexpires ▸ hnow⟩
    · rw [Function.update_of_ne (hother hbefore)]
      exact h.passed k d passedAt hbefore
  · intro k k' d d' t t' hp hp' heq
    rcases (passed_set hn).mp hp with ⟨hk, -, -⟩ | hbefore <;>
      rcases (passed_set hn).mp hp' with ⟨hk', -, -⟩ | hbefore'
    · exact hk.trans hk'.symm
    · rw [hk, Function.update_self, Function.update_of_ne (hother hbefore')] at heq
      exact absurd heq.symm (hfree k' d' t' hbefore')
    · rw [hk', Function.update_self, Function.update_of_ne (hother hbefore)] at heq
      exact absurd heq (hfree k d t hbefore)
    · rw [Function.update_of_ne (hother hbefore), Function.update_of_ne (hother hbefore')] at heq
      exact h.once k k' d d' t t' hbefore hbefore' heq

theorem Traced.step {e : Event} (h : Traced s origin) (hstep : s.step S e = some s') :
    ∃ origin', Traced s' origin' := by
  cases e with
  | providerLogin configured q random =>
      simp only [State.step] at hstep
      split at hstep
      · cases hstep
        exact ⟨origin, h.start q.returnTo (flowOf_loginState q _)⟩
      · cases hstep
        exact ⟨origin, h⟩
  | inviteAccept configured failure token returnTo =>
      simp only [State.step] at hstep
      split at hstep
      · cases hstep
        exact ⟨origin, h.start returnTo (flowOf_invite token)⟩
      · cases hstep
        exact ⟨origin, h⟩
  | deviceAuthorize req idpId random inserted =>
      simp only [State.step] at hstep
      split at hstep
      · split at hstep
        · cases hstep
          exact ⟨origin, h.start "" (flowOf_device _)⟩
        · cases hstep
          exact ⟨origin, h⟩
      · cases hstep
        exact ⟨origin, h⟩
  | storeState n =>
      simp only [State.step] at hstep
      split at hstep
      next flow state hn =>
        cases hstep
        exact ⟨origin, h.storeState hn⟩
      · cases hstep
  | providerCallback configured stateParam =>
      simp only [State.step] at hstep
      split at hstep
      · cases hstep
        exact ⟨origin, h⟩
      · cases hstep
        exact ⟨origin, h.callback _ (Or.inl rfl) rfl⟩
  | checkState n =>
      simp only [State.step] at hstep
      split at hstep
      next flow stateParam returnTo hn =>
        cases hstep
        cases hok : (consumeOAuthState s.oauthStates stateParam s.now).2 with
        | true => exact h.accepted hn (Prod.ext rfl hok)
        | false => exact ⟨origin, h.refused hn fun e he => DeviceFlow.mem_consumeOAuthState he⟩
      · cases hstep
  | deviceCallback stateParam =>
      simp only [State.step] at hstep
      split at hstep
      · cases hstep
        exact ⟨origin, h⟩
      next hdevice =>
        cases hstep
        rw [Bool.not_eq_true', Bool.not_eq_false] at hdevice
        exact ⟨origin, h.callback s.returnTos (Or.inr ⟨rfl, hdevice⟩) rfl⟩
  | tables workspaces workspaceInvites inviteTokens =>
      cases hstep
      exact ⟨origin, { h with }⟩
  | tick now =>
      simp only [State.step] at hstep
      split at hstep
      next hnow =>
        cases hstep
        exact ⟨origin, h.of_passed h.flows h.served hnow (fun e he => he)
          (fun m a _ hm _ => hm) fun n c t hp => hp⟩
      · cases hstep

end Traced

/-! ## The flow -/

/-- Every callback that got past its check serves the flow its state's prefix tells of. -/
def FlowsKept (s : State) : Prop :=
  ∀ n c passedAt, s.Passed n c passedAt → c.flow = flowOf c.stateParam

/-- No provider callback finds a device state, stored and in time. -/
def Apart (s : State) : Event → Prop
  | .checkState n => ∀ c, s.callbacks[n]? = some c → c.flow ≠ .device →
      hasDevicePrefix c.stateParam = true →
      ∀ entry, s.oauthStates.get c.stateParam = some entry → s.now > entry.2
  | _ => True

section Flow

variable {S : DeviceServer} {s s' : State} {origin : Nat → Nat} {e : Event}

theorem Traced.kept_iff (h : Traced s origin) : Honoured s ↔ FlowsKept s := by
  constructor
  · rintro ⟨origin', hpassed, -⟩ n c passedAt hp
    obtain ⟨a, ha, hstored, hflow⟩ := hpassed n c passedAt hp
    rw [← hflow, h.flows a (List.mem_of_getElem? ha), hstored.state]
  · intro hkept
    refine ⟨origin, fun n c passedAt hp => ?_, h.once⟩
    obtain ⟨a, ha, hstored⟩ := h.passed n c passedAt hp
    refine ⟨a, ha, hstored, ?_⟩
    rw [h.flows a (List.mem_of_getElem? ha), hstored.state, hkept n c passedAt hp]

theorem consumeOAuthState_snd {states : OAuthStates} {state : String} {now : SystemTime} :
    (consumeOAuthState states state now).2 = true ↔
      ∃ entry, states.get state = some entry ∧ now ≤ entry.2 := by
  unfold consumeOAuthState
  cases hget : states.get state with
  | none => simp
  | some entry => by_cases hnow : now > entry.2 <;> simp [hnow, not_le.mpr, not_lt.mp]

theorem flowsKept_congr (h : ∀ n c t, s'.Passed n c t ↔ s.Passed n c t) :
    FlowsKept s' ↔ FlowsKept s :=
  forall₃_congr fun n c t => imp_congr_left (h n c t)

/-- The provider callback confuses the device states, and only these. -/
theorem flow_eq_iff {c : Callback}
    (hserved : c.flow = detectFlow c.stateParam ∨ c.flow = .device ∧ hasDevicePrefix c.stateParam) :
    c.flow = flowOf c.stateParam ↔ (c.flow ≠ .device → hasDevicePrefix c.stateParam = false) := by
  have hdetect : detectFlow c.stateParam ≠ .device := by
    unfold detectFlow
    split
    · decide
    · split <;> decide
  unfold flowOf
  cases hprefix : hasDevicePrefix c.stateParam with
  | true => simp
  | false =>
      rcases hserved with hdetected | ⟨-, hdevice⟩
      · simp [hdetected]
      · cases hprefix.symm.trans hdevice

/-- Only a check lets a callback past it. -/
theorem passed_step (hstep : s.step S e = some s') (hcheck : ∀ n, e ≠ .checkState n) (n : Nat)
    (c : Callback) (passedAt : SystemTime) : s'.Passed n c passedAt ↔ s.Passed n c passedAt := by
  cases e with
  | checkState n => exact absurd rfl (hcheck n)
  | providerCallback configured stateParam =>
      simp only [State.step] at hstep
      split at hstep
      · cases hstep
        rfl
      · cases hstep
        exact passed_concat rfl
  | deviceCallback stateParam =>
      simp only [State.step] at hstep
      split at hstep
      · cases hstep
        rfl
      · cases hstep
        exact passed_concat rfl
  | deviceAuthorize req idpId random inserted =>
      simp only [State.step] at hstep
      split at hstep
      · split at hstep <;> cases hstep <;> rfl
      · cases hstep
        rfl
  | tables workspaces workspaceInvites inviteTokens =>
      cases hstep
      rfl
  | _ =>
      simp only [State.step] at hstep
      split at hstep <;> cases hstep <;> rfl

theorem flowsKept_checkState (h : Traced s origin) {n : Nat}
    (hstep : s.step S (.checkState n) = some s') :
    FlowsKept s' ↔ FlowsKept s ∧ Apart s (.checkState n) := by
  simp only [State.step] at hstep
  split at hstep
  next flow stateParam returnTo hn =>
    cases hstep
    have hiff := flow_eq_iff (h.served _ (List.mem_of_getElem? hn))
    cases hok : (consumeOAuthState s.oauthStates stateParam s.now).2 with
    | true =>
        obtain ⟨entry, hentry, hin⟩ := consumeOAuthState_snd.mp hok
        have hapart : Apart s (.checkState n) ↔ flow = flowOf stateParam := by
          refine Iff.trans ?_ hiff.symm
          constructor
          · intro hap hflow
            rw [Bool.eq_false_iff]
            intro hdevice
            exact absurd (hap _ hn hflow hdevice entry hentry) (not_lt.mpr hin)
          · rintro hno c hc hflow hdevice
            obtain rfl := Option.some.inj (hn.symm.trans hc)
            exact absurd hdevice (Bool.eq_false_iff.mp (hno hflow))
        rw [hapart]
        constructor
        · intro hkept
          refine ⟨fun k c t hp => hkept k c t ((passed_set hn).mpr (Or.inr hp)), ?_⟩
          exact hkept n _ s.now ((passed_set hn).mpr (Or.inl ⟨rfl, rfl, rfl⟩))
        · rintro ⟨hkept, hflow⟩ k c t hp
          rcases (passed_set hn).mp hp with ⟨-, rfl, -⟩ | hbefore
          · exact hflow
          · exact hkept k c t hbefore
    | false =>
        have hapart : Apart s (.checkState n) := by
          rintro c hc - - entry hentry
          obtain rfl := Option.some.inj (hn.symm.trans hc)
          by_contra hin
          have hyes := consumeOAuthState_snd.mpr ⟨entry, hentry, not_lt.mp hin⟩
          cases hok.symm.trans hyes
        rw [and_iff_left hapart]
        refine flowsKept_congr fun k c t => (passed_set hn).trans ?_
        simp [State.verdict]
  · cases hstep

theorem flowsKept_step (h : Traced s origin) (hstep : s.step S e = some s') :
    FlowsKept s' ↔ FlowsKept s ∧ Apart s e := by
  by_cases hcheck : ∃ n, e = .checkState n
  · obtain ⟨n, rfl⟩ := hcheck
    exact flowsKept_checkState h hstep
  · have hne : ∀ n, e ≠ .checkState n := fun n heq => hcheck ⟨n, heq⟩
    have hapart : Apart s e := by
      cases e with
      | checkState n => exact absurd rfl (hne n)
      | _ => trivial
    rw [and_iff_left hapart]
    exact flowsKept_congr (passed_step hstep hne)

end Flow

theorem traced_run {S : DeviceServer} {now : SystemTime} {es : List Event} {s : State}
    (hrun : run (State.step S) (.init now) es = some s) : ∃ origin, Traced s origin :=
  run_invariant (motive := fun s => ∃ origin, Traced s origin)
    (fun _ _ _ ⟨_, h⟩ hstep => h.step hstep) ⟨id, traced_init now⟩ hrun

/-- **An OAuth state is honoured by the flow that made it, once.**  In a run every callback
that gets past its check has a storing of its state of its own, no more than ten minutes
earlier and by a start request of the flow it serves, if and only if no provider callback is
given a device state that is stored and in time. -/
theorem honoured_iff (S : DeviceServer) (now : SystemTime) (es : List Event) (s : State)
    (hrun : run (State.step S) (.init now) es = some s) :
    Honoured s ↔ Meets (State.step S) Apart (.init now) es := by
  obtain ⟨origin, htraced⟩ := traced_run hrun
  have hkept : FlowsKept (.init now) := fun n c t hp => by cases hp.1
  have hinv : ∀ s e s', (∃ origin, Traced s origin) → State.step S s e = some s' →
      ∃ origin, Traced s' origin := fun _ _ _ ⟨_, h⟩ hstep => h.step hstep
  have hiff : ∀ s e s', (∃ origin, Traced s origin) → State.step S s e = some s' →
      (FlowsKept s' ↔ FlowsKept s ∧ Apart s e) := fun _ _ _ ⟨_, h⟩ hstep => flowsKept_step h hstep
  rw [htraced.kept_iff, iff_meets_of_step hinv hiff ⟨id, traced_init now⟩ hrun,
    and_iff_right hkept]

/-! ### Two logins -/

/-- A device authorization, up to its stored state. -/
def startDevice : List Event :=
  [.tables exampleDirectory.workspaces ∅ ∅,
    .deviceAuthorize DeviceFlow.exampleRequest (some "") (some [0x9f, 0x86]) true, .storeState 0]

/-- The device callback gets the state that the authorization stored, and a provider callback
that of a login. -/
def ownCallbacks : List Event :=
  startDevice ++
    [.providerLogin true ⟨"", "", "", "", "http://192.168.1.20:5173"⟩ (some [0x0c, 0xc1]),
    .storeState 1, .deviceCallback "device:9f86", .checkState 0, .providerCallback true "0cc1",
    .checkState 1]

theorem ownCallbacks_honoured :
    ∃ s, run (State.step DeviceFlow.exampleDeviceServer) (.init 0) ownCallbacks = some s ∧
      s.callbacks = [⟨.device, "device:9f86", "", .passed 0⟩,
        ⟨.regular, "0cc1", "http://192.168.1.20:5173", .passed 0⟩] ∧ Honoured s := by
  refine ⟨_, rfl, by rfl, ?_⟩
  refine (honoured_iff DeviceFlow.exampleDeviceServer 0 ownCallbacks _ rfl).mpr ?_
  refine meets_cons trivial rfl (meets_cons trivial rfl (meets_cons trivial rfl
    (meets_cons trivial rfl (meets_cons trivial rfl (meets_cons trivial rfl (meets_cons ?_ rfl
    (meets_cons trivial rfl (meets_cons ?_ rfl trivial))))))))
  · intro c hc hflow
    obtain rfl := Option.some.inj hc
    exact absurd rfl hflow
  · intro c hc _ hdevice
    obtain rfl := Option.some.inj hc
    cases hdevice

/-- The state of a device authorization, given to a provider callback. -/
def deviceStateAtProvider : List Event :=
  startDevice ++ [.providerCallback true "device:9f86", .checkState 0]

theorem deviceState_passes_for_regular :
    ∃ s, run (State.step DeviceFlow.exampleDeviceServer) (.init 0) deviceStateAtProvider = some s ∧
      s.callbacks = [⟨.regular, "device:9f86", "", .passed 0⟩] ∧
      s.starts = [⟨.device, "device:9f86", some 0⟩] ∧ ¬ Honoured s := by
  refine ⟨_, rfl, by rfl, by rfl, ?_⟩
  rintro ⟨origin, hpassed, -⟩
  obtain ⟨a, ha, -, hflow⟩ := hpassed 0 _ 0 ⟨rfl, rfl⟩
  obtain rfl := List.mem_singleton.mp (List.mem_of_getElem? ha)
  cases hflow

end ZeroTrust.Admin.OAuthFlows
