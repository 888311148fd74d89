/-
# `ZeroTrust.Admin.DeviceFlow` — the device PKCE flow, request by request

Three endpoints of `handlers_device_auth.go` hand a login over to a native client:

    POST /api/device/authorize   resolve the workspace, insert a `device_auth_requests` row,
                                 store the state
    GET  /api/device/callback    consume the state, read and delete the row, ask the identity
                                 provider, store a one-time code
    POST /api/device/token       consume the code, check the verifier, sign a device token

States and codes live in two maps of the process, each under its own mutex and pruned when
something is stored; the row lives in the database.  Every access to one of the three is a
step of its own (`Event`), so the steps of any number of requests interleave.  Other login
flows store and consume states in the same map, never one that starts with `device:`
(`otherState`, `otherConsume`).

A call is recorded when it passes its check (`Authorize`, `Callback`, `Exchange`), with the
number of steps taken before it.  The records are kept forever, so what holds of them in a
state reached holds of the whole run.

    `Inv`                     a state in the map has not been used, a code in the map neither;
                              what a row, a callback or a code says is what its authorize said
    `device_flow_bound`       every device token goes back to one callback and one authorize
-/
import ZeroTrust.Lib.Run
import ZeroTrust.Lib.Publish
import ZeroTrust.Clock
import ZeroTrust.Admin.Workspaces

namespace ZeroTrust.Admin.DeviceFlow

open Lib

/-! ## Base64 -/

def encTable : List Char :=
  "ABCDEFGHIJKLMNOPQRSTUVWXYZabcdefghijklmnopqrstuvwxyz0123456789-_".toList

def encChar (n : Nat) : Char := encTable.getD (n % 64) 'A'

/-- `encodeBase64URL`: three bytes to four characters, no padding. -/
def encodeBase64Url : List UInt8 → List Char
  | a :: b :: c :: rest =>
      let val := a.toNat * 65536 + b.toNat * 256 + c.toNat
      encChar (val / 262144) :: encChar (val / 4096) :: encChar (val / 64) :: encChar val ::
        encodeBase64Url rest
  | [a, b] =>
      let val := a.toNat * 65536 + b.toNat * 256
      [encChar (val / 262144), encChar (val / 4096), encChar (val / 64)]
  | [a] =>
      let val := a.toNat * 65536
      [encChar (val / 262144), encChar (val / 4096)]
  | [] => []

/-! ## The stores -/

/-- What the handlers use of the server. -/
structure DeviceServer extends Server where
  sha256 : ByteArray → List UInt8
  /-- `url.Parse` finds a loopback host. -/
  isLoopbackUri : String → Bool

def DeviceServer.challenge (S : DeviceServer) (verifier : String) : String :=
  String.ofList (encodeBase64Url (S.sha256 verifier.toUTF8))

abbrev OAuthStates := Table (Prod.fst : String × SystemTime → String)

def stateTtl : Int := 600 * nanosPerSec

def storeOAuthState (states : OAuthStates) (state : String) (now : SystemTime) : OAuthStates :=
  -- Prune expired states
  (states.put (state, now + stateTtl)).filter fun entry => !decide (now > entry.2)

def consumeOAuthState (states : OAuthStates) (state : String) (now : SystemTime) :
    OAuthStates × Bool :=
  match states.get state with
  | none => (states, false)
  | some entry =>
      if now > entry.2 then (states, false)
      else (states.filter fun entry => !decide (entry.1 = state), true)

structure DeviceCodeEntry where
  /-- The key of the map. -/
  code : String
  email : String
  wsId : String
  wsSlug : String
  state : String
  codeChallenge : String
  expiresAt : SystemTime
  deriving DecidableEq

abbrev DeviceCodes := Table DeviceCodeEntry.code

def codeTtl : Int := 60 * nanosPerSec

def storeDeviceCode (codes : DeviceCodes) (entry : DeviceCodeEntry) (now : SystemTime) :
    DeviceCodes :=
  -- Prune expired codes
  (codes.put entry).filter fun entry => !decide (now > entry.expiresAt)

def consumeDeviceCode (codes : DeviceCodes) (code : String) (now : SystemTime) :
    DeviceCodes × Option DeviceCodeEntry :=
  let rest := codes.filter fun entry => !decide (entry.code = code)
  match codes.get code with
  | none => (rest, none)
  | some entry => if now > entry.expiresAt then (rest, none) else (rest, some entry)

/-- A row of `device_auth_requests`. -/
structure AuthRequest where
  state : String
  workspaceId : String
  codeChallenge : String
  redirectUri : String
  idpId : String
  createdAt : Int
  expiresAt : Int
  deriving DecidableEq

/-! ## Calls -/

/-- An authorize call that has inserted its row. -/
structure Authorize where
  state : String
  wsId : String
  codeChallenge : String
  stamp : Nat

/-- Where a callback stands that has passed its state check. -/
inductive Phase where
  | passed
  | read (row : AuthRequest)
  | deleted (row : AuthRequest)
  /-- The identity provider has named the user. -/
  | identified (row : AuthRequest) (emailAddr : String)
  /-- The code is stored, and the browser redirected with it. -/
  | stored (row : AuthRequest) (emailAddr : String) (entry : DeviceCodeEntry)
      (storedAt : SystemTime) (stamp : Nat)
  | failed

structure Callback where
  state : String
  passedAt : SystemTime
  stamp : Nat
  phase : Phase

/-- Where a token request stands whose code was accepted. -/
inductive TokenPhase where
  /-- `pkce verification failed`. -/
  | refused
  | verified
  | minted (token : Token)
  | failed

structure Exchange where
  entry : DeviceCodeEntry
  codeVerifier : String
  acceptedAt : SystemTime
  stamp : Nat
  phase : TokenPhase

structure State where
  now : SystemTime
  workspaces : Table WorkspaceRow.id
  oauthStates : OAuthStates
  deviceAuthRequests : Table AuthRequest.state
  deviceCodes : DeviceCodes
  authorizes : List Authorize
  /-- The device states stored, and when. -/
  storedStates : List (String × SystemTime)
  callbacks : List Callback
  exchanges : List Exchange
  /-- The number of steps so far. -/
  steps : Nat

def State.init (now : SystemTime) (workspaces : Table WorkspaceRow.id) : State where
  now := now
  workspaces := workspaces
  oauthStates := ∅
  deviceAuthRequests := ∅
  deviceCodes := ∅
  authorizes := []
  storedStates := []
  callbacks := []
  exchanges := []
  steps := 0

structure AuthorizeRequest where
  tenantSlug : String
  codeChallenge : String
  codeChallengeMethod : String
  redirectUri : String

inductive Event where
  /-- `idpId` is `none` if no identity provider is configured; `inserted` is false if the
  database refuses the row. -/
  | authorize (req : AuthorizeRequest) (idpId : Option String) (csrfState : String)
      (inserted : Bool)
  /-- `storeOAuthState` of the n-th authorize call. -/
  | storeState (n : Nat)
  | otherState (state : String)
  | otherConsume (state : String)
  | callback (stateParam : String)
  /-- `executed` is false if the statement fails. -/
  | readRow (n : Nat) (executed : Bool)
  | deleteRow (n : Nat) (executed : Bool)
  /-- The answer of the identity provider, `none` if there is none. -/
  | identify (n : Nat) (emailAddr : Option String)
  | storeCode (n : Nat) (ctrlCode : String)
  | token (code codeVerifier : String)
  /-- The user and the session that `handleDeviceToken` looks up or makes up. -/
  | mint (n : Nat) (userId sessionId : String)
  | workspaces (workspaces : Table WorkspaceRow.id)
  | tick (now : SystemTime)

/-- The checks of `handleDeviceAuthorize` up to the random state: the workspace's id. -/
def resolveAuthorize (S : DeviceServer) (s : State) (req : AuthorizeRequest)
    (idpId : Option String) : Except String String :=
  if req.tenantSlug = "" ∨ req.codeChallenge = "" ∨ req.redirectUri = "" then
    .error "tenant_slug, code_challenge, and redirect_uri are required"
  else if !S.isLoopbackUri req.redirectUri then
    .error "redirect_uri must be a loopback address (localhost or 127.0.0.1)"
  else if req.codeChallengeMethod ≠ "" ∧ req.codeChallengeMethod ≠ "S256" then
    .error "only S256 code_challenge_method is supported"
  else
    match s.workspaces.rows.find? fun w => w.slug = req.tenantSlug with
    | none => .error "workspace not found"
    | some ws =>
        if idpId = none then .error "no identity provider configured for this workspace"
        else .ok ws.id

def hasDevicePrefix (state : String) : Bool := "device:".toList.isPrefixOf state.toList

/-- The codes that callbacks have given out. -/
def Phase.code : Phase → Option String
  | .stored _ _ entry _ _ => some entry.code
  | _ => none

/-- The entry that a callback stores. -/
def codeEntry (S : DeviceServer) (s : State) (row : AuthRequest) (emailAddr ctrlCode : String) :
    DeviceCodeEntry where
  code := ctrlCode
  email := S.unicode.stringsToLower emailAddr
  wsId := row.workspaceId
  wsSlug := ((s.workspaces.get row.workspaceId).map WorkspaceRow.slug).getD ""
  state := row.state
  codeChallenge := row.codeChallenge
  expiresAt := s.now + codeTtl

/-- `Verify PKCE S256`. -/
def verifyPkce (S : DeviceServer) (entry : DeviceCodeEntry) (codeVerifier : String) : TokenPhase :=
  if entry.codeChallenge ≠ "" ∧ S.challenge codeVerifier ≠ entry.codeChallenge then .refused
  else .verified

def mintPhase (S : DeviceServer) (entry : DeviceCodeEntry) (userId sessionId : String)
    (now : SystemTime) : TokenPhase :=
  match signDeviceJWT S.toServer entry.email userId entry.wsId entry.wsSlug "" sessionId
      (now / nanosPerSec) with
  | .error _ => .failed
  | .ok t => .minted t

def State.setCallback (s : State) (n : Nat) (c : Callback) (phase : Phase) : State :=
  { s with callbacks := s.callbacks.set n { c with phase } }

def State.setExchange (s : State) (n : Nat) (x : Exchange) (phase : TokenPhase) : State :=
  { s with exchanges := s.exchanges.set n { x with phase } }

/-- The row that the callback reads, unless it is missing or too old. -/
def readPhase (s : State) (stateParam : String) : Phase :=
  match s.deviceAuthRequests.get stateParam with
  | none => .failed
  | some row => if s.now / nanosPerSec > row.expiresAt then .failed else .read row

def next (S : DeviceServer) (s : State) : Event → Option State
  | .authorize req idpId csrfState inserted =>
      let deviceState := "device:" ++ csrfState
      match resolveAuthorize S s req idpId with
      | .error _ => some s
      | .ok wsId =>
          -- 16 random bytes are fresh
          if deviceState ∈ s.authorizes.map Authorize.state then none
          else if !inserted then some s
          else some { s with
            deviceAuthRequests := s.deviceAuthRequests.put
              ⟨deviceState, wsId, req.codeChallenge, req.redirectUri, idpId.getD "",
                s.now / nanosPerSec, (s.now + stateTtl) / nanosPerSec⟩
            authorizes := s.authorizes ++ [⟨deviceState, wsId, req.codeChallenge, s.steps⟩] }
  | .storeState n =>
      match s.authorizes[n]? with
      | none => none
      | some a =>
          if a.state ∈ s.storedStates.map Prod.fst then none
          else some { s with
            oauthStates := storeOAuthState s.oauthStates a.state s.now
            storedStates := s.storedStates ++ [(a.state, s.now)] }
  | .otherState state =>
      if hasDevicePrefix state then none
      else some { s with oauthStates := storeOAuthState s.oauthStates state s.now }
  | .otherConsume state =>
      some { s with oauthStates := (consumeOAuthState s.oauthStates state s.now).1 }
  | .callback stateParam =>
      if !hasDevicePrefix stateParam then some s
      else
        let (oauthStates, ok) := consumeOAuthState s.oauthStates stateParam s.now
        if ok then some { s with
          oauthStates
          callbacks := s.callbacks ++ [⟨stateParam, s.now, s.steps, .passed⟩] }
        else some { s with oauthStates }
  | .readRow n executed =>
      match s.callbacks[n]? with
      | some ⟨state, passedAt, stamp, .passed⟩ =>
          some (s.setCallback n ⟨state, passedAt, stamp, .passed⟩
            (if executed then readPhase s state else .failed))
      | _ => none
  | .deleteRow n executed =>
      match s.callbacks[n]? with
      | some ⟨state, passedAt, stamp, .read row⟩ =>
          some (State.setCallback
            { s with
              deviceAuthRequests :=
                if executed then s.deviceAuthRequests.filter fun r => !decide (r.state = state)
                else s.deviceAuthRequests }
            n ⟨state, passedAt, stamp, .read row⟩ (.deleted row))
      | _ => none
  | .identify n emailAddr =>
      match s.callbacks[n]? with
      | some ⟨state, passedAt, stamp, .deleted row⟩ =>
          some (s.setCallback n ⟨state, passedAt, stamp, .deleted row⟩
            (match emailAddr with
              | none => .failed
              | some addr => if addr = "" then .failed else .identified row addr))
      | _ => none
  | .storeCode n ctrlCode =>
      match s.callbacks[n]? with
      | some ⟨state, passedAt, stamp, .identified row emailAddr⟩ =>
          -- 24 random bytes are fresh
          if some ctrlCode ∈ s.callbacks.map fun c => c.phase.code then none
          else
            let entry := codeEntry S s row emailAddr ctrlCode
            some (State.setCallback
              { s with deviceCodes := storeDeviceCode s.deviceCodes entry s.now }
              n ⟨state, passedAt, stamp, .identified row emailAddr⟩
              (.stored row emailAddr entry s.now s.steps))
      | _ => none
  | .token code codeVerifier =>
      if code = "" ∨ codeVerifier = "" then some s
      else
        match consumeDeviceCode s.deviceCodes code s.now with
        | (deviceCodes, none) => some { s with deviceCodes }
        | (deviceCodes, some entry) => some { s with
            deviceCodes
            exchanges := s.exchanges ++
              [⟨entry, codeVerifier, s.now, s.steps, verifyPkce S entry codeVerifier⟩] }
  | .mint n userId sessionId =>
      match s.exchanges[n]? with
      | some ⟨entry, codeVerifier, acceptedAt, stamp, .verified⟩ =>
          some (s.setExchange n ⟨entry, codeVerifier, acceptedAt, stamp, .verified⟩
            (mintPhase S entry userId sessionId s.now))
      | _ => none
  | .workspaces workspaces => some { s with workspaces }
  | .tick now => if s.now ≤ now then some { s with now } else none

def step (S : DeviceServer) (s : State) (e : Event) : Option State :=
  (next S s e).map fun s' => { s' with steps := s.steps + 1 }

/-! ## The invariant -/

/-- The row is that of an authorize call. -/
def Authorized (authorizes : List Authorize) (row : AuthRequest) : Prop :=
  ∃ a ∈ authorizes, a.state = row.state ∧ a.wsId = row.workspaceId ∧
    a.codeChallenge = row.codeChallenge

/-- The entry is the one that a callback makes from a row, a user and the time. -/
structure MadeFrom (S : DeviceServer) (row : AuthRequest) (emailAddr : String)
    (storedAt : SystemTime) (entry : DeviceCodeEntry) : Prop where
  email : entry.email = S.unicode.stringsToLower emailAddr
  wsId : entry.wsId = row.workspaceId
  state : entry.state = row.state
  codeChallenge : entry.codeChallenge = row.codeChallenge
  expiresAt : entry.expiresAt = storedAt + codeTtl

/-- What a callback knows in each phase. -/
def Phase.Sound (S : DeviceServer) (authorizes : List Authorize) (c : Callback) (steps : Nat) :
    Phase → Prop
  | .passed => True
  | .failed => True
  | .read row => row.state = c.state ∧ Authorized authorizes row
  | .deleted row => row.state = c.state ∧ Authorized authorizes row
  | .identified row _ => row.state = c.state ∧ Authorized authorizes row
  | .stored row emailAddr entry storedAt stamp =>
      (row.state = c.state ∧ Authorized authorizes row) ∧ MadeFrom S row emailAddr storedAt entry ∧
        c.stamp < stamp ∧ stamp < steps

/-- The callback passed its check in time, after an authorize call stored its state. -/
def Callback.Passed (authorizes : List Authorize) (storedStates : List (String × SystemTime))
    (c : Callback) : Prop :=
  ∃ a ∈ authorizes, a.state = c.state ∧ a.stamp < c.stamp ∧
    ∃ storedAt, (c.state, storedAt) ∈ storedStates ∧ c.passedAt ≤ storedAt + stateTtl

/-- The code was given out by a callback, at a time and step. -/
def GivenOut (callbacks : List Callback) (entry : DeviceCodeEntry) (storedAt : SystemTime)
    (stamp : Nat) : Prop :=
  ∃ c ∈ callbacks, ∃ row emailAddr, c.phase = .stored row emailAddr entry storedAt stamp

structure Exchange.Sound (S : DeviceServer) (callbacks : List Callback) (x : Exchange) : Prop where
  given : ∃ storedAt stamp, GivenOut callbacks x.entry storedAt stamp ∧ stamp < x.stamp ∧
    x.acceptedAt ≤ storedAt + codeTtl
  verified : x.phase ≠ .refused → S.challenge x.codeVerifier = x.entry.codeChallenge
  minted : ∀ t, x.phase = .minted t → t.claims.sub = x.entry.email ∧
    t.claims.wid = some x.entry.wsId

/-- `steps` bounds the stamps of the records. -/
structure Inv (S : DeviceServer) (s : State) (steps : Nat) : Prop where
  authorizeOnce : (s.authorizes.map Authorize.state).Nodup
  authorized : ∀ a ∈ s.authorizes, a.codeChallenge ≠ "" ∧ a.stamp < steps
  storedOnce : (s.storedStates.map Prod.fst).Nodup
  stored : ∀ p ∈ s.storedStates, ∃ a ∈ s.authorizes, a.state = p.1
  rows : ∀ row ∈ s.deviceAuthRequests.rows, Authorized s.authorizes row
  /-- A device state in the map was stored by its authorize and not used yet. -/
  states : ∀ entry ∈ s.oauthStates.rows, hasDevicePrefix entry.1 = true →
    (∃ storedAt, (entry.1, storedAt) ∈ s.storedStates ∧ entry.2 = storedAt + stateTtl) ∧
      ∀ c ∈ s.callbacks, c.state ≠ entry.1
  callbackOnce : (s.callbacks.map Callback.state).Nodup
  passed : ∀ c ∈ s.callbacks, c.Passed s.authorizes s.storedStates ∧ c.stamp < steps
  phases : ∀ c ∈ s.callbacks, c.phase.Sound S s.authorizes c steps
  codeOnce : ∀ c ∈ s.callbacks, ∀ d ∈ s.callbacks, ∀ code, c.phase.code = some code →
    d.phase.code = some code → c = d
  /-- A code in the map was given out by a callback and not used yet. -/
  codes : ∀ entry ∈ s.deviceCodes.rows,
    (∃ storedAt stamp, GivenOut s.callbacks entry storedAt stamp) ∧
      ∀ x ∈ s.exchanges, x.entry.code ≠ entry.code
  exchangeOnce : (s.exchanges.map fun x => x.entry.code).Nodup
  exchanges : ∀ x ∈ s.exchanges, x.Sound S s.callbacks ∧ x.stamp < steps

theorem inv_init (S : DeviceServer) (now : SystemTime) (workspaces : Table WorkspaceRow.id) :
    Inv S (.init now workspaces) 0 where
  authorizeOnce := List.nodup_nil
  authorized _ h := absurd h List.not_mem_nil
  storedOnce := List.nodup_nil
  stored _ h := absurd h List.not_mem_nil
  rows _ h := absurd h List.not_mem_nil
  states _ h := absurd h List.not_mem_nil
  callbackOnce := List.nodup_nil
  passed _ h := absurd h List.not_mem_nil
  phases _ h := absurd h List.not_mem_nil
  codeOnce _ h := absurd h List.not_mem_nil
  codes _ h := absurd h List.not_mem_nil
  exchangeOnce := List.nodup_nil
  exchanges _ h := absurd h List.not_mem_nil

section

variable {S : DeviceServer} {s : State} {steps : Nat}

theorem phaseSound_mono {authorizes authorizes' : List Authorize} {c : Callback} {steps' : Nat}
    (hgrow : ∀ a ∈ authorizes, a ∈ authorizes') (hle : steps ≤ steps') :
    ∀ {phase : Phase}, phase.Sound S authorizes c steps → phase.Sound S authorizes' c steps' := by
  have hrow : ∀ row, Authorized authorizes row → Authorized authorizes' row := by
    rintro row ⟨a, ha, hrest⟩
    exact ⟨a, hgrow a ha, hrest⟩
  intro phase h
  cases phase with
  | passed => trivial
  | failed => trivial
  | read row => exact ⟨h.1, hrow row h.2⟩
  | deleted row => exact ⟨h.1, hrow row h.2⟩
  | identified row emailAddr => exact ⟨h.1, hrow row h.2⟩
  | stored row emailAddr entry storedAt stamp =>
      obtain ⟨⟨hstate, hauthorized⟩, hmade, hearlier, hbound⟩ := h
      exact ⟨⟨hstate, hrow row hauthorized⟩, hmade, hearlier, by omega⟩

/-- The bound may be raised. -/
theorem inv_mono {steps' : Nat} (h : Inv S s steps) (hle : steps ≤ steps') : Inv S s steps' :=
  { h with
    authorized := fun a ha => ⟨(h.authorized a ha).1, (h.authorized a ha).2.trans_le hle⟩
    passed := fun c hc => ⟨(h.passed c hc).1, (h.passed c hc).2.trans_le hle⟩
    phases := fun c hc => phaseSound_mono (fun _ ha => ha) hle (h.phases c hc)
    exchanges := fun x hx => ⟨(h.exchanges x hx).1, (h.exchanges x hx).2.trans_le hle⟩ }

/-- Removing entries from the maps and the table keeps the invariant. -/
theorem inv_of_subset (h : Inv S s steps) {oauthStates : OAuthStates}
    {deviceAuthRequests : Table AuthRequest.state} {deviceCodes : DeviceCodes}
    (hstates : ∀ e ∈ oauthStates.rows, e ∈ s.oauthStates.rows ∨ hasDevicePrefix e.1 = false)
    (hrows : ∀ r ∈ deviceAuthRequests.rows, r ∈ s.deviceAuthRequests.rows)
    (hcodes : ∀ e ∈ deviceCodes.rows, e ∈ s.deviceCodes.rows) :
    Inv S { s with oauthStates, deviceAuthRequests, deviceCodes } steps :=
  { h with
    rows := fun r hr => h.rows r (hrows r hr)
    states := by
      intro e he hdevice
      rcases hstates e he with hold | hother
      · exact h.states e hold hdevice
      · rw [hdevice] at hother
        cases hother
    codes := fun e he => h.codes e (hcodes e he) }

theorem mem_storeOAuthState {states : OAuthStates} {state : String} {now : SystemTime}
    {e : String × SystemTime} (h : e ∈ (storeOAuthState states state now).rows) :
    e = (state, now + stateTtl) ∨ (e ∈ states.rows ∧ e.1 ≠ state) :=
  Table.mem_rows_put.mp (List.mem_filter.mp h).1

theorem mem_storeDeviceCode {codes : DeviceCodes} {entry e : DeviceCodeEntry} {now : SystemTime}
    (h : e ∈ (storeDeviceCode codes entry now).rows) :
    e = entry ∨ (e ∈ codes.rows ∧ e.code ≠ entry.code) :=
  Table.mem_rows_put.mp (List.mem_filter.mp h).1

/-- What is left after `consumeOAuthState` was there before. -/
theorem mem_consumeOAuthState {states : OAuthStates} {state : String} {now : SystemTime}
    {e : String × SystemTime} (h : e ∈ (consumeOAuthState states state now).1.rows) :
    e ∈ states.rows := by
  unfold consumeOAuthState at h
  split at h
  · exact h
  · split at h
    · exact h
    · exact (List.mem_filter.mp h).1

/-- A state is accepted if it is in the map and not too old, and is then gone from it. -/
theorem consumeOAuthState_accepts {states states' : OAuthStates} {state : String}
    {now : SystemTime} (h : consumeOAuthState states state now = (states', true)) :
    ∃ e ∈ states.rows, e.1 = state ∧ now ≤ e.2 ∧
      ∀ e' ∈ states'.rows, e' ∈ states.rows ∧ e'.1 ≠ state := by
  unfold consumeOAuthState at h
  split at h
  · cases h
  next e he =>
    obtain ⟨hmem, hstate⟩ := Table.mem_of_get he
    split at h
    · cases h
    next hnow =>
      obtain ⟨rfl, -⟩ := Prod.mk.inj h
      refine ⟨e, hmem, hstate, Int.not_lt.mp hnow, ?_⟩
      intro e' he'
      obtain ⟨hold, hne⟩ := List.mem_filter.mp he'
      exact ⟨hold, by simpa using hne⟩

theorem consumeDeviceCode_cases {codes codes' : DeviceCodes} {code : String} {now : SystemTime}
    {answer : Option DeviceCodeEntry} (h : consumeDeviceCode codes code now = (codes', answer)) :
    (∀ e ∈ codes'.rows, e ∈ codes.rows ∧ e.code ≠ code) ∧
      ∀ entry, answer = some entry → entry ∈ codes.rows ∧ entry.code = code ∧
        now ≤ entry.expiresAt := by
  have hrest : ∀ e ∈ (codes.filter fun entry => !decide (entry.code = code)).rows,
      e ∈ codes.rows ∧ e.code ≠ code := by
    intro e he
    obtain ⟨hold, hne⟩ := List.mem_filter.mp he
    exact ⟨hold, by simpa using hne⟩
  simp only [consumeDeviceCode] at h
  split at h
  · obtain ⟨rfl, rfl⟩ := Prod.mk.inj h
    exact ⟨hrest, fun _ h => absurd h.symm (Option.some_ne_none _)⟩
  next found hfound =>
    obtain ⟨hmem, hcode⟩ := Table.mem_of_get hfound
    split at h
    · obtain ⟨rfl, rfl⟩ := Prod.mk.inj h
      exact ⟨hrest, fun _ h => absurd h.symm (Option.some_ne_none _)⟩
    next hnow =>
      obtain ⟨rfl, rfl⟩ := Prod.mk.inj h
      refine ⟨hrest, ?_⟩
      rintro entry ⟨⟩
      exact ⟨hmem, hcode, Int.not_lt.mp hnow⟩

/-! ### One step each -/

theorem inv_authorize (h : Inv S s steps) {state wsId codeChallenge redirectUri idpId : String}
    {createdAt expiresAt : Int} (hfresh : state ∉ s.authorizes.map Authorize.state)
    (hchallenge : codeChallenge ≠ "") :
    Inv S { s with
      deviceAuthRequests := s.deviceAuthRequests.put
        ⟨state, wsId, codeChallenge, redirectUri, idpId, createdAt, expiresAt⟩
      authorizes := s.authorizes ++ [⟨state, wsId, codeChallenge, steps⟩] } (steps + 1) := by
  have hgrow : ∀ a ∈ s.authorizes, a ∈ s.authorizes ++ [⟨state, wsId, codeChallenge, steps⟩] :=
    fun a ha => List.mem_append_left _ ha
  have hnew : ∀ a : Authorize, a = ⟨state, wsId, codeChallenge, steps⟩ →
      a ∈ s.authorizes ++ [⟨state, wsId, codeChallenge, steps⟩] :=
    fun a ha => List.mem_append_right _ (List.mem_singleton.mpr ha)
  refine { inv_mono h (Nat.le_succ steps) with
    authorizeOnce := ?_, authorized := ?_, stored := ?_, rows := ?_, passed := ?_, phases := ?_ }
  · exact nodup_keys_append h.authorizeOnce hfresh
  · intro a ha
    rcases List.mem_append.mp ha with hold | hlast
    · exact ⟨(h.authorized a hold).1, Nat.lt_succ_of_lt (h.authorized a hold).2⟩
    · obtain rfl := List.mem_singleton.mp hlast
      exact ⟨hchallenge, Nat.lt_succ_self steps⟩
  · intro p hp
    obtain ⟨a, ha, hstate⟩ := h.stored p hp
    exact ⟨a, hgrow a ha, hstate⟩
  · intro row hrow
    rcases Table.mem_rows_put.mp hrow with rfl | ⟨hold, -⟩
    · exact ⟨_, hnew _ rfl, rfl, rfl, rfl⟩
    · obtain ⟨a, ha, hrest⟩ := h.rows row hold
      exact ⟨a, hgrow a ha, hrest⟩
  · intro c hc
    obtain ⟨⟨a, ha, hrest⟩, hbound⟩ := h.passed c hc
    exact ⟨⟨a, hgrow a ha, hrest⟩, Nat.lt_succ_of_lt hbound⟩
  · intro c hc
    exact phaseSound_mono hgrow (Nat.le_succ steps) (h.phases c hc)

theorem inv_storeState (h : Inv S s steps) {a : Authorize} (ha : a ∈ s.authorizes)
    (hfirst : a.state ∉ s.storedStates.map Prod.fst) :
    Inv S { s with
      oauthStates := storeOAuthState s.oauthStates a.state s.now
      storedStates := s.storedStates ++ [(a.state, s.now)] } steps := by
  have hgrow : ∀ p ∈ s.storedStates, p ∈ s.storedStates ++ [(a.state, s.now)] :=
    fun p hp => List.mem_append_left _ hp
  refine { h with storedOnce := ?_, stored := ?_, states := ?_, passed := ?_ }
  · exact nodup_keys_append h.storedOnce hfirst
  · intro p hp
    rcases List.mem_append.mp hp with hold | hlast
    · exact h.stored p hold
    · obtain rfl := List.mem_singleton.mp hlast
      exact ⟨a, ha, rfl⟩
  · intro e he hdevice
    rcases mem_storeOAuthState he with rfl | ⟨hold, -⟩
    · refine ⟨⟨s.now, List.mem_append_right _ (List.mem_singleton_self _), rfl⟩, ?_⟩
      -- a callback with this state would have passed before it was stored
      intro c hc hstate
      obtain ⟨⟨_, _, _, _, storedAt, hstored, -⟩, -⟩ := h.passed c hc
      exact hfirst (List.mem_map.mpr ⟨_, hstored, hstate⟩)
    · obtain ⟨⟨storedAt, hstored, hexpires⟩, hunused⟩ := h.states e hold hdevice
      exact ⟨⟨storedAt, hgrow _ hstored, hexpires⟩, hunused⟩
  · intro c hc
    obtain ⟨⟨a', ha', hstate, hearlier, storedAt, hstored, hin⟩, hbound⟩ := h.passed c hc
    exact ⟨⟨a', ha', hstate, hearlier, storedAt, hgrow _ hstored, hin⟩, hbound⟩

theorem givenOut_append {callbacks : List Callback} {c : Callback} {entry : DeviceCodeEntry}
    {storedAt : SystemTime} {stamp : Nat} (h : GivenOut callbacks entry storedAt stamp) :
    GivenOut (callbacks ++ [c]) entry storedAt stamp := by
  obtain ⟨d, hd, hphase⟩ := h
  exact ⟨d, List.mem_append_left _ hd, hphase⟩

theorem inv_callback (h : Inv S s steps) {stateParam : String} {oauthStates : OAuthStates}
    (hdevice : hasDevicePrefix stateParam = true)
    (hconsume : consumeOAuthState s.oauthStates stateParam s.now = (oauthStates, true)) :
    Inv S { s with
      oauthStates
      callbacks := s.callbacks ++ [⟨stateParam, s.now, steps, .passed⟩] } (steps + 1) := by
  obtain ⟨e, he, rfl, hnow, hrest⟩ := consumeOAuthState_accepts hconsume
  obtain ⟨⟨storedAt, hstored, hexpires⟩, hunused⟩ := h.states e he hdevice
  obtain ⟨a, ha, hstate⟩ := h.stored _ hstored
  refine { inv_mono h (Nat.le_succ steps) with
    states := ?_, callbackOnce := ?_, passed := ?_, phases := ?_, codeOnce := ?_, codes := ?_,
    exchanges := ?_ }
  · intro e' he' hdevice'
    obtain ⟨hold, hne⟩ := hrest e' he'
    obtain ⟨hstored', hunused'⟩ := h.states e' hold hdevice'
    refine ⟨hstored', ?_⟩
    intro c hc
    rcases List.mem_append.mp hc with hc | hc
    · exact hunused' c hc
    · obtain rfl := List.mem_singleton.mp hc
      exact hne.symm
  · refine nodup_keys_append h.callbackOnce ?_
    intro hmem
    obtain ⟨c, hc, hceq⟩ := List.mem_map.mp hmem
    exact hunused c hc hceq
  · intro c hc
    rcases List.mem_append.mp hc with hc | hc
    · exact ⟨(h.passed c hc).1, Nat.lt_succ_of_lt (h.passed c hc).2⟩
    · obtain rfl := List.mem_singleton.mp hc
      exact ⟨⟨a, ha, hstate, (h.authorized a ha).2, storedAt, hstored, hexpires ▸ hnow⟩,
        Nat.lt_succ_self steps⟩
  · intro c hc
    rcases List.mem_append.mp hc with hc | hc
    · exact phaseSound_mono (fun _ h => h) (Nat.le_succ steps) (h.phases c hc)
    · obtain rfl := List.mem_singleton.mp hc
      trivial
  · intro c hc d hd code hccode hdcode
    rcases List.mem_append.mp hc with hc | hc
    · rcases List.mem_append.mp hd with hd | hd
      · exact h.codeOnce c hc d hd code hccode hdcode
      · obtain rfl := List.mem_singleton.mp hd
        cases hdcode
    · obtain rfl := List.mem_singleton.mp hc
      cases hccode
  · intro entry hentry
    obtain ⟨⟨storedAt', stamp, hgiven⟩, hunused'⟩ := h.codes entry hentry
    exact ⟨⟨storedAt', stamp, givenOut_append hgiven⟩, hunused'⟩
  · intro x hx
    obtain ⟨⟨⟨storedAt', stamp, hgiven, hin⟩, hverified, hminted⟩, hbound⟩ := h.exchanges x hx
    exact ⟨⟨⟨storedAt', stamp, givenOut_append hgiven, hin⟩, hverified, hminted⟩,
      Nat.lt_succ_of_lt hbound⟩

/-! ### A callback moves on -/

section

variable {n : Nat} {c : Callback} {phase : Phase}

theorem givenOut_set (hc : s.callbacks[n]? = some c) (hcode : c.phase.code = none)
    {entry : DeviceCodeEntry} {storedAt : SystemTime} {stamp : Nat}
    (h : GivenOut s.callbacks entry storedAt stamp) :
    GivenOut (s.callbacks.set n { c with phase }) entry storedAt stamp := by
  obtain ⟨d, hd, row, emailAddr, hphase⟩ := h
  refine ⟨d, Publish.mem_set_of_mem hc hd ?_, row, emailAddr, hphase⟩
  rintro rfl
  rw [hphase] at hcode
  cases hcode

/-- A callback's code is none that was given out, or it gives out a fresh one. -/
theorem inv_setCallback (h : Inv S s steps) (hc : s.callbacks[n]? = some c)
    (hcode : c.phase.code = none) (hsound : phase.Sound S s.authorizes c (steps + 1))
    (hfresh : ∀ code, phase.code = some code → ∀ d ∈ s.callbacks, d.phase.code ≠ some code) :
    Inv S (s.setCallback n c phase) (steps + 1) := by
  have hmem := List.mem_of_getElem? hc
  have hset : ∀ d ∈ s.callbacks.set n { c with phase }, d ∈ s.callbacks ∨ d = { c with phase } :=
    fun d hd => List.mem_or_eq_of_mem_set hd
  refine { inv_mono h (Nat.le_succ steps) with
    states := ?_, callbackOnce := ?_, passed := ?_, phases := ?_, codeOnce := ?_, codes := ?_,
    exchanges := ?_ }
  · intro e he hdevice
    obtain ⟨hstored, hunused⟩ := h.states e he hdevice
    refine ⟨hstored, ?_⟩
    intro d hd
    rcases hset d hd with hold | rfl
    · exact hunused d hold
    · exact hunused c hmem
  · have hkept : (s.callbacks.set n { c with phase }).map Callback.state =
        s.callbacks.map Callback.state := Publish.map_set_of_eq Callback.state hc rfl
    exact hkept ▸ h.callbackOnce
  · intro d hd
    rcases hset d hd with hold | rfl
    · exact ⟨(h.passed d hold).1, Nat.lt_succ_of_lt (h.passed d hold).2⟩
    · exact ⟨(h.passed c hmem).1, Nat.lt_succ_of_lt (h.passed c hmem).2⟩
  · intro d hd
    rcases hset d hd with hold | rfl
    · exact phaseSound_mono (fun _ h => h) (Nat.le_succ steps) (h.phases d hold)
    · exact phaseSound_mono (fun _ h => h) le_rfl hsound
  · intro d hd d' hd' code hdcode hdcode'
    rcases hset d hd with hold | rfl <;> rcases hset d' hd' with hold' | rfl
    · exact h.codeOnce d hold d' hold' code hdcode hdcode'
    · exact absurd hdcode (hfresh code hdcode' d hold)
    · exact absurd hdcode' (hfresh code hdcode d' hold')
    · rfl
  · intro entry hentry
    obtain ⟨⟨storedAt, stamp, hgiven⟩, hunused⟩ := h.codes entry hentry
    exact ⟨⟨storedAt, stamp, givenOut_set hc hcode hgiven⟩, hunused⟩
  · intro x hx
    obtain ⟨⟨⟨storedAt, stamp, hgiven, hin⟩, hverified, hminted⟩, hbound⟩ := h.exchanges x hx
    exact ⟨⟨⟨storedAt, stamp, givenOut_set hc hcode hgiven, hin⟩, hverified, hminted⟩,
      Nat.lt_succ_of_lt hbound⟩

end

theorem inv_addCode (h : Inv S s steps) {entry : DeviceCodeEntry} {storedAt now : SystemTime}
    {stamp : Nat} (hgiven : GivenOut s.callbacks entry storedAt stamp)
    (hunused : ∀ x ∈ s.exchanges, x.entry.code ≠ entry.code) :
    Inv S { s with deviceCodes := storeDeviceCode s.deviceCodes entry now } steps := by
  refine { h with codes := ?_ }
  intro e he
  rcases mem_storeDeviceCode he with rfl | ⟨hold, -⟩
  · exact ⟨⟨storedAt, stamp, hgiven⟩, hunused⟩
  · exact h.codes e hold

theorem inv_storeCode (h : Inv S s steps) {n : Nat} {c : Callback} {row : AuthRequest}
    {emailAddr ctrlCode : String} (hc : s.callbacks[n]? = some c)
    (hphase : c.phase = .identified row emailAddr)
    (hfresh : some ctrlCode ∉ s.callbacks.map fun c => c.phase.code) :
    Inv S (State.setCallback
      { s with
        deviceCodes := storeDeviceCode s.deviceCodes (codeEntry S s row emailAddr ctrlCode) s.now }
      n c (.stored row emailAddr (codeEntry S s row emailAddr ctrlCode) s.now steps))
      (steps + 1) := by
  have hmem := List.mem_of_getElem? hc
  have hnone : ∀ d ∈ s.callbacks, d.phase.code ≠ some ctrlCode :=
    fun d hd hcode => hfresh (List.mem_map.mpr ⟨d, hd, hcode⟩)
  have hsound := h.phases c hmem
  rw [hphase] at hsound
  have hset : Inv S (s.setCallback n c
      (.stored row emailAddr (codeEntry S s row emailAddr ctrlCode) s.now steps)) (steps + 1) := by
    refine inv_setCallback h hc (by rw [hphase]; rfl) ?_ ?_
    · exact ⟨hsound, ⟨rfl, rfl, rfl, rfl, rfl⟩, (h.passed c hmem).2, Nat.lt_succ_self steps⟩
    · rintro code ⟨⟩
      exact hnone
  refine inv_addCode hset ⟨_, List.mem_set (List.getElem?_eq_some_iff.mp hc).1 _, row, emailAddr,
    rfl⟩ fun x hx hcode => ?_
  obtain ⟨⟨⟨storedAt, stamp, ⟨d, hd, row', emailAddr', hgiven⟩, -⟩, -, -⟩, -⟩ := h.exchanges x hx
  refine hnone d hd ?_
  rw [hgiven]
  exact congrArg some hcode

/-! ### A code is exchanged -/

/-- What a callback says of a code it has given out. -/
theorem givenOut_sound (h : Inv S s steps) {entry : DeviceCodeEntry} {storedAt : SystemTime}
    {stamp : Nat} (hgiven : GivenOut s.callbacks entry storedAt stamp) :
    ∃ c ∈ s.callbacks, ∃ a ∈ s.authorizes, ∃ emailAddr,
      c.phase.code = some entry.code ∧ a.state = c.state ∧ entry.state = c.state ∧
      entry.wsId = a.wsId ∧ entry.codeChallenge = a.codeChallenge ∧
      entry.email = S.unicode.stringsToLower emailAddr ∧ entry.expiresAt = storedAt + codeTtl ∧
      (∃ row, c.phase = .stored row emailAddr entry storedAt stamp) ∧ c.stamp < stamp ∧
      stamp < steps := by
  obtain ⟨c, hc, row, emailAddr, hphase⟩ := hgiven
  have hsound := h.phases c hc
  rw [hphase] at hsound
  obtain ⟨⟨hstate, a, ha, hastate, hwsId, hchallenge⟩, hmade, hearlier, hbound⟩ := hsound
  refine ⟨c, hc, a, ha, emailAddr, ?_, hastate.trans hstate, hmade.state.trans hstate,
    hmade.wsId.trans hwsId.symm, hmade.codeChallenge.trans hchallenge.symm, hmade.email,
    hmade.expiresAt, ⟨row, hphase⟩, hearlier, hbound⟩
  rw [hphase]
  rfl

theorem verifyPkce_eq {entry : DeviceCodeEntry} {codeVerifier : String}
    (hchallenge : entry.codeChallenge ≠ "") (h : verifyPkce S entry codeVerifier ≠ .refused) :
    S.challenge codeVerifier = entry.codeChallenge := by
  by_contra hne
  exact h (if_pos ⟨hchallenge, hne⟩)

theorem verifyPkce_ne_minted (entry : DeviceCodeEntry) (codeVerifier : String) (t : Token) :
    verifyPkce S entry codeVerifier ≠ .minted t := by
  unfold verifyPkce
  split <;> exact nofun

theorem inv_token (h : Inv S s steps) {code codeVerifier : String} {deviceCodes : DeviceCodes}
    {entry : DeviceCodeEntry}
    (hconsume : consumeDeviceCode s.deviceCodes code s.now = (deviceCodes, some entry)) :
    Inv S { s with
      deviceCodes
      exchanges := s.exchanges ++
        [⟨entry, codeVerifier, s.now, steps, verifyPkce S entry codeVerifier⟩] } (steps + 1) := by
  obtain ⟨hrest, haccepted⟩ := consumeDeviceCode_cases hconsume
  obtain ⟨hmem, rfl, hnow⟩ := haccepted entry rfl
  obtain ⟨⟨storedAt, stamp, hgiven⟩, hunused⟩ := h.codes entry hmem
  obtain ⟨c, hc, a, ha, emailAddr, -, -, -, -, hchallenge, -, hexpires, -, -, hbound⟩ :=
    givenOut_sound h hgiven
  refine { inv_mono h (Nat.le_succ steps) with codes := ?_, exchangeOnce := ?_, exchanges := ?_ }
  · intro e he
    obtain ⟨hold, hne⟩ := hrest e he
    obtain ⟨hgiven', hunused'⟩ := h.codes e hold
    refine ⟨hgiven', ?_⟩
    intro x hx
    rcases List.mem_append.mp hx with hx | hx
    · exact hunused' x hx
    · obtain rfl := List.mem_singleton.mp hx
      exact hne.symm
  · refine nodup_keys_append h.exchangeOnce ?_
    intro hused
    obtain ⟨x, hx, hcode⟩ := List.mem_map.mp hused
    exact hunused x hx hcode
  · intro x hx
    rcases List.mem_append.mp hx with hx | hx
    · exact ⟨(h.exchanges x hx).1, Nat.lt_succ_of_lt (h.exchanges x hx).2⟩
    · obtain rfl := List.mem_singleton.mp hx
      refine ⟨⟨⟨storedAt, stamp, hgiven, hbound, hexpires ▸ hnow⟩, fun hphase => ?_, ?_⟩,
        Nat.lt_succ_self steps⟩
      · refine verifyPkce_eq ?_ hphase
        rw [hchallenge]
        exact (h.authorized a ha).1
      · intro t ht
        exact absurd ht (verifyPkce_ne_minted entry codeVerifier t)

theorem mintPhase_eq {entry : DeviceCodeEntry} {userId sessionId : String} {now : SystemTime}
    {t : Token} (h : mintPhase S entry userId sessionId now = .minted t) :
    t.claims.sub = entry.email ∧ t.claims.wid = some entry.wsId := by
  unfold mintPhase at h
  split at h
  · cases h
  next t' hsign =>
    obtain ⟨-, rfl⟩ := signedString_ok hsign
    cases h
    exact ⟨rfl, rfl⟩

theorem inv_mint (h : Inv S s steps) {n : Nat} {x : Exchange} {userId sessionId : String}
    {now : SystemTime} (hx : s.exchanges[n]? = some x) (hphase : x.phase = .verified) :
    Inv S (s.setExchange n x (mintPhase S x.entry userId sessionId now)) steps := by
  have hmem := List.mem_of_getElem? hx
  have hset : ∀ y ∈ s.exchanges.set n { x with phase := mintPhase S x.entry userId sessionId now },
      y ∈ s.exchanges ∨ y = { x with phase := mintPhase S x.entry userId sessionId now } :=
    fun y hy => List.mem_or_eq_of_mem_set hy
  refine { h with codes := ?_, exchangeOnce := ?_, exchanges := ?_ }
  · intro e he
    obtain ⟨hgiven, hunused⟩ := h.codes e he
    refine ⟨hgiven, ?_⟩
    intro y hy
    rcases hset y hy with hold | rfl
    · exact hunused y hold
    · exact hunused x hmem
  · have hkept : (s.exchanges.set n
        { x with phase := mintPhase S x.entry userId sessionId now }).map (fun y => y.entry.code) =
        s.exchanges.map fun y => y.entry.code := Publish.map_set_of_eq _ hx rfl
    exact hkept ▸ h.exchangeOnce
  · intro y hy
    rcases hset y hy with hold | rfl
    · exact h.exchanges y hold
    · obtain ⟨⟨hgiven, hverified, -⟩, hbound⟩ := h.exchanges x hmem
      refine ⟨⟨hgiven, fun _ => hverified ?_, fun t ht => mintPhase_eq ht⟩, hbound⟩
      rw [hphase]
      exact nofun

theorem readPhase_sound (h : Inv S s steps) {c : Callback} {steps' : Nat} :
    (readPhase s c.state).Sound S s.authorizes c steps' ∧ (readPhase s c.state).code = none := by
  unfold readPhase
  split
  · exact ⟨trivial, rfl⟩
  next row hrow =>
    obtain ⟨hmem, hstate⟩ := Table.mem_of_get hrow
    split
    · exact ⟨trivial, rfl⟩
    · exact ⟨⟨hstate, h.rows row hmem⟩, rfl⟩

/-- A phase that gives out no code. -/
theorem inv_setCallback_of_none (h : Inv S s steps) {n : Nat} {c : Callback} {phase : Phase}
    (hc : s.callbacks[n]? = some c) (hcode : c.phase.code = none)
    (hsound : phase.Sound S s.authorizes c (steps + 1)) (hnone : phase.code = none) :
    Inv S (s.setCallback n c phase) (steps + 1) := by
  refine inv_setCallback h hc hcode hsound fun code hsome => ?_
  rw [hnone] at hsome
  cases hsome

theorem challenge_of_resolve {req : AuthorizeRequest} {idpId : Option String} {wsId : String}
    (h : resolveAuthorize S s req idpId = .ok wsId) : req.codeChallenge ≠ "" := by
  unfold resolveAuthorize at h
  split at h
  · cases h
  next hrequired =>
    intro hempty
    exact hrequired (Or.inr (Or.inl hempty))

end

theorem inv_next {S : DeviceServer} {s s' : State} {e : Event} (h : Inv S s s.steps)
    (hnext : next S s e = some s') : Inv S s' (s.steps + 1) := by
  cases e with
  | authorize req idpId csrfState inserted =>
      simp only [next] at hnext
      split at hnext
      · cases hnext
        exact inv_mono h (Nat.le_succ _)
      next wsId hresolve =>
        split at hnext
        · cases hnext
        next hfresh =>
          split at hnext
          · cases hnext
            exact inv_mono h (Nat.le_succ _)
          · cases hnext
            exact inv_authorize h hfresh (challenge_of_resolve hresolve)
  | storeState n =>
      simp only [next] at hnext
      split at hnext
      · cases hnext
      next a ha =>
        split at hnext
        · cases hnext
        next hfirst =>
          cases hnext
          exact inv_mono (inv_storeState h (List.mem_of_getElem? ha) hfirst) (Nat.le_succ _)
  | otherState state =>
      simp only [next] at hnext
      split at hnext
      · cases hnext
      next hother =>
        cases hnext
        refine inv_mono (inv_of_subset h (fun e he => ?_) (fun _ hr => hr) fun _ he => he)
          (Nat.le_succ _)
        rcases mem_storeOAuthState he with rfl | ⟨hold, -⟩
        · exact Or.inr (Bool.eq_false_iff.mpr hother)
        · exact Or.inl hold
  | otherConsume state =>
      cases hnext
      exact inv_mono (inv_of_subset h (fun e he => Or.inl (mem_consumeOAuthState he))
        (fun _ hr => hr) fun _ he => he) (Nat.le_succ _)
  | callback stateParam =>
      simp only [next] at hnext
      split at hnext
      · cases hnext
        exact inv_mono h (Nat.le_succ _)
      next hdevice =>
        rw [Bool.not_eq_true', Bool.not_eq_false] at hdevice
        split at hnext
        next hok =>
          cases hnext
          exact inv_callback h hdevice (Prod.ext rfl hok)
        · cases hnext
          exact inv_mono (inv_of_subset h (fun e he => Or.inl (mem_consumeOAuthState he))
            (fun _ hr => hr) fun _ he => he) (Nat.le_succ _)
  | readRow n executed =>
      simp only [next] at hnext
      split at hnext
      next state passedAt stamp hc =>
        cases hnext
        cases executed with
        | true =>
            obtain ⟨hsound, hnone⟩ := readPhase_sound h (c := ⟨state, passedAt, stamp, .passed⟩)
            exact inv_setCallback_of_none h hc rfl hsound hnone
        | false => exact inv_setCallback_of_none h hc rfl trivial rfl
      · cases hnext
  | deleteRow n executed =>
      simp only [next] at hnext
      split at hnext
      next state passedAt stamp row hc =>
        cases hnext
        have hsound := h.phases _ (List.mem_of_getElem? hc)
        have hset : Inv S (s.setCallback n ⟨state, passedAt, stamp, .read row⟩ (.deleted row))
            (s.steps + 1) := inv_setCallback_of_none h hc rfl hsound rfl
        refine inv_of_subset hset (fun e he => Or.inl he) (fun r hr => ?_) fun _ he => he
        split at hr
        · exact (List.mem_filter.mp hr).1
        · exact hr
      · cases hnext
  | identify n emailAddr =>
      simp only [next] at hnext
      split at hnext
      next state passedAt stamp row hc =>
        cases hnext
        have hsound := h.phases _ (List.mem_of_getElem? hc)
        split
        · exact inv_setCallback_of_none h hc rfl trivial rfl
        · split
          · exact inv_setCallback_of_none h hc rfl trivial rfl
          · exact inv_setCallback_of_none h hc rfl hsound rfl
      · cases hnext
  | storeCode n ctrlCode =>
      simp only [next] at hnext
      split at hnext
      next state passedAt stamp row emailAddr hc =>
        split at hnext
        · cases hnext
        next hfresh =>
          cases hnext
          exact inv_storeCode h hc rfl hfresh
      · cases hnext
  | token code codeVerifier =>
      simp only [next] at hnext
      split at hnext
      · cases hnext
        exact inv_mono h (Nat.le_succ _)
      · split at hnext
        next deviceCodes hconsume =>
          cases hnext
          exact inv_mono (inv_of_subset h (fun e he => Or.inl he) (fun _ hr => hr)
            fun e he => ((consumeDeviceCode_cases hconsume).1 e he).1) (Nat.le_succ _)
        next deviceCodes entry hconsume =>
          cases hnext
          exact inv_token h hconsume
  | mint n userId sessionId =>
      simp only [next] at hnext
      split at hnext
      next entry codeVerifier acceptedAt stamp hx =>
        cases hnext
        exact inv_mono (inv_mint h hx rfl) (Nat.le_succ _)
      · cases hnext
  | workspaces workspaces =>
      cases hnext
      exact inv_mono { h with } (Nat.le_succ _)
  | tick now =>
      simp only [next] at hnext
      split at hnext
      · cases hnext
        exact inv_mono { h with } (Nat.le_succ _)
      · cases hnext

theorem inv_step {S : DeviceServer} {s s' : State} {e : Event} (h : Inv S s s.steps)
    (hstep : step S s e = some s') : Inv S s' s'.steps := by
  obtain ⟨t, ht, rfl⟩ := Option.map_eq_some_iff.mp hstep
  exact { inv_next h ht with }

/-! ## One token, one callback, one authorize -/

/-- The exchange goes back to the callback that gave its code out, and to the authorize call
of that callback's state. -/
structure GoesBackTo (S : DeviceServer) (s : State) (x : Exchange) (c : Callback) (a : Authorize)
    (emailAddr : String) : Prop where
  /-- The callback asked the identity provider and stored the code, and no other did. -/
  stored : ∃ row storedAt stamp, c.phase = .stored row emailAddr x.entry storedAt stamp ∧
    c.stamp < stamp ∧ stamp < x.stamp ∧ x.acceptedAt ≤ storedAt + codeTtl
  onlyCallback : ∀ d ∈ s.callbacks, d.phase.code = some x.entry.code → d = c
  /-- The authorize call made the state, and no other did. -/
  state : a.state = c.state ∧ x.entry.state = a.state
  onlyAuthorize : ∀ b ∈ s.authorizes, b.state = a.state → b = a
  earlier : a.stamp < c.stamp

theorem goesBackTo {S : DeviceServer} {s : State} {steps : Nat} (h : Inv S s steps) {x : Exchange}
    (hx : x ∈ s.exchanges) :
    ∃ c ∈ s.callbacks, ∃ a ∈ s.authorizes, ∃ emailAddr, GoesBackTo S s x c a emailAddr ∧
      x.entry.wsId = a.wsId ∧ x.entry.codeChallenge = a.codeChallenge ∧
      x.entry.email = S.unicode.stringsToLower emailAddr := by
  obtain ⟨⟨storedAt, stamp, hgiven, hlater, hin⟩, -, -⟩ := (h.exchanges x hx).1
  obtain ⟨c, hc, a, ha, emailAddr, hcode, hstate, hentry, hwsId, hchallenge, hemail, -,
    ⟨row, hphase⟩, hearlier, -⟩ := givenOut_sound h hgiven
  have honly : ∀ b ∈ s.authorizes, b.state = a.state → b = a :=
    fun b hb heq => List.inj_on_of_nodup_map h.authorizeOnce hb ha heq
  obtain ⟨⟨b, hb, hbstate, hbearlier, -⟩, -⟩ := h.passed c hc
  obtain rfl : b = a := honly b hb (hbstate.trans hstate.symm)
  exact ⟨c, hc, b, hb, emailAddr,
    ⟨⟨row, storedAt, stamp, hphase, hearlier, hlater, hin⟩,
      fun d hd hdcode => h.codeOnce d hd c hc x.entry.code hdcode hcode,
      ⟨hstate, hentry.trans hstate.symm⟩, honly, hbearlier⟩,
    hwsId, hchallenge, hemail⟩

/-- At most one exchange for a state. -/
theorem exchanges_nodup {S : DeviceServer} {s : State} {steps : Nat} (h : Inv S s steps) :
    (s.exchanges.map fun x => x.entry.state).Nodup := by
  have hcodes := List.pairwise_map.mp h.exchangeOnce
  refine List.pairwise_map.mpr (hcodes.imp_of_mem fun {x y} hx hy hne hstate => hne ?_)
  obtain ⟨c, hc, a, -, _, hbackx, -⟩ := goesBackTo h hx
  obtain ⟨d, hd, b, -, _, hbacky, -⟩ := goesBackTo h hy
  -- the same state means the same callback, and a callback stores one code
  have hcd : c.state = d.state := by
    rw [← hbackx.state.1, ← hbackx.state.2, ← hbacky.state.1, ← hbacky.state.2, hstate]
  obtain rfl : c = d := List.inj_on_of_nodup_map h.callbackOnce hc hd hcd
  obtain ⟨_, _, _, hphase, -⟩ := hbackx.stored
  obtain ⟨_, _, _, hphase', -⟩ := hbacky.stored
  rw [hphase] at hphase'
  exact congrArg DeviceCodeEntry.code (Phase.stored.inj hphase').2.2.1

/-- **The device flow binds each token to one authorize call.**  In every state reached:
a token that was minted goes back to exactly one callback and exactly one authorize call,
both earlier; its verifier hashes to that authorize's challenge, its workspace is the one
that authorize resolved, and its e-mail is what the identity provider told that callback, in
lower case.  At most one code is accepted per authorize call, none later than 60 seconds
after its callback stored it, and no callback passes its state check later than 10 minutes
after the state was stored. -/
theorem device_flow_bound (S : DeviceServer) (now : SystemTime)
    (workspaces : Table WorkspaceRow.id) (es : List Event) (s : State)
    (hrun : run (step S) (.init now workspaces) es = some s) :
    (∀ x ∈ s.exchanges, ∀ t, x.phase = .minted t →
      ∃ c ∈ s.callbacks, ∃ a ∈ s.authorizes, ∃ emailAddr, GoesBackTo S s x c a emailAddr ∧
        S.challenge x.codeVerifier = a.codeChallenge ∧ t.claims.wid = some a.wsId ∧
        t.claims.sub = S.unicode.stringsToLower emailAddr) ∧
    (s.exchanges.map fun x => x.entry.state).Nodup ∧
    (∀ x ∈ s.exchanges, ∃ c ∈ s.callbacks, ∃ a ∈ s.authorizes, ∃ emailAddr,
      GoesBackTo S s x c a emailAddr) ∧
    (∀ c ∈ s.callbacks, ∃ a ∈ s.authorizes, a.state = c.state ∧ ∃ storedAt,
      (a.state, storedAt) ∈ s.storedStates ∧
      (∀ p ∈ s.storedStates, p.1 = a.state → p.2 = storedAt) ∧
      c.passedAt ≤ storedAt + stateTtl) := by
  have h : Inv S s s.steps :=
    run_invariant (motive := fun s => Inv S s s.steps) (fun _ _ _ h hstep => inv_step h hstep)
      (inv_init S now workspaces) hrun
  refine ⟨fun x hx t ht => ?_, exchanges_nodup h, fun x hx => ?_, fun c hc => ?_⟩
  · obtain ⟨c, hc, a, ha, emailAddr, hback, hwsId, hchallenge, hemail⟩ := goesBackTo h hx
    obtain ⟨-, hverified, hminted⟩ := (h.exchanges x hx).1
    obtain ⟨hsub, hwid⟩ := hminted t ht
    refine ⟨c, hc, a, ha, emailAddr, hback, ?_, ?_, ?_⟩
    · refine (hverified ?_).trans hchallenge
      rw [ht]
      exact nofun
    · rw [hwid, hwsId]
    · rw [hsub, hemail]
  · obtain ⟨c, hc, a, ha, emailAddr, hback, -⟩ := goesBackTo h hx
    exact ⟨c, hc, a, ha, emailAddr, hback⟩
  · obtain ⟨⟨a, ha, hstate, -, storedAt, hstored, hin⟩, -⟩ := h.passed c hc
    refine ⟨a, ha, hstate, storedAt, hstate ▸ hstored, fun p hp heq => ?_, hin⟩
    have hpair : p = (c.state, storedAt) :=
      List.inj_on_of_nodup_map h.storedOnce hp hstored (heq.trans hstate)
    rw [hpair]

/-! ### A login -/

def exampleVerifier : String := "dBjftJeZ4CVP-mB92K27uhbUJU1p1r_wW1gFWFOEjXk"

/-- SHA-256 recorded at this verifier. -/
def exampleDeviceServer : DeviceServer where
  toServer := exampleServer
  sha256 _ :=
    [19, 211, 30, 150, 26, 26, 216, 236, 47, 22, 177, 12, 76, 152, 46, 8, 118, 168, 120, 173,
    109, 241, 68, 86, 110, 225, 137, 74, 203, 112, 249, 195]
  isLoopbackUri uri := uri = "http://127.0.0.1:9000/callback"

def exampleRequest : AuthorizeRequest where
  tenantSlug := "acme"
  codeChallenge := "E9Melhoa2OwvFrEMTJguCHaoeK1t8URWbuGJSstw-cM"
  codeChallengeMethod := "S256"
  redirectUri := "http://127.0.0.1:9000/callback"

example : exampleDeviceServer.challenge exampleVerifier = exampleRequest.codeChallenge := by decide

/-- The flow from one end to the other, for a user of the identity provider. -/
def deviceLogin (emailAddr : String) : List Event :=
  [.authorize exampleRequest (some "") "0cc175b9c0f1b6a8" true, .storeState 0,
   .callback "device:0cc175b9c0f1b6a8", .readRow 0 true, .deleteRow 0 true,
   .identify 0 (some emailAddr), .storeCode 0 "92eb5ffee6ae2fec",
   .token "92eb5ffee6ae2fec" exampleVerifier, .mint 0 "usr_1" "5f4dcc3b5aa765d6"]

theorem deviceLogin_bound :
    ∃ s x t, run (step exampleDeviceServer)
        (.init (1735690200 * nanosPerSec) exampleDirectory.workspaces)
        (deviceLogin "alice@acme.io") = some s ∧ x ∈ s.exchanges ∧ x.phase = .minted t ∧
      ∃ c ∈ s.callbacks, ∃ a ∈ s.authorizes, ∃ emailAddr,
        GoesBackTo exampleDeviceServer s x c a emailAddr ∧
        exampleDeviceServer.challenge x.codeVerifier = a.codeChallenge ∧
        t.claims.wid = some a.wsId ∧
        t.claims.sub = exampleDeviceServer.unicode.stringsToLower emailAddr := by
  refine ⟨_, _, _, rfl, List.mem_singleton_self _, rfl, ?_⟩
  exact (device_flow_bound exampleDeviceServer (1735690200 * nanosPerSec)
    exampleDirectory.workspaces (deviceLogin "alice@acme.io") _ rfl).1 _
    (List.mem_singleton_self _) _ rfl

/-- The token does not have the e-mail as the identity provider spells it. -/
theorem deviceLogin_lowerCase :
    ∃ s x t c row storedAt stamp, run (step exampleDeviceServer)
        (.init (1735690200 * nanosPerSec) exampleDirectory.workspaces)
        (deviceLogin "Alice@Acme.io") = some s ∧ s.exchanges = [x] ∧ x.phase = .minted t ∧
      s.callbacks = [c] ∧ c.phase = .stored row "Alice@Acme.io" x.entry storedAt stamp ∧
      t.claims.sub ≠ "Alice@Acme.io" := by
  refine ⟨_, _, _, _, _, _, _, rfl, rfl, rfl, rfl, rfl, ?_⟩
  decide

end ZeroTrust.Admin.DeviceFlow
