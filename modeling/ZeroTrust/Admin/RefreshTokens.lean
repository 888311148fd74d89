/-
# `ZeroTrust.Admin.RefreshTokens` — rotation of device refresh tokens

A device session's row holds the hash of one refresh token.  Two handlers of
`handlers_device_auth.go` present tokens, each with a read and a later write:

    handleDeviceRefresh    GetByRefreshTokenHash, check; then UpdateRefreshToken, answer
    handleDeviceRevoke     GetByRefreshTokenHash; then Revoke, answer

`UpdateRefreshToken` names the session's id only.  Between the read and the write of one
request any number of others may have rotated or revoked the row, and the write goes
through all the same.  A revocation whose read finds no row, because the token has been
rotated since it was given out, writes nothing and has the same answer as any other.
`handleDeviceToken` creates the rows.

    `inv_step`              as long as every rotation finds the row not revoked and with
                            the hash it looked up, and every revocation finds its row, a
                            token is live in at most one row
    `redeemed_once_iff`     so it is redeemed at most once, and not after a revocation;
                            and the first rotation that does not breaks this

`randomHex` is fresh: no token and no session id is given out twice.  A request may present
any string.
-/
import Mathlib.Data.Set.Function
import ZeroTrust.Lib.Run
import ZeroTrust.Lib.Publish
import ZeroTrust.Controller.SessionStore

namespace ZeroTrust.Admin.RefreshTokens

open Lib
open Controller (Session SessionStore)

/-- What the handlers use of the server. -/
structure Server where
  jwtSecret : List UInt8
  /-- The hexadecimal SHA-256 of a token. -/
  tokenHash : String → String

/-- Where a request stands. -/
inductive Phase where
  | refresh
  /-- A refresh that found its session and checked it. -/
  | rotating (sess : Session)
  | revoke
  /-- A revocation that found its session. -/
  | revoking (sess : Session)
  | done

structure Request where
  refreshToken : String
  phase : Phase

/-- The answers that matter, in the order they were given. -/
inductive Outcome where
  | refreshed (refreshToken sessionId : String)
  /-- With the session that the token presented was given out for, if it was for one. -/
  | revoked (sessionId : Option String)

structure State where
  sessions : SessionStore
  requests : List Request
  /-- The refresh tokens given out so far, and for which sessions. -/
  issued : AList fun _ : String => String
  outcomes : List Outcome

def State.init : State := ⟨∅, [], ∅, []⟩

def State.sessionIds (s : State) : List String := s.issued.entries.map Sigma.snd

inductive Event where
  /-- `handleDeviceToken` for a session it has just made up.  `created` is false if the
  database refuses the row; the tokens are handed out all the same. -/
  | token (sessionId userId workspaceId ipAddress userAgent refreshToken : String) (now : Int)
      (created : Bool)
  | refresh (refreshToken : String)
  | refreshLookup (n : Nat) (now : Int)
  | refreshUpdate (n : Nat) (newRefreshRaw : String)
  | revoke (refreshToken : String)
  /-- `executed` is false if the statement fails, which is taken for no session. -/
  | revokeLookup (n : Nat) (executed : Bool)
  /-- `executed` is false if the statement fails; its error is ignored. -/
  | revokeUpdate (n : Nat) (executed : Bool)
  /-- A statement of a refresh fails, or the process stops. -/
  | fail (n : Nat)

/-- The refresh tokens an event gives out or presents. -/
def Event.tokens : Event → List String
  | .token _ _ _ _ _ refreshToken _ _ => [refreshToken]
  | .refresh refreshToken => [refreshToken]
  | .refreshUpdate _ newRefreshRaw => [newRefreshRaw]
  | .revoke refreshToken => [refreshToken]
  | _ => []

/-- The row of a new device session. -/
def deviceSession (S : Server) (sessionId userId workspaceId ipAddress userAgent refreshToken :
    String) (now : Int) : Session where
  id := sessionId
  userId := userId
  workspaceId := workspaceId
  sessionType := .device
  deviceId := ""
  refreshTokenHash := S.tokenHash refreshToken
  ipAddress := ipAddress
  userAgent := userAgent
  createdAt := now
  expiresAt := now + 30 * 24 * 3600
  revoked := false

def createSession (sessions : SessionStore) (sess : Session) (created : Bool) : SessionStore :=
  if created then (sessions.create sess).getD sessions else sessions

/-- An empty token is answered at once. -/
def received (refreshToken : String) (phase : Phase) : Request :=
  ⟨refreshToken, if refreshToken = "" then .done else phase⟩

/-- The lookup and the check of `handleDeviceRefresh`. -/
def refreshPhase (S : Server) (sessions : SessionStore) (refreshToken : String) (now : Int) :
    Phase :=
  match sessions.getByRefreshTokenHash (S.tokenHash refreshToken) with
  | none => .done
  | some sess => if sess.revoked ∨ now > sess.expiresAt then .done else .rotating sess

def revokePhase (S : Server) (sessions : SessionStore) (refreshToken : String)
    (executed : Bool) : Phase :=
  if executed then
    match sessions.getByRefreshTokenHash (S.tokenHash refreshToken) with
    | none => .done
    | some sess => .revoking sess
  else .done

def State.setPhase (s : State) (n : Nat) (r : Request) (phase : Phase) : List Request :=
  s.requests.set n { r with phase }

/-- A refresh succeeds if the new access token can be signed. -/
def refreshOutcome (S : Server) (refreshToken sessionId : String) : List Outcome :=
  if S.jwtSecret = [] then [] else [.refreshed refreshToken sessionId]

/-- `handleDeviceRevoke` answers `revoked`, whether or not there was a session to revoke. -/
def State.revokeOutcome (s : State) (refreshToken : String) : Phase → List Outcome
  | .done => [.revoked (s.issued.lookup refreshToken)]
  | _ => []

def step (S : Server) (s : State) : Event → Option State
  | .token sessionId userId workspaceId ipAddress userAgent refreshToken now created =>
      if refreshToken ∈ s.issued ∨ sessionId ∈ s.sessionIds then none
      else some { s with
        sessions := createSession s.sessions (deviceSession S sessionId userId workspaceId
          ipAddress userAgent refreshToken now) created
        issued := s.issued.insert refreshToken sessionId }
  | .refresh refreshToken =>
      some { s with requests := s.requests ++ [received refreshToken .refresh] }
  | .refreshLookup n now =>
      match s.requests[n]? with
      | some ⟨refreshToken, .refresh⟩ => some { s with
          requests := s.setPhase n ⟨refreshToken, .refresh⟩
            (refreshPhase S s.sessions refreshToken now) }
      | _ => none
  | .refreshUpdate n newRefreshRaw =>
      match s.requests[n]? with
      | some ⟨refreshToken, .rotating sess⟩ =>
          if newRefreshRaw ∈ s.issued then none
          else some {
            sessions := s.sessions.updateRefreshToken sess.id (S.tokenHash newRefreshRaw)
            requests := s.setPhase n ⟨refreshToken, .rotating sess⟩ .done
            issued := s.issued.insert newRefreshRaw sess.id
            outcomes := s.outcomes ++ refreshOutcome S refreshToken sess.id }
      | _ => none
  | .revoke refreshToken =>
      some { s with
        requests := s.requests ++ [received refreshToken .revoke]
        outcomes := s.outcomes ++ if refreshToken = "" then [.revoked none] else [] }
  | .revokeLookup n executed =>
      match s.requests[n]? with
      | some ⟨refreshToken, .revoke⟩ =>
          let phase := revokePhase S s.sessions refreshToken executed
          some { s with
            requests := s.setPhase n ⟨refreshToken, .revoke⟩ phase
            outcomes := s.outcomes ++ s.revokeOutcome refreshToken phase }
      | _ => none
  | .revokeUpdate n executed =>
      match s.requests[n]? with
      | some ⟨refreshToken, .revoking sess⟩ => some { s with
          sessions := if executed then s.sessions.revoke sess.id else s.sessions
          requests := s.setPhase n ⟨refreshToken, .revoking sess⟩ .done
          outcomes := s.outcomes ++ [.revoked (s.issued.lookup refreshToken)] }
      | _ => none
  | .fail n =>
      match s.requests[n]? with
      | some r => some { s with requests := s.setPhase n r .done }
      | none => none

/-! ## What a step can do -/

/-- A request that an event has brought or moved on: a session it holds is the one found
for its token. -/
structure Moved (S : Server) (s : State) (tokens : List String) (r : Request) : Prop where
  token : r.refreshToken ∈ tokens ∨ ∃ old ∈ s.requests, old.refreshToken = r.refreshToken
  found : ∀ sess, r.phase = .rotating sess ∨ r.phase = .revoking sess →
    s.sessions.getByRefreshTokenHash (S.tokenHash r.refreshToken) = some sess

theorem moved_received {S : Server} {s : State} {refreshToken : String} {phase : Phase}
    (hphase : phase = .refresh ∨ phase = .revoke) :
    Moved S s [refreshToken] (received refreshToken phase) := by
  refine ⟨Or.inl (List.mem_singleton_self _), ?_⟩
  intro sess h
  unfold received at h
  split at h <;> rcases hphase with rfl | rfl <;> simp at h

theorem refreshPhase_eq {S : Server} {sessions : SessionStore} {refreshToken : String}
    {now : Int} {phase : Phase} (h : refreshPhase S sessions refreshToken now = phase) :
    phase = .done ∨ ∃ sess, phase = .rotating sess ∧
      sessions.getByRefreshTokenHash (S.tokenHash refreshToken) = some sess := by
  unfold refreshPhase at h
  split at h
  · exact Or.inl h.symm
  next sess hsess =>
    split at h
    · exact Or.inl h.symm
    · exact Or.inr ⟨sess, h.symm, hsess⟩

theorem revokePhase_eq {S : Server} {sessions : SessionStore} {refreshToken : String}
    {executed : Bool} {phase : Phase} (h : revokePhase S sessions refreshToken executed = phase) :
    phase = .done ∨ ∃ sess, phase = .revoking sess ∧
      sessions.getByRefreshTokenHash (S.tokenHash refreshToken) = some sess := by
  unfold revokePhase at h
  split at h
  · split at h
    · exact Or.inl h.symm
    next sess hsess => exact Or.inr ⟨sess, h.symm, hsess⟩
  · exact Or.inl h.symm

/-- A row with the token's hash is found. -/
theorem revokePhase_ne_done {S : Server} {sessions : SessionStore} {refreshToken id : String}
    {row : Session} (hrow : sessions.get id = some row)
    (hhash : row.refreshTokenHash = S.tokenHash refreshToken) :
    revokePhase S sessions refreshToken true ≠ .done := by
  intro h
  unfold revokePhase at h
  rw [if_pos rfl] at h
  split at h
  next hnone =>
    have hmiss := List.find?_eq_none.mp hnone row (Table.mem_of_get hrow).1
    exact hmiss (decide_eq_true hhash)
  · cases h

/-- A request moved on within the list. -/
theorem mem_setPhase {S : Server} {s : State} {tokens : List String} {n : Nat} {r d : Request}
    {phase : Phase} (hr : s.requests[n]? = some r)
    (hphase : phase = .done ∨ ∃ sess, (phase = .rotating sess ∨ phase = .revoking sess) ∧
      s.sessions.getByRefreshTokenHash (S.tokenHash r.refreshToken) = some sess)
    (hd : d ∈ s.setPhase n r phase) : d ∈ s.requests ∨ Moved S s tokens d := by
  rcases List.mem_or_eq_of_mem_set hd with hold | rfl
  · exact Or.inl hold
  refine Or.inr ⟨Or.inr ⟨r, List.mem_of_getElem? hr, rfl⟩, ?_⟩
  intro sess' h
  rcases hphase with rfl | ⟨sess, rfl | rfl, hfound⟩
  · simp at h
  · simp only [Phase.rotating.injEq, reduceCtorEq, or_false] at h
    exact h ▸ hfound
  · simp only [Phase.revoking.injEq, reduceCtorEq, false_or] at h
    exact h ▸ hfound

/-- The answer to a revocation without a session. -/
def Missed (S : Server) (s : State) (e : Event) (o : Outcome) : Prop :=
  o = .revoked none ∨ ∃ n executed refreshToken, e = .revokeLookup n executed ∧
    s.requests[n]? = some ⟨refreshToken, .revoke⟩ ∧
    revokePhase S s.sessions refreshToken executed = .done ∧
    o = .revoked (s.issued.lookup refreshToken)

/-- A step creates a session, moves a request on, rotates a token, or revokes a session. -/
theorem step_cases {S : Server} {s s' : State} {e : Event} (h : step S s e = some s') :
    (∃ sess refreshToken created, refreshToken ∉ s.issued ∧ sess.id ∉ s.sessionIds ∧
      refreshToken ∈ e.tokens ∧ sess.refreshTokenHash = S.tokenHash refreshToken ∧
      sess.revoked = false ∧ (∀ n new, e ≠ .refreshUpdate n new) ∧
      s' = { s with
        sessions := createSession s.sessions sess created
        issued := s.issued.insert refreshToken sess.id }) ∨
    (∃ requests answers, (∀ r ∈ requests, r ∈ s.requests ∨ Moved S s e.tokens r) ∧
      (∀ o ∈ answers, Missed S s e o) ∧ (∀ n new, e ≠ .refreshUpdate n new) ∧
      s' = { s with requests, outcomes := s.outcomes ++ answers }) ∨
    (∃ n new refreshToken sess, e = .refreshUpdate n new ∧
      s.requests[n]? = some ⟨refreshToken, .rotating sess⟩ ∧ new ∉ s.issued ∧
      s' = {
        sessions := s.sessions.updateRefreshToken sess.id (S.tokenHash new)
        requests := s.setPhase n ⟨refreshToken, .rotating sess⟩ .done
        issued := s.issued.insert new sess.id
        outcomes := s.outcomes ++ refreshOutcome S refreshToken sess.id }) ∨
    (∃ n executed refreshToken sess, e = .revokeUpdate n executed ∧
      s.requests[n]? = some ⟨refreshToken, .revoking sess⟩ ∧
      s' = { s with
        sessions := if executed then s.sessions.revoke sess.id else s.sessions
        requests := s.setPhase n ⟨refreshToken, .revoking sess⟩ .done
        outcomes := s.outcomes ++ [.revoked (s.issued.lookup refreshToken)] }) := by
  -- a step without an answer
  have hquiet : ∀ requests, (∀ r ∈ requests, r ∈ s.requests ∨ Moved S s e.tokens r) →
      (∀ n new, e ≠ .refreshUpdate n new) → some { s with requests } = some s' →
      ∃ requests answers, (∀ r ∈ requests, r ∈ s.requests ∨ Moved S s e.tokens r) ∧
        (∀ o ∈ answers, Missed S s e o) ∧ (∀ n new, e ≠ .refreshUpdate n new) ∧
        s' = { s with requests, outcomes := s.outcomes ++ answers } := by
    intro requests hmem hother heq
    refine ⟨requests, [], hmem, fun o ho => absurd ho List.not_mem_nil, hother, ?_⟩
    rw [List.append_nil]
    exact (Option.some.inj heq).symm
  cases e with
  | token sessionId userId workspaceId ipAddress userAgent refreshToken now created =>
      simp only [step] at h
      split at h
      · cases h
      next hfresh =>
        obtain ⟨hfresh, hid⟩ := not_or.mp hfresh
        exact Or.inl ⟨deviceSession S sessionId userId workspaceId ipAddress userAgent
          refreshToken now, refreshToken, created, hfresh, hid, List.mem_singleton_self _, rfl, rfl,
          nofun, (Option.some.inj h).symm⟩
  | refresh refreshToken =>
      refine Or.inr (Or.inl (hquiet _ (fun r hr => ?_) nofun h))
      rcases List.mem_append.mp hr with hold | hnew
      · exact Or.inl hold
      · obtain rfl := List.mem_singleton.mp hnew
        exact Or.inr (moved_received (Or.inl rfl))
  | refreshLookup n now =>
      simp only [step] at h
      split at h
      next refreshToken hr =>
        refine Or.inr (Or.inl (hquiet _ (fun d hd => ?_) nofun h))
        refine mem_setPhase hr ?_ hd
        rcases refreshPhase_eq rfl with hdone | ⟨sess, hsess, hfound⟩
        · exact Or.inl hdone
        · exact Or.inr ⟨sess, Or.inl hsess, hfound⟩
      · cases h
  | refreshUpdate n new =>
      simp only [step] at h
      split at h
      next refreshToken sess hr =>
        split at h
        · cases h
        next hfresh =>
          exact Or.inr (Or.inr (Or.inl ⟨n, new, refreshToken, sess, rfl, hr, hfresh,
            (Option.some.inj h).symm⟩))
      · cases h
  | revoke refreshToken =>
      refine Or.inr (Or.inl ⟨_, _, fun r hr => ?_, fun o ho => ?_, nofun,
        (Option.some.inj h).symm⟩)
      · rcases List.mem_append.mp hr with hold | hnew
        · exact Or.inl hold
        · obtain rfl := List.mem_singleton.mp hnew
          exact Or.inr (moved_received (Or.inr rfl))
      · split at ho
        · exact Or.inl (List.mem_singleton.mp ho)
        · cases ho
  | revokeLookup n executed =>
      simp only [step] at h
      split at h
      next refreshToken hr =>
        refine Or.inr (Or.inl ⟨_, _, fun d hd => mem_setPhase hr ?_ hd, fun o ho => ?_, nofun,
          (Option.some.inj h).symm⟩)
        · rcases revokePhase_eq rfl with hdone | ⟨sess, hsess, hfound⟩
          · exact Or.inl hdone
          · exact Or.inr ⟨sess, Or.inr hsess, hfound⟩
        · unfold State.revokeOutcome at ho
          split at ho
          next hdone =>
            exact Or.inr ⟨n, executed, refreshToken, rfl, hr, hdone, List.mem_singleton.mp ho⟩
          · cases ho
      · cases h
  | revokeUpdate n executed =>
      simp only [step] at h
      split at h
      next refreshToken sess hr =>
        exact Or.inr (Or.inr (Or.inr ⟨n, executed, refreshToken, sess, rfl, hr,
          (Option.some.inj h).symm⟩))
      · cases h
  | fail n =>
      simp only [step] at h
      split at h
      next r hr =>
        exact Or.inr (Or.inl (hquiet _ (fun d hd => mem_setPhase hr (Or.inl rfl) hd) nofun h))
      · cases h

/-! ## Redeemed once, and when -/

/-- `b` may come after `a`. -/
def Outcome.Allows : Outcome → Outcome → Prop
  | .refreshed t _, .refreshed t' _ => t ≠ t'
  | .revoked sessionId, .refreshed _ id => sessionId ≠ some id
  | _, .revoked _ => True

/-- No token is redeemed twice, and none of a session after its revocation. -/
def RedeemedOnce (s : State) : Prop := s.outcomes.Pairwise Outcome.Allows

/-- A rotation finds the row with the hash it was looked up by, and not revoked. -/
def Undisturbed (s : State) : Event → Prop
  | .refreshUpdate n _ => ∀ r sess, s.requests[n]? = some r → r.phase = .rotating sess →
      ∃ row, s.sessions.get sess.id = some row ∧
        row.refreshTokenHash = sess.refreshTokenHash ∧ row.revoked = false
  | _ => True

/-- A revocation presents the token that the row of its session has then, if the row is not
revoked anyway, and its statements are executed. -/
def Revokes (S : Server) (s : State) : Event → Prop
  | .revokeLookup n executed => ∀ t id row, s.requests[n]? = some ⟨t, .revoke⟩ →
      s.issued.lookup t = some id → s.sessions.get id = some row →
        row.revoked = true ∨ executed = true ∧ row.refreshTokenHash = S.tokenHash t
  | .revokeUpdate _ executed => executed = true
  | _ => True

/-- No two of the run's tokens have the same hash. -/
def CollisionFree (S : Server) (es : List Event) : Prop :=
  Set.InjOn S.tokenHash {t | ∃ e ∈ es, t ∈ e.tokens}

/-! ## The invariant -/

/-- A token was given out for the session, and a row of it, if there is one, is revoked. -/
def Revoked (s : State) (id : String) : Prop :=
  (∃ t, s.issued.lookup t = some id) ∧
    ∀ row, s.sessions.get id = some row → row.revoked = true

/-- `tokens` are the tokens of the whole run. -/
structure Inv (S : Server) (tokens : Set String) (s : State) : Prop where
  issued : ∀ t ∈ s.issued, t ∈ tokens
  requested : ∀ r ∈ s.requests, r.refreshToken ∈ tokens
  redeemed : ∀ t id, .refreshed t id ∈ s.outcomes → t ∈ s.issued
  /-- The hash in a row is that of a token of its session, not yet redeemed. -/
  live : ∀ id row, s.sessions.get id = some row → ∃ t, s.issued.lookup t = some id ∧
    row.refreshTokenHash = S.tokenHash t ∧ ∀ id', .refreshed t id' ∉ s.outcomes
  /-- A row that a rotation will find changed was rotated for the same token. -/
  rotating : ∀ r ∈ s.requests, ∀ sess, r.phase = .rotating sess →
    sess.refreshTokenHash = S.tokenHash r.refreshToken ∧ r.refreshToken ∈ s.issued ∧
    ∃ row, s.sessions.get sess.id = some row ∧
      (row.refreshTokenHash = sess.refreshTokenHash ∨
        .refreshed r.refreshToken sess.id ∈ s.outcomes)
  revoking : ∀ r ∈ s.requests, ∀ sess, r.phase = .revoking sess →
    s.issued.lookup r.refreshToken = some sess.id ∧ ∃ row, s.sessions.get sess.id = some row
  revoked : ∀ id, .revoked (some id) ∈ s.outcomes → Revoked s id
  /-- Only revocations revoke. -/
  answered : ∀ id row, s.sessions.get id = some row → row.revoked = true →
    .revoked (some id) ∈ s.outcomes
  once : RedeemedOnce s

theorem inv_init (S : Server) (tokens : Set String) : Inv S tokens .init where
  issued _ h := absurd h (AList.notMem_empty _)
  requested _ h := absurd h List.not_mem_nil
  redeemed _ _ h := absurd h List.not_mem_nil
  live _ _ h := nomatch h
  rotating _ h := absurd h List.not_mem_nil
  revoking _ h := absurd h List.not_mem_nil
  revoked _ h := absurd h List.not_mem_nil
  answered _ _ h := nomatch h
  once := List.Pairwise.nil

section

variable {S : Server} {tokens : Set String} {s : State}

theorem mem_of_lookup {issued : AList fun _ : String => String} {t id : String}
    (h : issued.lookup t = some id) : t ∈ issued :=
  AList.lookup_isSome.mp (Option.isSome_of_eq_some h)

theorem mem_sessionIds {t id : String} (h : s.issued.lookup t = some id) : id ∈ s.sessionIds :=
  List.mem_map_of_mem (AList.mem_lookup_iff.mp h)

/-- A token that was given out keeps its session. -/
theorem lookup_insert_of {issued : AList fun _ : String => String} {new t id : String}
    (hfresh : new ∉ issued) (h : issued.lookup t = some id) (newId : String) :
    (issued.insert new newId).lookup t = some id := by
  rw [AList.lookup_insert_ne, h]
  rintro rfl
  exact hfresh (mem_of_lookup h)

/-- The row that a token's hash finds was given that very token. -/
theorem issued_of_hash (hinj : Set.InjOn S.tokenHash tokens) (h : Inv S tokens s) {t id : String}
    {row : Session} (ht : t ∈ tokens) (hrow : s.sessions.get id = some row)
    (hhash : row.refreshTokenHash = S.tokenHash t) :
    s.issued.lookup t = some id ∧ ∀ id', .refreshed t id' ∉ s.outcomes := by
  obtain ⟨t', hissued, hhash', hlive⟩ := h.live id row hrow
  obtain rfl : t = t' :=
    hinj ht (h.issued t' (mem_of_lookup hissued)) (hhash.symm.trans hhash')
  exact ⟨hissued, hlive⟩

/-- Rows of different sessions have different hashes. -/
theorem Inv.distinct (h : Inv S tokens s) (hinj : Set.InjOn S.tokenHash tokens) {id id' : String}
    {row row' : Session} (hrow : s.sessions.get id = some row)
    (hrow' : s.sessions.get id' = some row')
    (heq : row.refreshTokenHash = row'.refreshTokenHash) : id = id' := by
  obtain ⟨t, hissued, hhash, -⟩ := h.live id row hrow
  have ht : t ∈ tokens := h.issued t (mem_of_lookup hissued)
  have hissued' := (issued_of_hash hinj h ht hrow' (heq.symm.trans hhash)).1
  exact Option.some.inj (hissued.symm.trans hissued')

theorem inv_requests (hinj : Set.InjOn S.tokenHash tokens) (h : Inv S tokens s)
    {ts : List String} (hts : ∀ t ∈ ts, t ∈ tokens) {requests : List Request}
    (hmem : ∀ r ∈ requests, r ∈ s.requests ∨ Moved S s ts r) :
    Inv S tokens { s with requests } := by
  have htoken : ∀ r ∈ requests, r.refreshToken ∈ tokens := by
    intro r hr
    rcases hmem r hr with hold | hmoved
    · exact h.requested r hold
    · rcases hmoved.token with hnew | ⟨old, hold, heq⟩
      · exact hts _ hnew
      · exact heq ▸ h.requested old hold
  refine { h with requested := htoken, rotating := ?_, revoking := ?_ }
  · intro r hr sess hphase
    rcases hmem r hr with hold | hmoved
    · exact h.rotating r hold sess hphase
    · obtain ⟨hget, hhash⟩ := SessionStore.get_of_getByRefreshTokenHash
        (hmoved.found sess (Or.inl hphase))
      have hissued := (issued_of_hash hinj h (htoken r hr) hget hhash).1
      exact ⟨hhash, mem_of_lookup hissued, sess, hget, Or.inl rfl⟩
  · intro r hr sess hphase
    rcases hmem r hr with hold | hmoved
    · exact h.revoking r hold sess hphase
    · obtain ⟨hget, hhash⟩ := SessionStore.get_of_getByRefreshTokenHash
        (hmoved.found sess (Or.inr hphase))
      exact ⟨(issued_of_hash hinj h (htoken r hr) hget hhash).1, sess, hget⟩

/-- Answers to revocations of sessions that are revoked. -/
theorem inv_answers (h : Inv S tokens s) {answers : List Outcome}
    (hanswers : ∀ o ∈ answers, ∃ sessionId, o = .revoked sessionId ∧
      ∀ id, sessionId = some id → Revoked s id) :
    Inv S tokens { s with outcomes := s.outcomes ++ answers } := by
  have hout : ∀ t id, .refreshed t id ∈ s.outcomes ++ answers → .refreshed t id ∈ s.outcomes := by
    intro t id hmem
    rcases List.mem_append.mp hmem with hold | hnew
    · exact hold
    · obtain ⟨_, heq, -⟩ := hanswers _ hnew
      cases heq
  refine { h with
    redeemed := fun t id hmem => h.redeemed t id (hout t id hmem)
    live := ?_, rotating := ?_, revoked := ?_, answered := ?_, once := ?_ }
  · intro id row hrow
    obtain ⟨t, hissued, hhash, hlive⟩ := h.live id row hrow
    exact ⟨t, hissued, hhash, fun id' hmem => hlive id' (hout t id' hmem)⟩
  · intro r hr sess hphase
    obtain ⟨hhash, hissued, row, hrow, hcase⟩ := h.rotating r hr sess hphase
    exact ⟨hhash, hissued, row, hrow, hcase.imp_right (List.mem_append_left _)⟩
  · intro id hmem
    rcases List.mem_append.mp hmem with hold | hnew
    · exact h.revoked id hold
    · obtain ⟨_, heq, hrevoked⟩ := hanswers _ hnew
      exact hrevoked id (Outcome.revoked.inj heq).symm
  · exact fun id row hrow hset => List.mem_append_left _ (h.answered id row hrow hset)
  · have hafter : ∀ o, ∀ a ∈ answers, Outcome.Allows o a := by
      intro o a ha
      obtain ⟨_, rfl, -⟩ := hanswers a ha
      cases o <;> trivial
    refine List.pairwise_append.mpr ⟨h.once, ?_, fun o _ a ha => hafter o a ha⟩
    exact List.Pairwise.imp_of_mem (fun {o a} _ ha _ => hafter o a ha)
      (List.pairwise_of_forall fun _ _ => trivial)

theorem createSession_cases (sessions : SessionStore) (sess : Session) (created : Bool) :
    createSession sessions sess created = sessions ∨
    (sessions.get sess.id = none ∧ ∀ id, (createSession sessions sess created).get id =
      if id = sess.id then some sess else sessions.get id) := by
  unfold createSession
  split
  · cases hcreate : sessions.create sess with
    | none => exact Or.inl rfl
    | some sessions' =>
        exact Or.inr ⟨(Table.insert_eq_some hcreate).1,
          fun id => SessionStore.get_create hcreate id⟩
  · exact Or.inl rfl

/-- A token may be made up at any time. -/
theorem inv_issue (h : Inv S tokens s) {t : String} (ht : t ∈ tokens) (hfresh : t ∉ s.issued)
    (sessionId : String) :
    Inv S tokens { s with issued := s.issued.insert t sessionId } := by
  refine { h with
    issued := ?_, redeemed := ?_, live := ?_, rotating := ?_, revoking := ?_, revoked := ?_ }
  · intro t' hmem
    rcases (AList.mem_insert _).mp hmem with rfl | hold
    · exact ht
    · exact h.issued t' hold
  · intro t' id hmem
    exact (AList.mem_insert _).mpr (Or.inr (h.redeemed t' id hmem))
  · intro id row hrow
    obtain ⟨t', hissued, hrest⟩ := h.live id row hrow
    exact ⟨t', lookup_insert_of hfresh hissued sessionId, hrest⟩
  · intro r hr sess hphase
    obtain ⟨hhash, hmem, hrest⟩ := h.rotating r hr sess hphase
    exact ⟨hhash, (AList.mem_insert _).mpr (Or.inr hmem), hrest⟩
  · intro r hr sess hphase
    obtain ⟨hissued, hrest⟩ := h.revoking r hr sess hphase
    exact ⟨lookup_insert_of hfresh hissued sessionId, hrest⟩
  · intro id hmem
    obtain ⟨⟨t', hissued⟩, hrows⟩ := h.revoked id hmem
    exact ⟨⟨t', lookup_insert_of hfresh hissued sessionId⟩, hrows⟩

theorem inv_token (h : Inv S tokens s) {sess : Session} {t : String} {created : Bool}
    (ht : t ∈ tokens) (hfresh : t ∉ s.issued) (hid : sess.id ∉ s.sessionIds)
    (hhash : sess.refreshTokenHash = S.tokenHash t) (hrevoked : sess.revoked = false) :
    Inv S tokens { s with
      sessions := createSession s.sessions sess created
      issued := s.issued.insert t sess.id } := by
  have hissued := inv_issue h ht hfresh sess.id
  rcases createSession_cases s.sessions sess created with hsame | ⟨hfree, hget⟩
  · rw [hsame]
    exact hissued
  · -- the rows that were there are still found, and the new one is found under its own id
    have hcases : ∀ id row, (createSession s.sessions sess created).get id = some row →
        (id = sess.id ∧ row = sess) ∨ s.sessions.get id = some row := by
      intro id row hrow
      rw [hget] at hrow
      split at hrow
      next hid => exact Or.inl ⟨hid, (Option.some.inj hrow).symm⟩
      · exact Or.inr hrow
    have hkept : ∀ id row, s.sessions.get id = some row →
        (createSession s.sessions sess created).get id = some row := by
      intro id row hrow
      rw [hget, if_neg, hrow]
      rintro rfl
      rw [hfree] at hrow
      cases hrow
    refine { hissued with
      live := ?_, rotating := ?_, revoking := ?_, revoked := ?_, answered := ?_ }
    · intro id row hrow
      rcases hcases id row hrow with ⟨rfl, rfl⟩ | hold
      · exact ⟨t, AList.lookup_insert _, hhash, fun id' hmem => hfresh (h.redeemed t id' hmem)⟩
      · exact hissued.live id row hold
    · intro r hr sess' hphase
      obtain ⟨hh, hmem, row, hrow, hrest⟩ := hissued.rotating r hr sess' hphase
      exact ⟨hh, hmem, row, hkept _ _ hrow, hrest⟩
    · intro r hr sess' hphase
      obtain ⟨howned, row, hrow⟩ := hissued.revoking r hr sess' hphase
      exact ⟨howned, row, hkept _ _ hrow⟩
    · intro id hmem
      refine ⟨(hissued.revoked id hmem).1, fun row hrow => ?_⟩
      rcases hcases id row hrow with ⟨rfl, -⟩ | hold
      · -- nothing was given out for the new session before
        obtain ⟨⟨t', howned⟩, -⟩ := h.revoked _ hmem
        exact absurd (mem_sessionIds howned) hid
      · exact (h.revoked id hmem).2 row hold
    · intro id row hrow hset
      rcases hcases id row hrow with ⟨-, rfl⟩ | hold
      · rw [hrevoked] at hset
        cases hset
      · exact h.answered id row hold hset

theorem mem_setPhase_done {n : Nat} {r d : Request} (hd : d ∈ s.setPhase n r .done) :
    d ∈ s.requests ∨ d = { r with phase := .done } := List.mem_or_eq_of_mem_set hd

theorem requested_setPhase (h : Inv S tokens s) {n : Nat} {r : Request}
    (hr : s.requests[n]? = some r) : ∀ d ∈ s.setPhase n r .done, d.refreshToken ∈ tokens := by
  intro d hd
  rcases mem_setPhase_done hd with hold | rfl
  · exact h.requested d hold
  · exact h.requested r (List.mem_of_getElem? hr)

/-- A row after a rotation. -/
theorem get_rotated {sessions : SessionStore} {id newHash id' : String} {row : Session}
    (h : (sessions.updateRefreshToken id newHash).get id' = some row) :
    ∃ old, sessions.get id' = some old ∧ row.revoked = old.revoked ∧
      ((id' = id ∧ row.refreshTokenHash = newHash) ∨
        (id' ≠ id ∧ row.refreshTokenHash = old.refreshTokenHash)) := by
  rw [SessionStore.get_updateRefreshToken, Option.map_eq_some_iff] at h
  obtain ⟨old, hold, rfl⟩ := h
  have hid := (Table.mem_of_get hold).2
  refine ⟨old, hold, ?_⟩
  unfold SessionStore.Session.rotate
  split
  next heq => exact ⟨rfl, Or.inl ⟨hid.symm.trans heq, rfl⟩⟩
  next hne => exact ⟨rfl, Or.inr ⟨fun heq => hne (hid.trans heq), rfl⟩⟩

theorem exists_rotated {sessions : SessionStore} (id newHash : String) {id' : String}
    {old : Session} (h : sessions.get id' = some old) :
    ∃ row, (sessions.updateRefreshToken id newHash).get id' = some row ∧
      row.revoked = old.revoked ∧ (id' ≠ id → row.refreshTokenHash = old.refreshTokenHash) := by
  have hrow : (sessions.updateRefreshToken id newHash).get id' =
      some (SessionStore.Session.rotate id newHash old) := by
    rw [SessionStore.get_updateRefreshToken, h, Option.map_some]
  obtain ⟨old', hold', hrevoked, hcases⟩ := get_rotated hrow
  obtain rfl : old = old' := Option.some.inj (h.symm.trans hold')
  refine ⟨_, hrow, hrevoked, ?_⟩
  intro hne
  rcases hcases with ⟨heq, -⟩ | ⟨-, hkept⟩
  · exact absurd heq hne
  · exact hkept

theorem refreshOutcome_of_secret (hsecret : S.jwtSecret ≠ []) (t id : String) :
    refreshOutcome S t id = [.refreshed t id] := if_neg hsecret

theorem inv_rotate (hinj : Set.InjOn S.tokenHash tokens) (hsecret : S.jwtSecret ≠ [])
    (h : Inv S tokens s) {n : Nat} {t new : String} {sess row : Session}
    (hr : s.requests[n]? = some ⟨t, .rotating sess⟩) (hnew : new ∈ tokens)
    (hfresh : new ∉ s.issued) (hrow : s.sessions.get sess.id = some row)
    (hhash : row.refreshTokenHash = sess.refreshTokenHash) (hrevoked : row.revoked = false) :
    Inv S tokens {
      sessions := s.sessions.updateRefreshToken sess.id (S.tokenHash new)
      requests := s.setPhase n ⟨t, .rotating sess⟩ .done
      issued := s.issued.insert new sess.id
      outcomes := s.outcomes ++ refreshOutcome S t sess.id } := by
  have hmem := List.mem_of_getElem? hr
  obtain ⟨hsess, hissued, -⟩ := h.rotating _ hmem sess rfl
  have ht : t ∈ tokens := h.requested _ hmem
  have hlive : ∀ id, .refreshed t id ∉ s.outcomes :=
    (issued_of_hash hinj h ht hrow (hhash.trans hsess)).2
  have hlater := inv_issue h hnew hfresh sess.id
  rw [refreshOutcome_of_secret hsecret]
  have hout : ∀ o, o ∈ s.outcomes ++ [Outcome.refreshed t sess.id] ↔
      o ∈ s.outcomes ∨ o = .refreshed t sess.id := by
    intro o
    rw [List.mem_append, List.mem_singleton]
  refine
    { issued := hlater.issued
      requested := requested_setPhase h hr
      redeemed := ?redeemed
      live := ?live
      rotating := ?rotating
      revoking := ?revoking
      revoked := ?revoked
      answered := ?answered
      once := ?once }
  case redeemed =>
    intro t' id hredeemed
    rcases (hout _).mp hredeemed with hold | hlast
    · exact hlater.redeemed t' id hold
    · cases hlast
      exact (AList.mem_insert _).mpr (Or.inr hissued)
  case live =>
    intro id row' hrow'
    obtain ⟨old, hold, -, ⟨rfl, hhash'⟩ | ⟨hne, hhash'⟩⟩ := get_rotated hrow'
    · refine ⟨new, AList.lookup_insert _, hhash', ?_⟩
      intro id' hredeemed
      rcases (hout _).mp hredeemed with hearlier | hlast
      · exact hfresh (h.redeemed new id' hearlier)
      · cases hlast
        exact hfresh hissued
    · -- another row's token is not the one redeemed now, or the two rows would be one
      obtain ⟨t', howned, hold', hlive'⟩ := hlater.live id old hold
      refine ⟨t', howned, hhash'.trans hold', ?_⟩
      intro id' hredeemed
      rcases (hout _).mp hredeemed with hearlier | hlast
      · exact hlive' id' hearlier
      · cases hlast
        exact hne (h.distinct hinj hold hrow (hold'.trans (hsess.symm.trans hhash.symm)))
  case rotating =>
    intro d hd sess' hphase
    rcases mem_setPhase_done hd with hold | rfl
    · obtain ⟨hsess', hissued', old, hold, hcase⟩ := hlater.rotating d hold sess' hphase
      obtain ⟨row', hrow', -, hkept⟩ := exists_rotated sess.id (S.tokenHash new) hold
      refine ⟨hsess', hissued', row', hrow', ?_⟩
      rcases hcase with hsame | hredeemed
      · by_cases hid : sess'.id = sess.id
        · -- the other request holds the same token, which is redeemed now
          rw [hid] at hold
          obtain rfl : row = old := Option.some.inj (hrow.symm.trans hold)
          have htoken : d.refreshToken = t := by
            refine hinj (h.requested d ‹_›) ht ?_
            rw [← hsess', ← hsame, hhash, hsess]
          rw [htoken, hid]
          exact Or.inr ((hout _).mpr (Or.inr rfl))
        · exact Or.inl ((hkept hid).trans hsame)
      · exact Or.inr ((hout _).mpr (Or.inl hredeemed))
    · cases hphase
  case revoking =>
    intro d hd sess' hphase
    rcases mem_setPhase_done hd with hold | rfl
    · obtain ⟨howned, old, hold⟩ := hlater.revoking d hold sess' hphase
      obtain ⟨row', hrow', -⟩ := exists_rotated sess.id (S.tokenHash new) hold
      exact ⟨howned, row', hrow'⟩
    · cases hphase
  case revoked =>
    intro id hmem
    have hbefore : .revoked (some id) ∈ s.outcomes := by
      rcases (hout _).mp hmem with hold | hlast
      · exact hold
      · cases hlast
    obtain ⟨howned, hrows⟩ := hlater.revoked id hbefore
    refine ⟨howned, fun row' hrow' => ?_⟩
    obtain ⟨old, hold, hkept, -⟩ := get_rotated hrow'
    exact hkept.trans (hrows old hold)
  case answered =>
    intro id row' hrow' hset
    obtain ⟨old, hold, hkept, -⟩ := get_rotated hrow'
    exact (hout _).mpr (Or.inl (h.answered id old hold (hkept.symm.trans hset)))
  case once =>
    refine List.pairwise_append.mpr ⟨h.once, List.pairwise_singleton _ _, ?_⟩
    intro o ho o' ho'
    obtain rfl := List.mem_singleton.mp ho'
    cases o with
    | refreshed t' id =>
        rintro rfl
        exact hlive id ho
    | revoked id =>
        rintro rfl
        have hset := (h.revoked _ ho).2 row hrow
        rw [hrevoked] at hset
        cases hset

/-- A row after a revocation. -/
theorem get_revoked {sessions : SessionStore} {id id' : String} {row : Session}
    (h : (sessions.revoke id).get id' = some row) :
    ∃ old, sessions.get id' = some old ∧ row.refreshTokenHash = old.refreshTokenHash ∧
      (row.revoked = true ↔ id' = id ∨ old.revoked = true) := by
  rw [SessionStore.get_revoke, Option.map_eq_some_iff] at h
  obtain ⟨old, hold, rfl⟩ := h
  have hid := (Table.mem_of_get hold).2
  refine ⟨old, hold, ?_⟩
  unfold SessionStore.Session.revoke
  split
  next heq => exact ⟨rfl, ⟨fun _ => Or.inl (hid.symm.trans heq), fun _ => rfl⟩⟩
  next hne => exact ⟨rfl, ⟨Or.inr, fun h => h.resolve_left fun heq => hne (hid.trans heq)⟩⟩

theorem exists_revoked {sessions : SessionStore} (id : String) {id' : String} {old : Session}
    (h : sessions.get id' = some old) :
    ∃ row, (sessions.revoke id).get id' = some row ∧
      row.refreshTokenHash = old.refreshTokenHash ∧
      (row.revoked = true ↔ id' = id ∨ old.revoked = true) := by
  have hrow : (sessions.revoke id).get id' = some (SessionStore.Session.revoke id old) := by
    rw [SessionStore.get_revoke, h, Option.map_some]
  obtain ⟨old', hold', hrest⟩ := get_revoked hrow
  obtain rfl : old = old' := Option.some.inj (h.symm.trans hold')
  exact ⟨_, hrow, hrest⟩

theorem inv_revoke (h : Inv S tokens s) {n : Nat} {t : String} {sess : Session}
    (hr : s.requests[n]? = some ⟨t, .revoking sess⟩) :
    Inv S tokens { s with
      sessions := s.sessions.revoke sess.id
      requests := s.setPhase n ⟨t, .revoking sess⟩ .done
      outcomes := s.outcomes ++ [.revoked (s.issued.lookup t)] } := by
  obtain ⟨howned, found, hfound⟩ := h.revoking _ (List.mem_of_getElem? hr) sess rfl
  simp only at howned
  rw [howned]
  have hout : ∀ t id, .refreshed t id ∈ s.outcomes ++ [Outcome.revoked (some sess.id)] ↔
      .refreshed t id ∈ s.outcomes := by
    intro t id
    simp
  refine
    { issued := h.issued
      requested := requested_setPhase h hr
      redeemed := ?redeemed
      live := ?live
      rotating := ?rotating
      revoking := ?revoking
      revoked := ?revoked
      answered := ?answered
      once := ?once }
  case redeemed =>
    intro t' id hredeemed
    exact h.redeemed t' id ((hout _ _).mp hredeemed)
  case live =>
    intro id row hrow
    obtain ⟨old, hold, hhash, -⟩ := get_revoked hrow
    obtain ⟨t', hissued, hold', hlive⟩ := h.live id old hold
    exact ⟨t', hissued, hhash.trans hold', fun id' hmem => hlive id' ((hout _ _).mp hmem)⟩
  case rotating =>
    intro d hd sess' hphase
    rcases mem_setPhase_done hd with hold | rfl
    · obtain ⟨hsess, hissued, old, hget, hcase⟩ := h.rotating d hold sess' hphase
      obtain ⟨row, hrow, hhash, -⟩ := exists_revoked sess.id hget
      refine ⟨hsess, hissued, row, hrow, ?_⟩
      rcases hcase with hsame | hredeemed
      · exact Or.inl (hhash.trans hsame)
      · exact Or.inr ((hout _ _).mpr hredeemed)
    · cases hphase
  case revoking =>
    intro d hd sess' hphase
    rcases mem_setPhase_done hd with hold | rfl
    · obtain ⟨hissued, old, hget⟩ := h.revoking d hold sess' hphase
      obtain ⟨row, hrow, -⟩ := exists_revoked sess.id hget
      exact ⟨hissued, row, hrow⟩
    · cases hphase
  case revoked =>
    intro id hmem
    rcases List.mem_append.mp hmem with hold | hlast
    · obtain ⟨hissued, hrows⟩ := h.revoked id hold
      refine ⟨hissued, fun row hrow => ?_⟩
      obtain ⟨old, hget, -, hrevoked⟩ := get_revoked hrow
      exact hrevoked.mpr (Or.inr (hrows old hget))
    · cases List.mem_singleton.mp hlast
      refine ⟨⟨t, howned⟩, fun row hrow => ?_⟩
      obtain ⟨old, -, -, hrevoked⟩ := get_revoked hrow
      exact hrevoked.mpr (Or.inl rfl)
  case answered =>
    intro id row hrow hset
    obtain ⟨old, hold, -, hrevoked⟩ := get_revoked hrow
    rcases hrevoked.mp hset with rfl | hset'
    · exact List.mem_append_right _ (List.mem_singleton_self _)
    · exact List.mem_append_left _ (h.answered id old hold hset')
  case once =>
    refine List.pairwise_append.mpr ⟨h.once, List.pairwise_singleton _ _, ?_⟩
    intro o _ o' ho'
    obtain rfl := List.mem_singleton.mp ho'
    cases o <;> trivial

/-- A revocation that finds no row where it should has nothing left to revoke. -/
theorem revoked_of_missed {e : Event} {o : Outcome} (hmissed : Missed S s e o)
    (hrevokes : Revokes S s e) :
    ∃ sessionId, o = .revoked sessionId ∧ ∀ id, sessionId = some id → Revoked s id := by
  rcases hmissed with rfl | ⟨n, executed, t, rfl, hr, hdone, rfl⟩
  · exact ⟨none, rfl, fun id hid => nomatch hid⟩
  · refine ⟨_, rfl, fun id hissued => ⟨⟨t, hissued⟩, fun row hrow => ?_⟩⟩
    rcases hrevokes t id row hr hissued hrow with hset | ⟨rfl, hhash⟩
    · exact hset
    · exact absurd hdone (revokePhase_ne_done hrow hhash)

theorem inv_step (hinj : Set.InjOn S.tokenHash tokens) (hsecret : S.jwtSecret ≠ []) {s' : State}
    {e : Event} (h : Inv S tokens s) (htokens : ∀ t ∈ e.tokens, t ∈ tokens)
    (hrevokes : Revokes S s e) (hundisturbed : Undisturbed s e) (hstep : step S s e = some s') :
    Inv S tokens s' := by
  rcases step_cases hstep with ⟨sess, t, created, hfresh, hid, ht, hhash, hrevoked, -, rfl⟩ |
    ⟨requests, answers, hmem, hanswers, -, rfl⟩ | ⟨n, new, t, sess, rfl, hr, hfresh, rfl⟩ |
    ⟨n, executed, t, sess, rfl, hr, rfl⟩
  · exact inv_token h (htokens t ht) hfresh hid hhash hrevoked
  · have hrevoked : ∀ o ∈ answers, ∃ sessionId, o = .revoked sessionId ∧
        ∀ id, sessionId = some id → Revoked s id :=
      fun o ho => revoked_of_missed (hanswers o ho) hrevokes
    exact inv_answers (inv_requests hinj h htokens hmem) hrevoked
  · obtain ⟨row, hrow, hhash, hrevoked⟩ := hundisturbed _ sess hr rfl
    exact inv_rotate hinj hsecret h hr (htokens new (List.mem_singleton_self _)) hfresh hrow hhash
      hrevoked
  · obtain rfl : executed = true := hrevokes
    exact inv_revoke h hr

/-- A rotation that finds the row changed is one too many: the row was changed for the same
token, or by a revocation. -/
theorem undisturbed_of_once (hsecret : S.jwtSecret ≠ []) {s' : State} {e : Event}
    (h : Inv S tokens s) (hstep : step S s e = some s') (honce : RedeemedOnce s') :
    Undisturbed s e := by
  rcases step_cases hstep with ⟨_, _, _, -, -, -, -, -, hother, -⟩ | ⟨_, _, -, -, hother, -⟩ |
    ⟨n, new, t, sess, rfl, hr, hfresh, rfl⟩ | ⟨n, executed, t, sess, rfl, hr, rfl⟩
  · cases e <;> first | trivial | exact absurd rfl (hother _ _)
  · cases e <;> first | trivial | exact absurd rfl (hother _ _)
  · intro r sess' hr' hphase
    obtain rfl : ⟨t, .rotating sess⟩ = r := Option.some.inj (hr.symm.trans hr')
    obtain rfl : sess = sess' := Phase.rotating.inj hphase
    obtain ⟨-, -, row, hrow, hcase⟩ := h.rotating _ (List.mem_of_getElem? hr) sess rfl
    rw [RedeemedOnce, refreshOutcome_of_secret hsecret, List.pairwise_append] at honce
    have hallows : ∀ o ∈ s.outcomes, o.Allows (.refreshed t sess.id) :=
      fun o ho => honce.2.2 o ho _ (List.mem_singleton_self _)
    refine ⟨row, hrow, ?_, ?_⟩
    · rcases hcase with hsame | hredeemed
      · exact hsame
      · exact absurd rfl (hallows _ hredeemed)
    · cases hset : row.revoked with
      | false => rfl
      | true =>
          exact absurd rfl (hallows _ (h.answered sess.id row hrow hset))
  · trivial

/-- Without a secret no refresh succeeds. -/
theorem once_of_no_secret (hsecret : S.jwtSecret = []) {es : List Event}
    (hrun : run (step S) .init es = some s) : RedeemedOnce s := by
  have hrevoked : ∀ o ∈ s.outcomes, ∃ id, o = .revoked id := by
    refine run_invariant (motive := fun s => ∀ o ∈ s.outcomes, ∃ id, o = .revoked id)
      (fun s e s' ih hstep => ?_) (fun o ho => absurd ho List.not_mem_nil) hrun
    rcases step_cases hstep with ⟨_, _, _, -, -, -, -, -, -, rfl⟩ | ⟨_, _, -, hanswers, -, rfl⟩ |
      ⟨_, _, _, _, -, -, -, rfl⟩ | ⟨_, _, t, _, -, -, rfl⟩
    · exact ih
    · intro o ho
      rcases List.mem_append.mp ho with hold | hnew
      · exact ih o hold
      · rcases hanswers o hnew with rfl | ⟨_, _, t, -, -, -, rfl⟩
        · exact ⟨none, rfl⟩
        · exact ⟨s.issued.lookup t, rfl⟩
    · simp only [refreshOutcome, if_pos hsecret, List.append_nil]
      exact ih
    · intro o ho
      rcases List.mem_append.mp ho with hold | hlast
      · exact ih o hold
      · exact ⟨s.issued.lookup t, List.mem_singleton.mp hlast⟩
  refine List.Pairwise.imp_of_mem (fun {a b} _ hb _ => ?_)
    (List.pairwise_of_forall fun _ _ => trivial)
  obtain ⟨id, rfl⟩ := hrevoked b hb
  cases a <;> trivial

end

/-- **Refresh tokens are redeemed at most once exactly as long as no rotation is disturbed.**
In a run whose tokens have distinct hashes and whose revocations find the rows of their
sessions: at every point no token has been redeemed twice, and none of a session after a
revocation of it was answered, iff every rotation finds its row not revoked and with the hash
it was looked up by.  (Without a JWT secret no refresh succeeds at all.) -/
theorem redeemed_once_iff (S : Server) (es : List Event) (s : State)
    (hrun : run (step S) .init es = some s) (hcollision : CollisionFree S es)
    (hrevokes : Meets (step S) (Revokes S) .init es) :
    (∀ pre, pre <+: es → ∀ t, run (step S) .init pre = some t → RedeemedOnce t) ↔
      (S.jwtSecret = [] ∨ Meets (step S) Undisturbed .init es) := by
  by_cases hsecret : S.jwtSecret = []
  · exact ⟨fun _ => Or.inl hsecret, fun _ pre _ t ht => once_of_no_secret hsecret ht⟩
  rw [or_iff_right hsecret]
  have hbase : Meets (step S) (fun s e => (∀ t ∈ e.tokens, ∃ e ∈ es, t ∈ e.tokens) ∧
      Revokes S s e) .init es :=
    meets_and (meets_of_forall fun e he s t ht => ⟨e, he, ht⟩) hrevokes
  refine forall_prefix_iff_meets_of_inv (P := fun _ s => RedeemedOnce s)
    (inv_init S {t | ∃ e ∈ es, t ∈ e.tokens})
    (fun s e s' h hb hu hstep => inv_step hcollision hsecret h hb.1 hb.2 hu hstep) ?_ ?_ hrun hbase
  · intro pre t hrun hb hu
    exact (run_invariant_of_meets (fun s e s' h hok hstep =>
      inv_step hcollision hsecret h hok.1.1 hok.1.2 hok.2 hstep)
      (inv_init S {t | ∃ e ∈ es, t ∈ e.tokens}) (meets_and hb hu) hrun).once
  · intro _ s e s' _ h _ hstep honce
    exact undisturbed_of_once hsecret h hstep honce

/-! ### Two runs -/

def firstToken : String := "9f86d081884c7d659a2feaa0c55ad015a3bf4f1b2b0b822cd15d6c15b0f00a08"

def secondToken : String := "60303ae22b998861bce3b28f33eec1be758a213c86c93c076dbe9f558c11c752"

def thirdToken : String := "fd61a03af4f77d870fc21e05e7e80678095c92d808cfb3b5c279ee04c74aca13"

/-- A server, with SHA-256 recorded at these tokens. -/
def recordedServer : Server where
  jwtSecret := [1]
  tokenHash t :=
    if t = firstToken then "7b3d979ca8330a94fa7e9e1b466d8b99e0bcdea1ec90596c0dcc8d7ef6b4300c"
    else if t = secondToken then "6016bcc377c93692f2fe19fbad47eee6fb8f4cc98c56e935db5edb69806d84f6"
    else if t = thirdToken then "97b868b8503c20875cb0a0e37c418a7166d78304c9384ef0d864ece47d1803ac"
    else ""

def deviceToken : Event :=
  .token "5f4dcc3b5aa765d61d8327deb882cf99" "usr_1" "ws_1" "10.0.0.7:52110" "ztna-client" firstToken
    1735690200 true

/-- A refresh, and a revocation with the token it returned. -/
def sequentialRequests : List Event :=
  [deviceToken, .refresh firstToken, .refreshLookup 0 1735690300, .refreshUpdate 0 secondToken,
   .revoke secondToken, .revokeLookup 1 true, .revokeUpdate 1 true]

theorem sequentialRequests_redeemed :
    ∃ s, run (step recordedServer) .init sequentialRequests = some s ∧
      s.outcomes = [.refreshed firstToken "5f4dcc3b5aa765d61d8327deb882cf99",
        .revoked (some "5f4dcc3b5aa765d61d8327deb882cf99")] ∧ RedeemedOnce s := by
  refine ⟨_, rfl, rfl, ?_⟩
  refine (redeemed_once_iff recordedServer sequentialRequests _ rfl ?_ ?_).mpr (Or.inr ?_)
    sequentialRequests List.prefix_rfl _ rfl
  · have htokens : ∀ t, (∃ e ∈ sequentialRequests, t ∈ e.tokens) →
        t = firstToken ∨ t = secondToken := by
      rintro t ⟨e, he, ht⟩
      simp only [sequentialRequests, deviceToken, List.mem_cons, List.not_mem_nil, or_false] at he
      rcases he with rfl | rfl | rfl | rfl | rfl | rfl | rfl <;>
        simp only [Event.tokens, List.mem_singleton, List.not_mem_nil] at ht <;> simp [ht]
    rintro a ha b hb heq
    rcases htokens a ha with rfl | rfl <;> rcases htokens b hb with rfl | rfl
    · rfl
    · exact absurd heq (by decide)
    · exact absurd heq (by decide)
    · rfl
  · refine meets_cons trivial rfl (meets_cons trivial rfl (meets_cons trivial rfl (meets_cons trivial
      rfl (meets_cons trivial rfl (meets_cons ?_ rfl (meets_cons rfl rfl trivial))))))
    rintro t id row ⟨⟩ ⟨⟩ ⟨⟩
    exact Or.inr ⟨rfl, rfl⟩
  · refine meets_cons trivial rfl (meets_cons trivial rfl (meets_cons trivial rfl (meets_cons ?_ rfl
      (meets_cons trivial rfl (meets_cons trivial rfl (meets_cons trivial rfl trivial))))))
    rintro r sess ⟨⟩ ⟨⟩
    exact ⟨_, rfl, rfl, rfl⟩

/-- Two refreshes and a revocation look the same token up before any of them writes. -/
def concurrentRequests : List Event :=
  [deviceToken, .refresh firstToken, .refresh firstToken, .revoke firstToken,
   .refreshLookup 0 1735690300, .refreshLookup 1 1735690300, .revokeLookup 2 true,
   .refreshUpdate 0 secondToken, .revokeUpdate 2 true, .refreshUpdate 1 thirdToken]

/-- The token is redeemed twice, and the second time after the revocation. -/
theorem concurrent_refresh :
    ∃ s, run (step recordedServer) .init concurrentRequests = some s ∧
      s.outcomes = [.refreshed firstToken "5f4dcc3b5aa765d61d8327deb882cf99",
        .revoked (some "5f4dcc3b5aa765d61d8327deb882cf99"),
        .refreshed firstToken "5f4dcc3b5aa765d61d8327deb882cf99"] ∧ ¬ RedeemedOnce s := by
  refine ⟨_, rfl, rfl, ?_⟩
  intro honce
  have hfirst := List.rel_of_pairwise_cons honce
    (List.mem_cons_of_mem _ (List.mem_singleton_self _))
  exact hfirst rfl

end ZeroTrust.Admin.RefreshTokens
