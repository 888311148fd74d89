/-
# `ZeroTrust.Admin.SessionRevocation` — how far a session's revocation reaches

Every token goes back to a session: a login, an accepted invitation or a device exchange
creates one and answers with a token, a refresh adds a token to it, and the workspace
handlers hand out a token to whoever presents one, of the same session.  `Revoke` and
`RevokeAllForUser` set a column of `sessions`, which only `adminAuth` and `deviceAuth` read,
and only for tokens with a `jti`.  `workspaceAuth` and `withWorkspaceContext` never ask.

    `live_issue`               so whether a token is let in is a matter of its age
    `revocation_effective_iff` and a revocation is effective iff the session's tokens are
                               too old already

Events other than these are `world`: any change of the users, the workspaces and their
members, at any later time.
-/
import ZeroTrust.Lib.Run
import ZeroTrust.Admin.Workspaces

namespace ZeroTrust.Admin.SessionRevocation

open Lib
open Controller (Session SessionStore SessionType)

/-- Which function signed a token. -/
inductive Kind where
  | session
  | admin
  | device
  | workspace

def Kind.lifetime : Kind → Int
  | .device => 15 * 60
  | _ => 24 * 3600

/-- A token that was handed out, and the session it goes back to. -/
structure Issue where
  kind : Kind
  email : String
  issuedAt : Int
  sessionId : String
  token : Token

structure State where
  directory : Directory
  sessions : SessionStore
  now : Int
  issues : List Issue
  /-- The sessions revoked so far. -/
  revoked : List String

def State.init (directory : Directory) (now : Int) : State := ⟨directory, ∅, now, [], []⟩

/-- Where a request comes from. -/
structure Client where
  ipAddress : String
  userAgent : String

inductive Event where
  /-- `handleProviderCallback`, for an e-mail that may log in. -/
  | login (email sessionId : String) (client : Client)
  /-- `handleProviderCallback`, for an invitation to a workspace. -/
  | invite (email userId wsId role sessionId : String) (client : Client)
  /-- `handleDeviceToken`, once the code and the verifier are checked. -/
  | deviceToken (email userId wsId wsSlug sessionId refreshTokenHash : String) (client : Client)
  | deviceRefresh (tokenHash newHash : String)
  /-- The workspace handlers, for a request with the n-th token. -/
  | createWorkspace (n : Nat) (req : NewWorkspace)
  | selectWorkspace (n : Nat) (wsId : String)
  | revoke (id : String)
  | revokeAllForUser (userId : String)
  | cleanExpired
  | world (directory : Directory) (now : Int)

/-- A request with the token in its `Authorization` header. -/
def bearing (t : Token) : Request := ⟨none, some (.jwt t)⟩

def State.issue (s : State) (kind : Kind) (email sessionId : String) : Except String Token → State
  | .error _ => s
  | .ok t => { s with issues := s.issues ++ [⟨kind, email, s.now, sessionId, t⟩] }

/-- `Create`, whose error is ignored. -/
def State.createSession (s : State) (sess : Session) : State :=
  { s with sessions := (s.sessions.create sess).getD s.sessions }

/-- The row of a new session. -/
def newSession (id userId workspaceId : String) (sessionType : SessionType)
    (refreshTokenHash : String) (client : Client) (now lifetime : Int) : Session where
  id := id
  userId := userId
  workspaceId := workspaceId
  sessionType := sessionType
  deviceId := ""
  refreshTokenHash := refreshTokenHash
  ipAddress := client.ipAddress
  userAgent := client.userAgent
  createdAt := now
  expiresAt := now + lifetime
  revoked := false

section

variable (S : Server)

/-- The lookups and the signature of `handleDeviceRefresh`. -/
def refreshSession (s : State) (sess : Session) (newHash : String) : State :=
  let account := if sess.userId ≠ "" then s.directory.accounts.get sess.userId else none
  let workspace := if sess.userId ≠ "" then s.directory.workspaces.get sess.workspaceId else none
  let email := (account.map Account.email).getD ""
  let wsSlug := (workspace.map WorkspaceRow.slug).getD ""
  State.issue { s with sessions := s.sessions.updateRefreshToken sess.id newHash } .device email
    sess.id (signDeviceJWT S email sess.userId sess.workspaceId wsSlug sess.deviceId sess.id s.now)

def step (s : State) : Event → Option State
  | .login email sessionId client =>
      let userId := ((s.directory.getUserByEmail email).map Account.id).getD ""
      -- the workspace of a login is always empty, so the token is a plain session token
      some ((s.createSession (newSession sessionId userId "" .admin "" client s.now (24 * 3600))).issue
        .session email sessionId (signSessionJWT S email s.now))
  | .invite email userId wsId role sessionId client =>
      match s.directory.workspaces.get wsId with
      | none => some s
      | some ws =>
          some ((s.createSession
              (newSession sessionId userId ws.id .admin "" client s.now (24 * 3600))).issue
            .admin email sessionId (signAdminJWT S email userId ws.id ws.slug role sessionId s.now))
  | .deviceToken email userId wsId wsSlug sessionId refreshTokenHash client =>
      some ((s.createSession (newSession sessionId userId wsId .device refreshTokenHash client
          s.now (30 * 24 * 3600))).issue
        .device email sessionId (signDeviceJWT S email userId wsId wsSlug "" sessionId s.now))
  | .deviceRefresh tokenHash newHash =>
      match s.sessions.getByRefreshTokenHash tokenHash with
      | none => some s
      | some sess =>
          if sess.revoked ∨ s.now > sess.expiresAt then some s
          else some (refreshSession S s sess newHash)
  | .createWorkspace n req =>
      match s.issues[n]? with
      | none => none
      | some i =>
          match workspaceAuth S s.now (bearing i.token) with
          | .error _ => some s
          | .ok ctx =>
              let (directory, answer) := handleCreateWorkspace S s.directory ctx req s.now
              some (State.issue { s with directory } .workspace ctx.email i.sessionId answer)
  | .selectWorkspace n wsId =>
      match s.issues[n]? with
      | none => none
      | some i =>
          match workspaceAuth S s.now (bearing i.token) with
          | .error _ => some s
          | .ok ctx =>
              some (s.issue .workspace ctx.email i.sessionId
                (handleSelectWorkspace S s.directory ctx wsId s.now))
  | .revoke id =>
      some { s with sessions := s.sessions.revoke id, revoked := id :: s.revoked }
  | .revokeAllForUser userId =>
      some { s with
        sessions := s.sessions.revokeAllForUser userId
        revoked := ((s.sessions.rows.filter fun r => r.userId = userId).map Session.id) ++
          s.revoked }
  | .cleanExpired => some { s with sessions := s.sessions.cleanExpired s.now }
  | .world directory now => if s.now ≤ now then some { s with directory, now } else none

end

/-! ## Tokens by their age -/

/-- The token is the server's, for the e-mail, and expires when its kind does. -/
structure Issue.Sound (S : Server) (i : Issue) : Prop where
  key : i.token.key = S.jwtSecret
  secret : S.jwtSecret ≠ []
  sub : i.token.claims.sub = i.email
  exp : i.token.claims.exp = i.issuedAt + i.kind.lifetime

variable {S : Server}

theorem live_issue {i : Issue} (h : i.Sound S) (now : Int) :
    Live S now i.token ↔ now < i.issuedAt + i.kind.lifetime ∧ i.email ≠ "" :=
  live_iff h.secret h.key h.exp h.sub

/-- Every token handed out so far is sound. -/
def AllSound (S : Server) (s : State) : Prop := ∀ i ∈ s.issues, i.Sound S

theorem allSound_issue {s : State} (h : AllSound S s) {kind : Kind} {email sessionId : String}
    {answer : Except String Token}
    (hanswer : ∀ t, answer = .ok t → Issue.Sound S ⟨kind, email, s.now, sessionId, t⟩) :
    AllSound S (s.issue kind email sessionId answer) := by
  cases answer with
  | error text => exact h
  | ok t =>
      intro i hi
      rcases List.mem_append.mp hi with hold | hnew
      · exact h i hold
      · obtain rfl := List.mem_singleton.mp hnew
        exact hanswer t rfl

/-- Each of the signing functions. -/
theorem allSound_signed {s : State} {claims : Claims} {kind : Kind} {email sessionId : String}
    (h : AllSound S s) (hsub : claims.sub = email) (hexp : claims.exp = s.now + kind.lifetime) :
    AllSound S (s.issue kind email sessionId (signedString S claims)) := by
  refine allSound_issue h fun t ht => ?_
  obtain ⟨hsecret, rfl⟩ := signedString_ok ht
  exact ⟨rfl, hsecret, hsub, hexp⟩

theorem sound_of_workspaceToken {email sessionId : String} {now : Int} {t : Token}
    (h : IsWorkspaceToken S email now t) :
    Issue.Sound S ⟨.workspace, email, now, sessionId, t⟩ := ⟨h.key, h.secret, h.sub, h.exp⟩

theorem allSound_step {s s' : State} {e : Event} (h : AllSound S s)
    (hstep : step S s e = some s') : AllSound S s' := by
  cases e with
  | login email sessionId client =>
      cases hstep
      refine allSound_signed ?_ rfl rfl
      exact h
  | invite email userId wsId role sessionId client =>
      simp only [step] at hstep
      split at hstep
      · cases hstep
        exact h
      · cases hstep
        refine allSound_signed ?_ rfl rfl
        exact h
  | deviceToken email userId wsId wsSlug sessionId refreshTokenHash client =>
      cases hstep
      refine allSound_signed ?_ rfl rfl
      exact h
  | deviceRefresh tokenHash newHash =>
      simp only [step] at hstep
      split at hstep
      · cases hstep
        exact h
      · split at hstep
        · cases hstep
          exact h
        · cases hstep
          refine allSound_signed ?_ rfl rfl
          exact h
  | createWorkspace n req =>
      simp only [step] at hstep
      split at hstep
      · cases hstep
      · split at hstep
        · cases hstep
          exact h
        next ctx hctx =>
          cases hstep
          have hkept : AllSound S { s with
              directory := (handleCreateWorkspace S s.directory ctx req s.now).1 } := h
          exact allSound_issue hkept fun t ht => sound_of_workspaceToken (createWorkspace_ok ht)
  | selectWorkspace n wsId =>
      simp only [step] at hstep
      split at hstep
      · cases hstep
      · split at hstep
        · cases hstep
          exact h
        · cases hstep
          exact allSound_issue h fun t ht => sound_of_workspaceToken (selectWorkspace_ok ht)
  | revoke id =>
      cases hstep
      exact h
  | revokeAllForUser userId =>
      cases hstep
      exact h
  | cleanExpired =>
      cases hstep
      exact h
  | world directory now =>
      simp only [step] at hstep
      split at hstep
      · cases hstep
        exact h
      · cases hstep

/-! ## When a revocation is effective -/

/-- No middleware lets a request with the token in, or takes its claims. -/
def Refused (S : Server) (s : State) (t : Token) : Prop :=
  ∀ r, Presents S t r →
    (∀ ctx, adminAuth S s.directory.accounts s.sessions s.now r ≠ .ok ctx) ∧
    (∀ ctx, deviceAuth S s.sessions s.now r ≠ .ok ctx) ∧
    (∀ ctx, workspaceAuth S s.now r ≠ .ok ctx) ∧
    withWorkspaceContext S s.now r = none

/-- `workspaceAuth` alone decides it. -/
theorem refused_iff (s : State) (t : Token) : Refused S s t ↔ ¬ Live S s.now t := by
  constructor
  · intro hrefused hlive
    obtain ⟨ctx, hctx⟩ := (workspaceAuth_isOk (presents_bearer S t)).mpr hlive
    exact (hrefused _ (presents_bearer S t)).2.2.1 ctx hctx
  · intro hdead r hr
    refine ⟨fun ctx hctx => ?_, deviceAuth_of_not_live hdead hr s.sessions, fun ctx hctx => ?_,
      withWorkspaceContext_of_not_live hdead hr⟩
    · exact hdead ((adminAuth_isOk hr _ _).mp ⟨ctx, hctx⟩).2.1
    · exact hdead ((workspaceAuth_isOk hr).mp ⟨ctx, hctx⟩)

/-- **When a revocation is effective.**  In every state reached, no token of a revoked
session (issued for it, or obtained with one of its tokens) is accepted anywhere if and
only if each of them was issued longer ago than its kind lives, or for an empty e-mail. -/
theorem revocation_effective_iff (S : Server) (directory : Directory) (now : Int)
    (es : List Event) (s : State) (hrun : run (step S) (.init directory now) es = some s) :
    (∀ i ∈ s.issues, i.sessionId ∈ s.revoked → Refused S s i.token) ↔
      ∀ i ∈ s.issues, i.sessionId ∈ s.revoked →
        i.issuedAt + i.kind.lifetime ≤ s.now ∨ i.email = "" := by
  have hsound : AllSound S s :=
    run_invariant (motive := AllSound S) (fun _ _ _ h hstep => allSound_step h hstep)
      (fun i hi => absurd hi List.not_mem_nil) hrun
  have hage : ∀ i ∈ s.issues, Refused S s i.token ↔
      i.issuedAt + i.kind.lifetime ≤ s.now ∨ i.email = "" := by
    intro i hi
    rw [refused_iff, live_issue (hsound i hi), not_and_or, Int.not_lt, not_not]
  constructor
  · intro hall i hi hrevoked
    exact (hage i hi).mp (hall i hi hrevoked)
  · intro hall i hi hrevoked
    exact (hage i hi).mpr (hall i hi hrevoked)

def browser : Client := ⟨"10.0.0.7:52110", "Mozilla/5.0"⟩

/-- A device's session is revoked a quarter of an hour after its token was issued. -/
def lateRevocation : List Event :=
  [.deviceToken "bob@acme.io" "usr_2" "ws_1" "acme" "5f4dcc3b5aa765d6" "2bb80d537b1da3e3" browser,
   .world exampleDirectory 1735691100, .revoke "5f4dcc3b5aa765d6"]

theorem lateRevocation_effective :
    ∃ s, run (step exampleServer) (.init exampleDirectory 1735690200) lateRevocation = some s ∧
      s.issues.map Issue.sessionId = ["5f4dcc3b5aa765d6"] ∧ s.revoked = ["5f4dcc3b5aa765d6"] ∧
      ∀ i ∈ s.issues, i.sessionId ∈ s.revoked → Refused exampleServer s i.token := by
  refine ⟨_, rfl, rfl, rfl, ?_⟩
  refine (revocation_effective_iff exampleServer exampleDirectory 1735690200 lateRevocation _
    rfl).mpr fun i hi _ => Or.inl ?_
  obtain rfl := List.mem_singleton.mp hi
  decide

/-- Somebody logs in, and the session is revoked at once. -/
def promptRevocation : List Event :=
  [.login "alice@acme.io" "5f4dcc3b5aa765d6" browser, .revoke "5f4dcc3b5aa765d6"]

/-- The token still opens every door. -/
theorem promptRevocation_ineffective :
    ∃ s i admin workspace context,
      run (step exampleServer) (.init exampleDirectory 1735690200) promptRevocation = some s ∧
      i ∈ s.issues ∧ i.sessionId ∈ s.revoked ∧
      adminAuth exampleServer s.directory.accounts s.sessions s.now (bearing i.token) = .ok admin ∧
      workspaceAuth exampleServer s.now (bearing i.token) = .ok workspace ∧
      withWorkspaceContext exampleServer s.now (bearing i.token) = some context := by
  exact ⟨_, _, _, _, _, rfl, List.mem_singleton_self _, List.mem_singleton_self _, rfl, rfl, rfl⟩

end ZeroTrust.Admin.SessionRevocation
