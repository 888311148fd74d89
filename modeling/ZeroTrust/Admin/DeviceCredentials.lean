/-
# `ZeroTrust.Admin.DeviceCredentials` — what a device token can be exchanged for

A party holds device tokens and sends requests to the authenticated routes with them and
with whatever tokens it gets back.  `adminAuth` turns device tokens away, but
`workspaceAuth` looks at neither `aud` nor `jti`, and two handlers behind it answer with a
token that has neither:

    POST /api/workspaces                 `createWorkspace`
    POST /api/workspaces/{id}/select     `selectWorkspace`

Everything else that happens — the party's other requests, which return no token, anybody
else's, the clock — is `world`: it leaves any tables, any sessions and any later time.

    `held_run`                 a token of the party is a device token, or a workspace token
                               of an e-mail it has exchanged
    `device_not_admin_iff`     so `adminAuth` accepts one iff such an e-mail, exchanged
                               less than a day ago, is an administrator's
-/
import ZeroTrust.Lib.Run
import ZeroTrust.Admin.Workspaces

namespace ZeroTrust.Admin.DeviceCredentials

open Lib
open Controller (SessionStore)

structure State where
  directory : Directory
  sessions : SessionStore
  now : Int
  /-- The party's tokens. -/
  held : List Token
  /-- The e-mails of its successful exchanges, with their times. -/
  exchanged : List (String × Int)

/-- Nothing has been exchanged yet. -/
def State.init (directory : Directory) (sessions : SessionStore) (now : Int)
    (held : List Token) : State := ⟨directory, sessions, now, held, []⟩

inductive Event where
  | createWorkspace (r : Request) (req : NewWorkspace)
  | selectWorkspace (r : Request) (wsId : String)
  | world (directory : Directory) (sessions : SessionStore) (now : Int)

/-- The party can only present tokens it holds. -/
def Credential.knownTo (held : List Token) : Credential → Bool
  | .text _ => true
  | .jwt t => t ∈ held

def State.knows (s : State) (r : Request) : Bool :=
  r.cookie.all (Credential.knownTo s.held) && r.bearer.all (Credential.knownTo s.held)

/-- The party keeps the token it was answered with. -/
def State.receive (s : State) (email : String) : Except String Token → State
  | .error _ => s
  | .ok t => { s with held := s.held ++ [t], exchanged := s.exchanged ++ [(email, s.now)] }

def step (S : Server) (s : State) : Event → Option State
  | .createWorkspace r req =>
      if s.knows r then
        match workspaceAuth S s.now r with
        | .error _ => some s
        | .ok ctx =>
            let (directory, answer) := handleCreateWorkspace S s.directory ctx req s.now
            some (State.receive { s with directory } ctx.email answer)
      else none
  | .selectWorkspace r wsId =>
      if s.knows r then
        match workspaceAuth S s.now r with
        | .error _ => some s
        | .ok ctx =>
            some (s.receive ctx.email (handleSelectWorkspace S s.directory ctx wsId s.now))
      else none
  | .world directory sessions now =>
      if s.now ≤ now then some { s with directory, sessions, now } else none

/-- A device token of the server. -/
def IsDeviceToken (S : Server) (t : Token) : Prop :=
  ∃ email userId wsId wsSlug deviceId sessionId now,
    signDeviceJWT S email userId wsId wsSlug deviceId sessionId now = .ok t

theorem aud_of_isDeviceToken {S : Server} {t : Token} (h : IsDeviceToken S t) :
    t.claims.all.aud = "device" := by
  obtain ⟨_, _, _, _, _, _, _, hsign⟩ := h
  obtain ⟨-, rfl⟩ := signedString_ok hsign
  rfl

/-- What the party holds, and what it has exchanged. -/
structure Held (S : Server) (s : State) : Prop where
  tokens : ∀ t ∈ s.held, IsDeviceToken S t ∨ ∃ x ∈ s.exchanged, IsWorkspaceToken S x.1 x.2 t
  exchanged : ∀ x ∈ s.exchanged, x.1 ≠ "" ∧ ∃ t ∈ s.held, IsWorkspaceToken S x.1 x.2 t

theorem held_receive {S : Server} {s : State} (h : Held S s) {email : String} (hemail : email ≠ "")
    {answer : Except String Token}
    (hanswer : ∀ t, answer = .ok t → IsWorkspaceToken S email s.now t) :
    Held S (s.receive email answer) := by
  cases answer with
  | error text => exact h
  | ok t =>
      have ht := hanswer t rfl
      constructor
      · intro t' ht'
        rcases List.mem_append.mp ht' with hold | hnew
        · rcases h.tokens t' hold with hdevice | ⟨x, hx, hworkspace⟩
          · exact Or.inl hdevice
          · exact Or.inr ⟨x, List.mem_append_left _ hx, hworkspace⟩
        · obtain rfl := List.mem_singleton.mp hnew
          exact Or.inr ⟨_, List.mem_append_right _ (List.mem_singleton_self _), ht⟩
      · intro x hx
        rcases List.mem_append.mp hx with hold | hnew
        · obtain ⟨hne, t', ht', hworkspace⟩ := h.exchanged x hold
          exact ⟨hne, t', List.mem_append_left _ ht', hworkspace⟩
        · obtain rfl := List.mem_singleton.mp hnew
          exact ⟨hemail, t, List.mem_append_right _ (List.mem_singleton_self _), ht⟩

theorem held_step {S : Server} {s s' : State} {e : Event} (h : Held S s)
    (hstep : step S s e = some s') : Held S s' := by
  cases e with
  | createWorkspace r req =>
      simp only [step] at hstep
      split at hstep
      · split at hstep
        · cases hstep
          exact h
        next ctx hctx =>
          cases hstep
          have hkept : Held S { s with
              directory := (handleCreateWorkspace S s.directory ctx req s.now).1 } :=
            ⟨h.tokens, h.exchanged⟩
          exact held_receive hkept (workspaceAuth_email hctx) fun t ht => createWorkspace_ok ht
      · cases hstep
  | selectWorkspace r wsId =>
      simp only [step] at hstep
      split at hstep
      · split at hstep
        · cases hstep
          exact h
        next ctx hctx =>
          cases hstep
          exact held_receive h (workspaceAuth_email hctx) fun t ht => selectWorkspace_ok ht
      · cases hstep
  | world directory sessions now =>
      simp only [step] at hstep
      split at hstep
      · cases hstep
        exact ⟨h.tokens, h.exchanged⟩
      · cases hstep

theorem held_run {S : Server} {directory : Directory} {sessions : SessionStore} {now : Int}
    {tokens : List Token} (htokens : ∀ t ∈ tokens, IsDeviceToken S t) {es : List Event} {s : State}
    (hrun : run (step S) (.init directory sessions now tokens) es = some s) : Held S s := by
  refine run_invariant (motive := Held S) (fun _ _ _ h hstep => held_step h hstep) ?_ hrun
  exact ⟨fun t ht => Or.inl (htokens t ht), fun x hx => absurd hx List.not_mem_nil⟩

/-- What `adminAuth` requires of a workspace token. -/
theorem adminAuth_workspaceToken {S : Server} {email : String} {issued now : Int} {t : Token}
    (ht : IsWorkspaceToken S email issued t) {r : Request} (hr : Presents S t r)
    (accounts : Accounts) (sessions : SessionStore) :
    (∃ ctx, adminAuth S accounts sessions now r = .ok ctx) ↔
      S.adminAuthToken ≠ "" ∧ (now < issued + 24 * 3600 ∧ email ≠ "") ∧
        isAdminEmail S accounts email = true := by
  have haud : t.claims.all.aud ≠ "device" := by
    simp [Claims.all, ht.aud]
  have hjti : sessionRevoked sessions t.claims.all.jti now = false := by
    simp [sessionRevoked, Claims.all, ht.jti]
  rw [adminAuth_isOk hr, live_workspaceToken ht, ht.sub]
  simp only [haud, hjti, ne_eq, not_false_eq_true, true_and]

/-- **When device tokens give no administrator's token.**  A party that started with device
tokens holds none that `adminAuth` accepts if and only if no e-mail it has exchanged a
token for within the last day is an administrator's (or the admin API is not configured). -/
theorem device_not_admin_iff (S : Server) (directory : Directory) (sessions : SessionStore)
    (now : Int) (tokens : List Token) (htokens : ∀ t ∈ tokens, IsDeviceToken S t)
    (es : List Event) (s : State)
    (hrun : run (step S) (.init directory sessions now tokens) es = some s) :
    (∀ t ∈ s.held, ∀ r, Presents S t r →
      ∀ ctx, adminAuth S s.directory.accounts s.sessions s.now r ≠ .ok ctx) ↔
    (S.adminAuthToken = "" ∨ ∀ x ∈ s.exchanged, s.now < x.2 + 24 * 3600 →
      isAdminEmail S s.directory.accounts x.1 = false) := by
  have hheld := held_run htokens hrun
  constructor
  · intro hall
    by_cases hadmin : S.adminAuthToken = ""
    · exact Or.inl hadmin
    refine Or.inr fun x hx hnow => ?_
    obtain ⟨hemail, t, ht, hworkspace⟩ := hheld.exchanged x hx
    by_contra hyes
    rw [Bool.not_eq_false] at hyes
    obtain ⟨ctx, hctx⟩ := (adminAuth_workspaceToken hworkspace (presents_bearer S t)
      s.directory.accounts s.sessions).mpr ⟨hadmin, ⟨hnow, hemail⟩, hyes⟩
    exact hall t ht _ (presents_bearer S t) ctx hctx
  · intro hcond t ht r hr ctx hctx
    rcases hheld.tokens t ht with hdevice | ⟨x, hx, hworkspace⟩
    · obtain ⟨-, -, haud, -⟩ := (adminAuth_isOk hr _ _).mp ⟨ctx, hctx⟩
      exact haud (aud_of_isDeviceToken hdevice)
    · obtain ⟨hadmin, ⟨hnow, -⟩, hyes⟩ :=
        (adminAuth_workspaceToken hworkspace hr _ _).mp ⟨ctx, hctx⟩
      rcases hcond with hnone | hno
      · exact hadmin hnone
      · rw [hno x hx hnow] at hyes
        cases hyes

/-! ### A member and an owner -/

/-- The device token of a user in the workspace. -/
def deviceToken (email userId : String) : Token where
  key := exampleServer.jwtSecret
  claims :=
    { sub := email, uid := userId, wid := "ws_1", wslug := "acme", aud := "device", did := "",
      jti := "5f4dcc3b5aa765d61d8327deb882cf99", exp := 1735691100, iat := 1735690200 }

theorem deviceToken_isDeviceToken (email userId : String) :
    ∀ t ∈ [deviceToken email userId], IsDeviceToken exampleServer t := by
  intro t ht
  obtain rfl := List.mem_singleton.mp ht
  exact ⟨email, userId, "ws_1", "acme", "", "5f4dcc3b5aa765d61d8327deb882cf99", 1735690200, rfl⟩

/-- The device selects the workspace. -/
def selection (email userId : String) : List Event :=
  [.selectWorkspace ⟨none, some (.jwt (deviceToken email userId))⟩ "ws_1"]

/-- Bob gets a token of the workspace, which `adminAuth` does not accept. -/
theorem member_not_admin :
    ∃ s, run (step exampleServer) (.init exampleDirectory ∅ 1735690300
        [deviceToken "bob@acme.io" "usr_2"]) (selection "bob@acme.io" "usr_2") = some s ∧
      s.exchanged = [("bob@acme.io", 1735690300)] ∧
      ∀ t ∈ s.held, ∀ r, Presents exampleServer t r →
        ∀ ctx, adminAuth exampleServer s.directory.accounts s.sessions s.now r ≠ .ok ctx := by
  refine ⟨_, rfl, rfl, ?_⟩
  refine (device_not_admin_iff exampleServer exampleDirectory ∅ 1735690300 _
    (deviceToken_isDeviceToken "bob@acme.io" "usr_2") (selection "bob@acme.io" "usr_2") _
    rfl).mpr (Or.inr fun x hx _ => ?_)
  obtain rfl := List.mem_singleton.mp hx
  decide

/-- Alice's device becomes an administrator. -/
theorem owner_becomes_admin :
    ∃ s t ctx, run (step exampleServer) (.init exampleDirectory ∅ 1735690300
        [deviceToken "alice@acme.io" "usr_1"]) (selection "alice@acme.io" "usr_1") = some s ∧
      t ∈ s.held ∧
      adminAuth exampleServer s.directory.accounts s.sessions s.now ⟨none, some (.jwt t)⟩ =
        .ok ctx := by
  refine ⟨_, _, _, rfl, List.mem_append_right _ (List.mem_singleton_self _), rfl⟩

end ZeroTrust.Admin.DeviceCredentials
