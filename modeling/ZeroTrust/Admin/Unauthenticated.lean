/-
# `ZeroTrust.Admin.Unauthenticated` — what a request without credentials can change

A request is served by the mux of `Routes`, its wrapper and its handler.  One that carries
neither the admin token, nor the internal token, nor a token signed with the server's key,
is `Anonymous`; of the tables it can then reach

    bare                    users and workspace_members, by an insertion for the e-mail
                            address of a login that is completed by the request
    withWorkspaceContext    whatever the UI's request writes: the wrapper asks for nothing
    the others              none, whatever the handlers behind them do (`behind`)

so that the UI's writing branches (`Routes.uiWrites`) are the exception to
`anonymous_request`.

The columns of `users` are kept in two places: `dir.accounts` has those that a login reads,
`tables.db.users` those that the policy compiler reads.  Of `connectors` and `tunnelers`
only the columns are kept that another table or the compiler refers to.
-/
import ZeroTrust.Admin.Routes
import ZeroTrust.Admin.OAuthFlows
import ZeroTrust.Admin.Ownership
import ZeroTrust.Controller.AclStore
import ZeroTrust.Controller.EnrolmentTokens

namespace ZeroTrust.Admin.Unauthenticated

open Lib
open Controller (SessionStore UserRow ConnectorRow RemoteNetworkConnectorRow ResourceRow
  AccessRuleRow AccessRuleGroupRow UserGroupMemberRow)
open Controller.AclStore (AuthorizationRow)
open Controller.EnrolmentTokens (TokenRow)
open DeviceFlow (DeviceServer OAuthStates AuthRequest DeviceCodes DeviceCodeEntry storeOAuthState
  consumeOAuthState storeDeviceCode consumeDeviceCode verifyPkce)
open PolicyRequests (Tables PolicyRequest UserGroupRow RemoteNetworkRow)
open Routes

/-! ## The state -/

structure TunnelerRow where
  id : String
  name : String
  remoteNetworkId : String
  connectorId : String
  revoked : Bool
  deriving DecidableEq

/-- A row of `invite_tokens`. -/
structure LegacyInviteRow where
  token : String
  email : String
  expiresAt : Int
  used : Bool
  deriving DecidableEq

structure World where
  dir : Directory
  tables : Tables
  authorizations : Table AuthorizationRow.key
  tunnelers : Table TunnelerRow.id
  tokens : Table TokenRow.token
  workspaceInvites : Table Membership.InviteRow.token
  inviteTokens : Table LegacyInviteRow.token
  deviceAuthRequests : Table AuthRequest.state
  /-- The two maps of the process. -/
  oauthStates : OAuthStates
  deviceCodes : DeviceCodes

/-- The tables of the policy. -/
structure PolicyTables where
  userGroups : Table UserGroupRow.id
  userGroupMembers : Table (id : UserGroupMemberRow → UserGroupMemberRow)
  accessRules : Table AccessRuleRow.id
  accessRuleGroups : Table (id : AccessRuleGroupRow → AccessRuleGroupRow)
  resources : Table ResourceRow.id
  authorizations : Table AuthorizationRow.key
  remoteNetworks : Table RemoteNetworkRow.id
  remoteNetworkConnectors : Table (id : RemoteNetworkConnectorRow → RemoteNetworkConnectorRow)
  connectors : Table ConnectorRow.id
  tunnelers : Table TunnelerRow.id
  tokens : Table TokenRow.token

def World.policyTables (w : World) : PolicyTables where
  userGroups := w.tables.userGroups
  userGroupMembers := w.tables.db.userGroupMembers
  accessRules := w.tables.db.accessRules
  accessRuleGroups := w.tables.db.accessRuleGroups
  resources := w.tables.db.resources
  authorizations := w.authorizations
  remoteNetworks := w.tables.remoteNetworks
  remoteNetworkConnectors := w.tables.db.remoteNetworkConnectors
  connectors := w.tables.db.connectors
  tunnelers := w.tunnelers
  tokens := w.tokens

/-! ## The server -/

structure Config where
  device : DeviceServer
  libraries : Controller.Libraries
  internalAuthToken : String
  /-- `OAuthConfig` and `GitHubOAuthConfig` are set. -/
  google : Bool
  github : Bool

def Config.server (conf : Config) : Server := conf.device.toServer

/-- What a handler finds outside of the request and the state. -/
structure Call where
  now : SystemTime
  sessions : SessionStore
  madeUp : MadeUp
  /-- Random bytes, or an error. -/
  random : Option (List UInt8)
  /-- What the identity provider answers: an e-mail address, if all goes well. -/
  identity : Option String
  /-- The identity provider of the workspace. -/
  idpId : Option String
  /-- The outcome of a statement whose error the UI's handlers look at. -/
  statement : PolicyRequests.Env
  /-- `isoStringNow()`. -/
  isoNow : String

section Handlers

variable (conf : Config) (call : Call)

def World.createUser (w : World) (a : Account) (certificateIdentity : Option String) :
    Option World :=
  (Membership.createUser conf.server w.dir a).map fun dir =>
    { w with
      dir
      tables.db.users := w.tables.db.users.put ⟨a.id, a.status, certificateIdentity⟩ }

/-! ## Handlers without a wrapper -/

def World.storeState (w : World) (state : String) : World :=
  { w with oauthStates := storeOAuthState w.oauthStates state call.now }

/-- `handleProviderLogin`. -/
def providerLogin (configured : Bool) (req : HttpRequest) (w : World) : World :=
  match configured, call.random with
  | true, some bytes =>
      let q : OAuthFlows.LoginQuery :=
        { flow := req.query "flow", wsName := req.query "ws_name", wsSlug := req.query "ws_slug"
          signupId := req.query "signup_id", returnTo := req.query "return_to" }
      w.storeState call (OAuthFlows.loginState q bytes).2
  | _, _ => w

def setLegacyUsed (token : String) (row : LegacyInviteRow) : LegacyInviteRow :=
  if row.token = token then { row with used := true } else row

theorem setLegacyUsed_token (token : String) (row : LegacyInviteRow) :
    (setLegacyUsed token row).token = row.token := by
  unfold setLegacyUsed
  split <;> rfl

/-- An invitation that may be redeemed by the e-mail address now. -/
def redeemable (email inviteEmail : String) (used : Bool) (expiresAt : Int) : Bool :=
  !used && !decide (call.now / nanosPerSec > expiresAt) &&
    conf.server.unicode.stringsToLower inviteEmail = email

/-- The record of an invited user; an error is only logged. -/
def createInvited (email : String) (w : World) : World :=
  (w.createUser conf ⟨call.madeUp.newID, email, "Active", "Member"⟩ none).getD w

/-- The invitation branch of `handleProviderCallback`, once the e-mail address is known. -/
def redeemInvite (token email : String) (w : World) : World :=
  match w.workspaceInvites.get token, w.inviteTokens.get token with
  | some row, _ =>
      if redeemable conf call email row.email row.used row.expiresAt then
        let w := createInvited conf call email w
        let userID := ((w.dir.getUserByEmail email).map Account.id).getD ""
        let workspaceInvites :=
          w.workspaceInvites.update (Membership.setUsed token) (Membership.setUsed_token token)
        let w := { w with workspaceInvites }
        if userID ≠ "" ∧ row.workspaceId ≠ "" then
          let role := if row.role = "" then "member" else row.role
          { w with dir :=
            (Membership.addMember w.dir ⟨row.workspaceId, userID, role⟩).getD w.dir }
        else w
      else w
  | none, some row =>
      if redeemable conf call email row.email row.used row.expiresAt then
        let w := createInvited conf call email w
        let inviteTokens := w.inviteTokens.update (setLegacyUsed token) (setLegacyUsed_token token)
        { w with inviteTokens }
      else w
  | none, none => w

/-- `handleProviderCallback`; the session that follows is in none of these tables. -/
def providerCallback (configured : Bool) (req : HttpRequest) (w : World) : World :=
  if !configured then w
  else
    let stateParam := req.query "state"
    let consumed := consumeOAuthState w.oauthStates stateParam call.now
    let w := { w with oauthStates := consumed.1 }
    match consumed.2, call.identity with
    | true, some emailAddr =>
        let email := conf.server.unicode.stringsToLower emailAddr
        match OAuthFlows.detectFlow stateParam with
        | .invite => redeemInvite conf call (dropLeading "invite:" stateParam) email w
        | .signup =>
            (w.createUser conf ⟨call.madeUp.newID, email, "Active", "Owner"⟩ none).getD w
        | _ => w
    | _, _ => w

/-- `handleInviteAccept`: a good token is put into the state. -/
def inviteAccept (req : HttpRequest) (w : World) : World :=
  let token := req.query "token"
  let found :=
    (w.workspaceInvites.get token).map (fun row => (row.used, row.expiresAt)) |>.or
      ((w.inviteTokens.get token).map fun row => (row.used, row.expiresAt))
  match conf.google && token ≠ "", found with
  | true, some (used, expiresAt) =>
      if used || decide (call.now / nanosPerSec > expiresAt) then w
      else w.storeState call ("invite:" ++ token)
  | _, _ => w

def deviceAuthorize (req : HttpRequest) (w : World) : World :=
  match req.body.deviceAuthorize.filter fun _ => req.method = "POST", call.random with
  | some (tenantSlug, codeChallenge, codeChallengeMethod, redirectUri), some bytes =>
      let body : DeviceFlow.AuthorizeRequest :=
        { tenantSlug, codeChallenge, codeChallengeMethod, redirectUri }
      match DeviceFlow.resolveAuthorize conf.device (.init call.now w.dir.workspaces) body
          call.idpId with
      | .error _ => w
      | .ok wsId =>
          let deviceState := "device:" ++ OAuthFlows.randomHex bytes
          let row : AuthRequest :=
            { state := deviceState, workspaceId := wsId, codeChallenge, redirectUri
              idpId := call.idpId.getD "", createdAt := call.now / nanosPerSec
              expiresAt := (call.now + DeviceFlow.stateTtl) / nanosPerSec }
          match w.deviceAuthRequests.insert row with
          | none => w
          | some deviceAuthRequests => { w with deviceAuthRequests }.storeState call deviceState
  | _, _ => w

/-- `handleDeviceCallback`: what is stored is a one-time code for the e-mail address. -/
def deviceCallback (req : HttpRequest) (w : World) : World :=
  let stateParam := req.query "state"
  if !DeviceFlow.hasDevicePrefix stateParam then w
  else
    let consumed := consumeOAuthState w.oauthStates stateParam call.now
    let w := { w with oauthStates := consumed.1 }
    match consumed.2, w.deviceAuthRequests.get stateParam with
    | true, some row =>
        if call.now / nanosPerSec > row.expiresAt then w
        else
          let deviceAuthRequests := w.deviceAuthRequests.filter fun r => r.state ≠ stateParam
          let w := { w with deviceAuthRequests }
          match call.identity, call.random with
          | some emailAddr, some bytes =>
              if emailAddr = "" then w
              else
                let entry : DeviceCodeEntry :=
                  { code := OAuthFlows.randomHex bytes
                    email := conf.server.unicode.stringsToLower emailAddr
                    wsId := row.workspaceId
                    wsSlug := ((w.dir.workspaces.get row.workspaceId).map WorkspaceRow.slug).getD ""
                    state := stateParam, codeChallenge := row.codeChallenge
                    expiresAt := call.now + DeviceFlow.codeTtl }
                { w with deviceCodes := storeDeviceCode w.deviceCodes entry call.now }
          | _, _ => w
    | _, _ => w

/-- The body of a token request that passes the first checks. -/
def tokenBody (req : HttpRequest) : Option TokenBody :=
  req.body.deviceToken.filter fun b => req.method = "POST" ∧ b.code ≠ "" ∧ b.codeVerifier ≠ ""

/-- The login that the code of a token request stands for, if it is good and the verifier
fits. -/
def redeemedCode (req : HttpRequest) (w : World) : Option DeviceCodeEntry := do
  let b ← tokenBody req
  let entry ← (consumeDeviceCode w.deviceCodes b.code call.now).2
  match verifyPkce conf.device entry b.codeVerifier with
  | .refused => none
  | _ => some entry

/-- The code is gone in any case. -/
def dropCode (req : HttpRequest) (w : World) : World :=
  match tokenBody req with
  | none => w
  | some b => { w with deviceCodes := (consumeDeviceCode w.deviceCodes b.code call.now).1 }

/-- `handleDeviceToken`: the user of the code is looked up, or made. -/
def deviceToken (req : HttpRequest) (w : World) : World :=
  let entry := redeemedCode conf call req w
  let w := dropCode call req w
  match entry with
  | none => w
  | some entry =>
      if (w.dir.getUserByEmail entry.email).isSome then w
      else
        (w.createUser conf ⟨call.madeUp.newID, entry.email, "Active", "Member"⟩ none).getD w

def servePublic (req : HttpRequest) (w : World) : PublicHandler → World
  | .oauthLogin => providerLogin call conf.google req w
  | .githubLogin => providerLogin call conf.github req w
  | .oauthCallback => providerCallback conf call conf.google req w
  | .githubCallback => providerCallback conf call conf.github req w
  | .inviteAccept => inviteAccept conf call req w
  | .deviceAuthorize => deviceAuthorize conf call req w
  | .deviceCallback => deviceCallback conf call req w
  | .deviceToken => deviceToken conf call req w
  -- these read, or write to `sessions` and the audit log
  | .caCert | .workspaceLookup | .oauthLogout | .deviceRefresh | .deviceRevoke => w

/-! ## The UI's handlers -/

def World.withTables (w : World) (tables : Tables) : World := { w with tables }

/-- A request of the UI with the context of its caller. -/
def uiEffect (ctx : Context) (w : World) : UiRequest → World
  | .policy (.uiCreateUser id certID name email status) =>
      if name = "" ∨ email = "" then w
      else
        let unicode := conf.server.unicode
        let status := if unicode.stringsToLower status = "inactive" then "inactive" else "active"
        match w.createUser conf ⟨id, unicode.stringsToLower (trim email), status, "Member"⟩
            (some certID) with
        | none => w
        | some w =>
            if ctx.wsId ≠ "" then
              { w with dir := (Membership.addMember w.dir ⟨ctx.wsId, id, "member"⟩).getD w.dir }
            else w
  | .policy (.uiDeleteUser userID) =>
      if userID = "" then w
      else
        let dir := if ctx.wsId ≠ "" then Membership.removeMember w.dir ctx.wsId userID else w.dir
        match Membership.deleteUserRow dir userID with
        | none => { w with dir }
        | some dir =>
            { w with
              dir
              tables.db.users := w.tables.db.users.filter fun u => u.id ≠ userID }
  | .policy r =>
      let w' := w.withTables (PolicyRequests.handle conf.libraries call.statement w.tables r).tables
      match r with
      | .uiDeleteConnector connectorID =>
          { w' with
            tunnelers := w.tunnelers.filter fun t => t.connectorId ≠ connectorID
            tokens := w.tokens.filter fun t => t.connectorId ≠ connectorID }
      | .uiRevokeConnector connectorID =>
          { w' with tokens := w.tokens.filter fun t => t.connectorId ≠ connectorID }
      | .uiDeleteNetwork networkID =>
          let inNetwork (connectorId : String) : Bool :=
            w.tables.db.connectors.rows.any fun c =>
              c.id = connectorId && c.remoteNetworkId = networkID
          { w' with
            authorizations := w.authorizations.filter fun a =>
              !w.tables.db.resources.rows.any fun r =>
                r.id = a.resourceId && r.remoteNetworkId = networkID
            tunnelers := w.tunnelers.filter fun t => t.remoteNetworkId ≠ networkID
            tokens := w.tokens.filter fun t => !inNetwork t.connectorId }
      | _ => w'
  | .createAgent id body =>
      if body.name = "" then w
      else
        match w.tunnelers.insert ⟨id, body.name, body.remoteNetworkID, body.connectorID, false⟩ with
        | none => w
        | some tunnelers => { w with tunnelers }
  | .deleteAgent agentID => { w with tunnelers := w.tunnelers.filter fun t => t.id ≠ agentID }
  | .revokeAgent agentID => setRevoked agentID true
  | .grantAgent agentID => setRevoked agentID false
where
  setRevoked (agentID : String) (revoked : Bool) : World :=
    let tunnelers := w.tunnelers.update
      (fun t => if t.id = agentID then { t with revoked } else t)
      fun t => by split <;> rfl
    { w with tunnelers }

/-- `handleUIPolicyCompile` and `handleUIPolicyACL` record the version of what they compile. -/
def compilePolicy (pre : String) (req : HttpRequest) (w : World) : World :=
  let rest := ((dropLeading pre req.path).toList.dropWhile (· = '/')).rdropWhile (· = '/')
  let connectorID := String.ofList rest
  if req.method ≠ "GET" ∨ connectorID = "" then w
  else
    match PolicyRequests.lookupConnectorNetworkID w.tables.db connectorID with
    | none => w
    | some networkID =>
        let resources := Controller.policyResources conf.libraries w.tables.db networkID
        let db := (Controller.policyVersion w.tables.db connectorID
          (Controller.policyHash conf.libraries resources) call.isoNow).1
        w.withTables { w.tables with db }

def serveUi (ctx : Context) (req : HttpRequest) (w : World) (h : UiHandler) : World :=
  match uiRequest call.madeUp req (subpath h.pattern req.path) h, h with
  | some r, _ => uiEffect conf call ctx w r
  | none, .policyCompile => compilePolicy conf call "/api/policy/compile/" req w
  | none, .policyACL => compilePolicy conf call "/api/policy/acl/" req w
  | none, _ => w

/-! ## The whole server -/

def internalAuth (req : HttpRequest) : Except String Unit :=
  if conf.internalAuthToken = "" then .error "internal auth not configured"
  else if req.internalToken ≠ conf.internalAuthToken then .error "unauthorized"
  else .ok ()

/-- What the handlers behind the other wrappers do, which does not matter here. -/
abbrev Behind := ProtectedHandler → Context → Call → HttpRequest → World → World

variable (behind : Behind)

def serveWrapped (req : HttpRequest) (w : World) : Wrapped → World
  | .bare h => servePublic conf call req w h
  | .withWorkspaceContext h =>
      let ctx := (withWorkspaceContext conf.server (call.now / nanosPerSec) req.credentials).getD {}
      serveUi conf call ctx req w h
  | .adminAuth h =>
      match adminAuth conf.server w.dir.accounts call.sessions (call.now / nanosPerSec)
          req.credentials with
      | .error _ => w
      | .ok ctx => behind h ctx call req w
  | .internalAuth h =>
      match internalAuth conf req with
      | .error _ => w
      | .ok () => behind h {} call req w
  | .workspaceAuth h =>
      match workspaceAuth conf.server (call.now / nanosPerSec) req.credentials with
      | .error _ => w
      | .ok ctx => behind h ctx call req w
  | .requireWorkspace h =>
      match workspaceAuth conf.server (call.now / nanosPerSec) req.credentials with
      | .error _ => w
      | .ok ctx => if ctx.wsId = "" then w else behind h ctx call req w

/-- The handler that the request gets to, with its wrapper. -/
def reached (req : HttpRequest) : Option Wrapped :=
  -- the mux redirects to the clean path
  if req.method ≠ "CONNECT" ∧ cleanPath req.path ≠ req.path then none
  else
    match findRoute req.path with
    | none => none
    | some route => if route.cors ∧ req.method = "OPTIONS" then none else some route.wrapped

def serve (req : HttpRequest) (w : World) : World :=
  match reached req with
  | none => w
  | some wrapped => serveWrapped conf call behind req w wrapped

end Handlers

/-! ## Logins -/

section Logins

variable {conf : Config} {call : Call} {req : HttpRequest} {w w' : World} {login : Option String}
  {email : String}

/-- The e-mail address that the identity provider vouches for in a callback. -/
def callbackLogin (conf : Config) (call : Call) (configured : Bool) (req : HttpRequest)
    (w : World) : Option String :=
  if configured && (consumeOAuthState w.oauthStates (req.query "state") call.now).2 then
    call.identity.map conf.server.unicode.stringsToLower
  else none

/-- The e-mail address of the login that the request completes. -/
def completedLogin (conf : Config) (call : Call) (req : HttpRequest) (w : World) :
    PublicHandler → Option String
  | .oauthCallback => callbackLogin conf call conf.google req w
  | .githubCallback => callbackLogin conf call conf.github req w
  | .deviceToken => (redeemedCode conf call req w).map DeviceCodeEntry.email
  | _ => none

/-- `users` is the same, or has a new row with the e-mail address. -/
def UserAdded (login : Option String) (w w' : World) : Prop :=
  (w'.dir.accounts = w.dir.accounts ∧ w'.tables.db.users = w.tables.db.users) ∨
    ∃ a, login = some a.email ∧ w.dir.accounts.insert a = some w'.dir.accounts ∧
      w'.tables.db.users = w.tables.db.users.put ⟨a.id, a.status, none⟩

/-- `workspace_members` is the same, or has a new row for a user with the e-mail address. -/
def MemberAdded (login : Option String) (w w' : World) : Prop :=
  w'.dir.members = w.dir.members ∨
    ∃ m a, w.dir.members.insert m = some w'.dir.members ∧
      w'.dir.accounts.get m.userId = some a ∧ login = some a.email

/-- Nothing has changed but what a login inserts. -/
structure OnlyLogin (login : Option String) (w w' : World) : Prop where
  policy : w'.policyTables = w.policyTables
  users : UserAdded login w w'
  members : MemberAdded login w w'

/-- All of these tables are the same. -/
structure SameTables (w w' : World) : Prop where
  policy : w'.policyTables = w.policyTables
  accounts : w'.dir.accounts = w.dir.accounts
  users : w'.tables.db.users = w.tables.db.users
  members : w'.dir.members = w.dir.members

theorem SameTables.refl (w : World) : SameTables w w := ⟨rfl, rfl, rfl, rfl⟩

theorem SameTables.onlyLogin (h : SameTables w w') : OnlyLogin login w w' :=
  ⟨h.policy, Or.inl ⟨h.accounts, h.users⟩, Or.inl h.members⟩

theorem onlyLogin_refl : OnlyLogin login w w := (SameTables.refl w).onlyLogin

/-- Before the login, the other tables may change. -/
theorem SameTables.before {w₁ : World} (hs : SameTables w w₁) (h : OnlyLogin login w₁ w') :
    OnlyLogin login w w' := by
  obtain ⟨hpolicy, husers, hmembers⟩ := h
  unfold UserAdded at husers
  unfold MemberAdded at hmembers
  rw [hs.policy] at hpolicy
  rw [hs.accounts, hs.users] at husers
  rw [hs.members] at hmembers
  exact ⟨hpolicy, husers, hmembers⟩

/-- And after it. -/
theorem SameTables.after {w₁ : World} (hs : SameTables w₁ w') (h : OnlyLogin login w w₁) :
    OnlyLogin login w w' := by
  obtain ⟨hpolicy, husers, hmembers⟩ := h
  unfold UserAdded at husers
  unfold MemberAdded at hmembers
  rw [← hs.policy] at hpolicy
  rw [← hs.accounts, ← hs.users] at husers
  rw [← hs.accounts, ← hs.members] at hmembers
  exact ⟨hpolicy, husers, hmembers⟩

theorem onlyLogin_createUser (a : Account) :
    OnlyLogin (some a.email) w ((w.createUser conf a none).getD w) := by
  unfold World.createUser Membership.createUser
  split
  · exact onlyLogin_refl
  · cases hinsert : w.dir.accounts.insert a with
    | none => exact onlyLogin_refl
    | some accounts => exact ⟨rfl, Or.inr ⟨a, rfl, hinsert, rfl⟩, Or.inl rfl⟩

/-- A user found by the e-mail address is found by the id, too. -/
theorem get_of_getUserByEmail {d : Directory} {a : Account} (h : d.getUserByEmail email = some a) :
    d.accounts.get a.id = some a ∧ a.email = email := by
  refine ⟨Table.get_of_mem (List.mem_of_find?_eq_some h), ?_⟩
  exact of_decide_eq_true
    (List.find?_some (p := fun a : Account => decide (a.email = email)) h)

/-- The user whom the e-mail address finds becomes a member. -/
theorem OnlyLogin.addMember (h : OnlyLogin (some email) w w')
    (hmembers : w'.dir.members = w.dir.members) {a : Account}
    (hfound : w'.dir.getUserByEmail email = some a) (workspaceId role : String) :
    OnlyLogin (some email) w
      { w' with dir := (Membership.addMember w'.dir ⟨workspaceId, a.id, role⟩).getD w'.dir } := by
  cases hadd : Membership.addMember w'.dir ⟨workspaceId, a.id, role⟩ with
  | none => exact h
  | some dir =>
      obtain ⟨-, -, rfl⟩ := Membership.addMember_eq hadd
      cases hinsert : w'.dir.members.insert ⟨workspaceId, a.id, role⟩ with
      | none => exact ⟨h.policy, h.users, h.members⟩
      | some members =>
          obtain ⟨hget, hemail⟩ := get_of_getUserByEmail hfound
          rw [hmembers] at hinsert
          refine ⟨h.policy, h.users, Or.inr ⟨_, a, hinsert, hget, ?_⟩⟩
          rw [hemail]

theorem onlyLogin_createInvited : OnlyLogin (some email) w (createInvited conf call email w) :=
  onlyLogin_createUser ⟨call.madeUp.newID, email, "Active", "Member"⟩

theorem members_createInvited : (createInvited conf call email w).dir.members = w.dir.members := by
  unfold createInvited World.createUser Membership.createUser
  split
  · rfl
  · cases w.dir.accounts.insert _ <;> rfl

/-- Both kinds of invitation. -/
theorem onlyLogin_redeemInvite {token : String} :
    OnlyLogin (some email) w (redeemInvite conf call token email w) := by
  have hcreated : OnlyLogin (some email) w (createInvited conf call email w) :=
    onlyLogin_createInvited
  unfold redeemInvite
  cases w.workspaceInvites.get token with
  | some row =>
      simp only
      split
      · split
        next huser =>
          -- the user id is not empty, so somebody was found
          cases hfound : (createInvited conf call email w).dir.getUserByEmail email with
          | none => simp [hfound] at huser
          | some a =>
              have hadded := hcreated.addMember members_createInvited hfound row.workspaceId
                (if row.role = "" then "member" else row.role)
              simp only [Option.map_some, Option.getD_some]
              exact ⟨hadded.policy, hadded.users, hadded.members⟩
        · exact ⟨hcreated.policy, hcreated.users, hcreated.members⟩
      · exact onlyLogin_refl
  | none =>
      cases w.inviteTokens.get token with
      | some row =>
          simp only
          split
          · exact ⟨hcreated.policy, hcreated.users, hcreated.members⟩
          · exact onlyLogin_refl
      | none => exact onlyLogin_refl

theorem onlyLogin_providerCallback {configured : Bool} :
    OnlyLogin (callbackLogin conf call configured req w) w
      (providerCallback conf call configured req w) := by
  unfold providerCallback callbackLogin
  cases configured with
  | false => exact onlyLogin_refl
  | true =>
      simp only [Bool.not_true, Bool.false_eq_true, if_false, Bool.true_and]
      -- the consumption of the state
      have hconsumed : SameTables w
          { w with
            oauthStates := (consumeOAuthState w.oauthStates (req.query "state") call.now).1 } :=
        ⟨rfl, rfl, rfl, rfl⟩
      cases (consumeOAuthState w.oauthStates (req.query "state") call.now).2 with
      | false => exact hconsumed.onlyLogin
      | true =>
          cases call.identity with
          | none => exact hconsumed.onlyLogin
          | some emailAddr =>
              simp only [if_true, Option.map_some]
              split
              · exact hconsumed.before onlyLogin_redeemInvite
              · exact hconsumed.before (onlyLogin_createUser
                  ⟨call.madeUp.newID, conf.server.unicode.stringsToLower emailAddr, "Active",
                    "Owner"⟩)
              · exact hconsumed.onlyLogin

theorem onlyLogin_deviceToken :
    OnlyLogin ((redeemedCode conf call req w).map DeviceCodeEntry.email) w
      (deviceToken conf call req w) := by
  have hdropped : SameTables w (dropCode call req w) := by
    unfold dropCode
    split <;> exact ⟨rfl, rfl, rfl, rfl⟩
  unfold deviceToken
  cases redeemedCode conf call req w with
  | none => exact hdropped.onlyLogin
  | some entry =>
      simp only [Option.map_some]
      split
      · exact hdropped.onlyLogin
      · exact hdropped.before
          (onlyLogin_createUser ⟨call.madeUp.newID, entry.email, "Active", "Member"⟩)

/-- The other handlers without a wrapper touch the maps and `device_auth_requests` only. -/
theorem sameTables_providerLogin {configured : Bool} :
    SameTables w (providerLogin call configured req w) := by
  unfold providerLogin
  split <;> exact ⟨rfl, rfl, rfl, rfl⟩

theorem sameTables_inviteAccept : SameTables w (inviteAccept conf call req w) := by
  unfold inviteAccept
  simp only
  split
  · split <;> exact ⟨rfl, rfl, rfl, rfl⟩
  · exact .refl w

theorem sameTables_deviceAuthorize : SameTables w (deviceAuthorize conf call req w) := by
  unfold deviceAuthorize
  split
  · simp only
    split
    · exact .refl w
    · split <;> exact ⟨rfl, rfl, rfl, rfl⟩
  · exact .refl w

theorem sameTables_deviceCallback : SameTables w (deviceCallback conf call req w) := by
  unfold deviceCallback
  simp only
  split
  · exact .refl w
  · split
    · split
      · exact ⟨rfl, rfl, rfl, rfl⟩
      · split
        · split <;> exact ⟨rfl, rfl, rfl, rfl⟩
        · exact ⟨rfl, rfl, rfl, rfl⟩
    · exact ⟨rfl, rfl, rfl, rfl⟩

/-- What a handler without a wrapper changes is the login that it completes. -/
theorem onlyLogin_servePublic (h : PublicHandler) :
    OnlyLogin (completedLogin conf call req w h) w (servePublic conf call req w h) := by
  cases h with
  | oauthLogin | githubLogin => exact sameTables_providerLogin.onlyLogin
  | oauthCallback | githubCallback => exact onlyLogin_providerCallback
  | inviteAccept => exact sameTables_inviteAccept.onlyLogin
  | deviceAuthorize => exact sameTables_deviceAuthorize.onlyLogin
  | deviceCallback => exact sameTables_deviceCallback.onlyLogin
  | deviceToken => exact onlyLogin_deviceToken
  | caCert | workspaceLookup | oauthLogout | deviceRefresh | deviceRevoke => exact onlyLogin_refl

end Logins

/-! ## Requests without credentials -/

/-- The request carries neither of the two tokens nor one that the server signed. -/
structure Anonymous (conf : Config) (req : HttpRequest) : Prop where
  admin : conf.server.adminAuthToken ≠ "" →
    req.credentials.bearer ≠ some (.text conf.server.adminAuthToken)
  internal : conf.internalAuthToken ≠ "" → req.internalToken ≠ conf.internalAuthToken
  unsigned : ∀ t, req.credentials.cookie = some (.jwt t) ∨ req.credentials.bearer = some (.jwt t) →
    t.key ≠ conf.server.jwtSecret

section Anonymous

variable {conf : Config} {call : Call} {req : HttpRequest} {w : World} {now : Int}

/-- No token of the request is the server's. -/
theorem Anonymous.parse_eq_none (h : Anonymous conf req) :
    parse conf.server now req.credentials.getTokenFromRequest = none := by
  have hunsigned := h.unsigned
  have hnone : ∀ c, (req.credentials.cookie = some c ∨ req.credentials.bearer = some c) →
      parse conf.server now c = none := by
    intro c hc
    cases c with
    | text s => rfl
    | jwt t => exact if_neg fun hgood => hunsigned t hc hgood.1
  unfold Request.getTokenFromRequest
  cases hcookie : req.credentials.cookie with
  | some c => exact hnone c (Or.inl hcookie)
  | none =>
      cases hbearer : req.credentials.bearer with
      | some c => exact hnone c (Or.inr hbearer)
      | none => rfl

/-- Nor can a middleware read claims. -/
theorem Anonymous.workspaceClaims (h : Anonymous conf req) :
    ∃ text, workspaceClaimsFromJWT conf.server now req.credentials.getTokenFromRequest =
      .error text := by
  unfold workspaceClaimsFromJWT
  rw [h.parse_eq_none]
  split <;> exact ⟨_, rfl⟩

theorem Anonymous.workspaceAuth (h : Anonymous conf req) :
    ∃ text, workspaceAuth conf.server now req.credentials = .error text := by
  obtain ⟨text, hclaims⟩ : ∃ text, workspaceClaimsFromJWT conf.server now
      req.credentials.getTokenFromRequest = .error text := h.workspaceClaims
  unfold Admin.workspaceAuth
  rw [hclaims]
  split <;> exact ⟨_, rfl⟩

theorem Anonymous.internalAuth (h : Anonymous conf req) :
    ∃ text, internalAuth conf req = .error text := by
  unfold Unauthenticated.internalAuth
  split
  · exact ⟨_, rfl⟩
  next hset => exact ⟨_, if_pos (h.internal hset)⟩

theorem Anonymous.adminAuth (h : Anonymous conf req) (accounts : Accounts)
    (sessions : SessionStore) :
    ∃ text, adminAuth conf.server accounts sessions now req.credentials = .error text := by
  have hsession : ∃ text,
      adminAuth.jwtSession conf.server accounts sessions now req.credentials = .error text := by
    unfold Admin.adminAuth.jwtSession parseAllClaims
    rw [h.parse_eq_none]
    by_cases hsecret : conf.server.jwtSecret = []
    · rw [if_pos hsecret]
      exact ⟨_, rfl⟩
    · rw [if_neg hsecret]
      exact ⟨_, rfl⟩
  unfold Admin.adminAuth
  split
  · exact ⟨_, rfl⟩
  next hset =>
    split
    next t hbearer =>
      split
      next ht =>
        rw [ht] at hbearer
        exact absurd hbearer (h.admin hset)
      · exact hsession
    · exact hsession

/-- The versions of the compiler are in none of the tables. -/
theorem sameTables_compilePolicy {pre : String} :
    SameTables w (compilePolicy conf call pre req w) := by
  unfold compilePolicy
  simp only
  split
  · exact .refl w
  · split
    · exact .refl w
    · exact ⟨rfl, rfl, rfl, rfl⟩

/-- A branch of the UI that only reads. -/
theorem sameTables_serveUi {ctx : Context} {h : UiHandler}
    (hreads : uiWrites req.method (subpath h.pattern req.path) h = false) :
    SameTables w (serveUi conf call ctx req w h) := by
  unfold serveUi
  rw [uiRequest_eq_none hreads]
  cases h with
  | policyCompile | policyACL => exact sameTables_compilePolicy
  | _ => exact .refl w

/-- The request gets to a branch of the UI that writes. -/
def uiWrite (req : HttpRequest) : Bool :=
  match reached req with
  | some (.withWorkspaceContext h) => uiWrites req.method (subpath h.pattern req.path) h
  | _ => false

/-- The e-mail address of the login that the request completes. -/
def loginOf (conf : Config) (call : Call) (req : HttpRequest) (w : World) : Option String :=
  match reached req with
  | some (.bare h) => completedLogin conf call req w h
  | _ => none

/-- Whatever the handlers behind the middlewares do, a request without credentials changes
nothing of the policy and nobody's identity, but for the login that it completes and for the
UI's requests that write. -/
theorem anonymous_request (conf : Config) (call : Call) (behind : Behind) (req : HttpRequest)
    (w : World) (h : Anonymous conf req) (hui : uiWrite req = false) :
    OnlyLogin (loginOf conf call req w) w (serve conf call behind req w) := by
  unfold uiWrite at hui
  unfold serve loginOf
  cases hreached : reached req with
  | none => exact onlyLogin_refl
  | some wrapped =>
      rw [hreached] at hui
      cases wrapped with
      | bare handler => exact onlyLogin_servePublic handler
      | withWorkspaceContext handler => exact (sameTables_serveUi hui).onlyLogin
      | adminAuth handler =>
          obtain ⟨text, herror⟩ : ∃ text, adminAuth conf.server w.dir.accounts call.sessions
              (call.now / nanosPerSec) req.credentials = .error text := h.adminAuth _ _
          simp only [serveWrapped, herror]
          exact onlyLogin_refl
      | internalAuth handler =>
          obtain ⟨text, herror⟩ := h.internalAuth
          simp only [serveWrapped, herror]
          exact onlyLogin_refl
      | workspaceAuth handler | requireWorkspace handler =>
          obtain ⟨text, herror⟩ : ∃ text, workspaceAuth conf.server (call.now / nanosPerSec)
              req.credentials = .error text := h.workspaceAuth
          simp only [serveWrapped, herror]
          exact onlyLogin_refl

end Anonymous

/-! ### Two requests -/

section Examples

def exampleConfig : Config where
  device := DeviceFlow.exampleDeviceServer
  libraries :=
    { unicode := .ascii
      collate := fun a b => a ≤ b
      sqlLower := UnicodeData.ascii.stringsToLower
      parseCIDR := fun _ => false
      sha256 := DeviceFlow.exampleDeviceServer.sha256
      hmacSha256 := fun _ _ => [] }
  internalAuthToken := "internal-token"
  google := true
  github := false

def exampleCall : Call where
  now := 1735690200 * nanosPerSec
  sessions := ∅
  madeUp := ⟨"usr_1735690200000", "identity-1", fun _ => 1735690200000⟩
  random := none
  identity := some "Carol@Acme.io"
  idpId := none
  statement := ⟨false, ""⟩
  isoNow := "2025-01-01T00:10:00.000Z"

/-- A login has been started. -/
def exampleWorld : World where
  dir := exampleDirectory
  tables :=
    { db :=
        { connectors := ∅, remoteNetworkConnectors := ∅, resources := ∅, accessRules := ∅
          accessRuleGroups := ∅, userGroupMembers := ∅, users := ∅, connectorPolicyVersions := ∅ }
      userGroups := ∅, remoteNetworks := ∅ }
  authorizations := ∅
  tunnelers := ∅
  tokens := ∅
  workspaceInvites := ∅
  inviteTokens := ∅
  deviceAuthRequests := ∅
  oauthStates := Table.single ("signup:sig_1:0cc1", 1735690200 * nanosPerSec)
  deviceCodes := ∅

def noBody : Body where
  user := none
  group := none
  memberIDs := none
  resourceIDs := none
  resource := none
  firewallStatus := none
  accessRule := none
  network := none
  connector := none
  lastPolicyVersion := none
  agent := none
  deviceAuthorize := none
  deviceToken := none

/-- The provider sends the user back. -/
def signupCallback : HttpRequest where
  method := "GET"
  path := "/oauth/google/callback"
  query name := if name = "state" then "signup:sig_1:0cc1" else ""
  credentials := ⟨none, none⟩
  internalToken := ""
  body := noBody

theorem reached_signupCallback : reached signupCallback = some (.bare .oauthCallback) := by
  decide +kernel

theorem anonymous_of_no_credentials {conf : Config} {req : HttpRequest}
    (hcredentials : req.credentials = ⟨none, none⟩)
    (hinternal : conf.internalAuthToken ≠ "" → req.internalToken ≠ conf.internalAuthToken) :
    Anonymous conf req where
  admin := by simp [hcredentials]
  internal := hinternal
  unsigned := by simp [hcredentials]

/-- Carol signs up. -/
theorem anonymous_signup :
    ((serve exampleConfig exampleCall (fun _ _ _ _ w => w) signupCallback
        exampleWorld).dir.accounts.get "usr_1735690200000").map Account.email =
      some "carol@acme.io" ∧
    OnlyLogin (some "carol@acme.io") exampleWorld
      (serve exampleConfig exampleCall (fun _ _ _ _ w => w) signupCallback exampleWorld) := by
  have hlogin : loginOf exampleConfig exampleCall signupCallback exampleWorld =
      some "carol@acme.io" := by
    rw [loginOf, reached_signupCallback]
    decide
  have hui : uiWrite signupCallback = false := by rw [uiWrite, reached_signupCallback]
  constructor
  · rw [serve, reached_signupCallback]
    decide
  · rw [← hlogin]
    exact anonymous_request exampleConfig exampleCall _ signupCallback exampleWorld
      (anonymous_of_no_credentials rfl (by decide)) hui

/-- `POST /api/users`. -/
def postUsers : HttpRequest where
  method := "POST"
  path := "/api/users"
  query _ := ""
  credentials := ⟨none, none⟩
  internalToken := ""
  body := { noBody with user := some ⟨"Mallory", "mallory@example.com", ""⟩ }

theorem reached_postUsers : reached postUsers = some (.withWorkspaceContext .users) := by
  decide +kernel

/-- Nobody has logged in, and there is a new user. -/
theorem anonymous_user_created :
    Anonymous exampleConfig postUsers ∧
    loginOf exampleConfig exampleCall postUsers exampleWorld = none ∧
    ∀ behind : Behind, ¬ OnlyLogin none exampleWorld
      (serve exampleConfig exampleCall behind postUsers exampleWorld) := by
  have hlogin : loginOf exampleConfig exampleCall postUsers exampleWorld = none := by
    rw [loginOf, reached_postUsers]
  refine ⟨anonymous_of_no_credentials rfl (by decide), hlogin, fun behind h => ?_⟩
  rcases h.users with ⟨hsame, -⟩ | ⟨a, hnone, -⟩
  · have hnew : (serve exampleConfig exampleCall behind postUsers
        exampleWorld).dir.accounts.get "usr_1735690200000" =
          some ⟨"usr_1735690200000", "mallory@example.com", "active", "Member"⟩ := by
      rw [serve, reached_postUsers]
      rfl
    rw [hsame] at hnew
    revert hnew
    decide
  · cases hnone

end Examples

end ZeroTrust.Admin.Unauthenticated
