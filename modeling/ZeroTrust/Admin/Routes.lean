/-
# `ZeroTrust.Admin.Routes` — which handler answers, and behind which wrapper

The routes are registered one by one, each with its wrapper (`admin/server.go`,
`admin/ui_routes.go`, `admin/device_routes.go`, `admin/workspace_handlers.go`); the tables
below are in that order.

    bare                    anyone
    withWorkspaceContext    anyone: the claims of a token are put into the context if there
                            is a good one, and the request goes on without them if not
    adminAuth               the admin token, or the session of an admin
    internalAuth            the internal token
    workspaceAuth           any session
    requireWorkspace        a session in a workspace

`http.ServeMux` takes the longest pattern; one that ends in a slash stands for everything
below it.  A path that is not clean is redirected before a handler sees it.

The UI's handlers branch once more, on the method and on what follows the pattern
(`uiRequest`); the branches that write are listed in `uiWrites`.
-/
import ZeroTrust.Admin.PolicyRequests
import ZeroTrust.Admin.Auth

namespace ZeroTrust.Admin.Routes

open PolicyRequests (PolicyRequest ResourceRequest)

/-! ## The handlers -/

inductive PublicHandler where
  | caCert
  | workspaceLookup
  | oauthLogin
  | oauthCallback
  | githubLogin
  | githubCallback
  | oauthLogout
  | inviteAccept
  | deviceAuthorize
  | deviceCallback
  | deviceToken
  | deviceRefresh
  | deviceRevoke
  deriving DecidableEq

/-- `handleUI…`. -/
inductive UiHandler where
  | users
  | groups
  | groupsSubroutes
  | resources
  | resourcesSubroutes
  | accessRules
  | accessRulesSubroutes
  | remoteNetworks
  | remoteNetworksSubroutes
  | connectors
  | connectorsSubroutes
  | agents
  | agentsSubroutes
  | subjects
  | serviceAccounts
  | policyCompile
  | policyACL
  | diagnostics
  | diagnosticsPing
  | diagnosticsTrace
  deriving DecidableEq

inductive ProtectedHandler where
  | createToken
  | listConnectors
  | connectorSubroutes
  | listAgents
  | agentSubroutes
  | resources
  | resourceSubroutes
  | auditLog
  | users
  | userSubroutes
  | userGroups
  | userGroupMembers
  | remoteNetworks
  | remoteNetworkConnectors
  | consumeToken
  | workspaces
  | workspaceSubroutes
  | inviteUser
  | adminAuditLogs
  | startScan
  | scanStatus
  | discoveryResults
  | identityProviders
  | identityProviderSubroutes
  | sessions
  | sessionSubroutes
  deriving DecidableEq

inductive Wrapped where
  | bare (h : PublicHandler)
  | withWorkspaceContext (h : UiHandler)
  | adminAuth (h : ProtectedHandler)
  | internalAuth (h : ProtectedHandler)
  | workspaceAuth (h : ProtectedHandler)
  /-- `workspaceAuth(requireWorkspace(…))`. -/
  | requireWorkspace (h : ProtectedHandler)
  deriving DecidableEq

/-! ## The routes -/

structure Route where
  pattern : String
  /-- Inside of `withCORS`, which answers `OPTIONS` itself. -/
  cors : Bool
  wrapped : Wrapped

/-- `mux.Handle(pattern, …)`. -/
def plain (pattern : String) (wrapped : Wrapped) : Route := ⟨pattern, false, wrapped⟩

/-- `mux.Handle(pattern, withCORS(…))`. -/
def withCORS (pattern : String) (wrapped : Wrapped) : Route := ⟨pattern, true, wrapped⟩

def registerWorkspaceRoutes : List Route :=
  [withCORS "/api/workspaces/lookup" (.bare .workspaceLookup),
   withCORS "/api/workspaces" (.workspaceAuth .workspaces),
   withCORS "/api/workspaces/" (.workspaceAuth .workspaceSubroutes)]

def registerDeviceAuthRoutes : List Route :=
  [withCORS "/api/device/authorize" (.bare .deviceAuthorize),
   plain "/api/device/callback" (.bare .deviceCallback),
   withCORS "/api/device/token" (.bare .deviceToken),
   withCORS "/api/device/refresh" (.bare .deviceRefresh),
   withCORS "/api/device/revoke" (.bare .deviceRevoke)]

def registerUIRoutes : List Route :=
  [withCORS "/api/users" (.withWorkspaceContext .users),
   withCORS "/api/groups" (.withWorkspaceContext .groups),
   withCORS "/api/groups/" (.withWorkspaceContext .groupsSubroutes),
   withCORS "/api/resources" (.withWorkspaceContext .resources),
   withCORS "/api/resources/" (.withWorkspaceContext .resourcesSubroutes),
   withCORS "/api/access-rules" (.withWorkspaceContext .accessRules),
   withCORS "/api/access-rules/" (.withWorkspaceContext .accessRulesSubroutes),
   withCORS "/api/remote-networks" (.withWorkspaceContext .remoteNetworks),
   withCORS "/api/remote-networks/" (.withWorkspaceContext .remoteNetworksSubroutes),
   withCORS "/api/connectors" (.withWorkspaceContext .connectors),
   withCORS "/api/connectors/" (.withWorkspaceContext .connectorsSubroutes),
   withCORS "/api/agents" (.withWorkspaceContext .agents),
   withCORS "/api/agents/" (.withWorkspaceContext .agentsSubroutes),
   withCORS "/api/subjects" (.withWorkspaceContext .subjects),
   withCORS "/api/service-accounts" (.withWorkspaceContext .serviceAccounts),
   withCORS "/api/policy/compile/" (.withWorkspaceContext .policyCompile),
   withCORS "/api/policy/acl/" (.withWorkspaceContext .policyACL),
   withCORS "/api/diagnostics" (.withWorkspaceContext .diagnostics),
   withCORS "/api/diagnostics/ping/" (.withWorkspaceContext .diagnosticsPing),
   withCORS "/api/diagnostics/trace" (.withWorkspaceContext .diagnosticsTrace),
   withCORS "/api/admin/discovery/scan" (.adminAuth .startScan),
   withCORS "/api/admin/discovery/scan/" (.adminAuth .scanStatus),
   withCORS "/api/admin/discovery/results" (.adminAuth .discoveryResults),
   withCORS "/api/admin/identity-providers" (.requireWorkspace .identityProviders),
   withCORS "/api/admin/identity-providers/" (.requireWorkspace .identityProviderSubroutes),
   withCORS "/api/admin/sessions" (.requireWorkspace .sessions),
   withCORS "/api/admin/sessions/" (.requireWorkspace .sessionSubroutes)] ++
  registerDeviceAuthRoutes

def registerRoutes : List Route :=
  [plain "/ca.crt" (.bare .caCert),
   plain "/api/admin/tokens" (.adminAuth .createToken),
   plain "/api/admin/connectors" (.adminAuth .listConnectors),
   plain "/api/admin/connectors/" (.adminAuth .connectorSubroutes),
   plain "/api/admin/agents" (.adminAuth .listAgents),
   plain "/api/admin/agents/" (.adminAuth .agentSubroutes),
   plain "/api/admin/resources" (.adminAuth .resources),
   plain "/api/admin/resources/" (.adminAuth .resourceSubroutes),
   plain "/api/admin/audit" (.adminAuth .auditLog),
   plain "/api/admin/users" (.adminAuth .users),
   plain "/api/admin/users/" (.adminAuth .userSubroutes),
   plain "/api/admin/user-groups" (.adminAuth .userGroups),
   plain "/api/admin/user-groups/" (.adminAuth .userGroupMembers),
   plain "/api/admin/remote-networks" (.adminAuth .remoteNetworks),
   plain "/api/admin/remote-networks/" (.adminAuth .remoteNetworkConnectors),
   plain "/api/internal/consume-token" (.internalAuth .consumeToken)] ++
  registerWorkspaceRoutes ++ registerUIRoutes

def registerOAuthRoutes : List Route :=
  [withCORS "/oauth/google/login" (.bare .oauthLogin),
   withCORS "/oauth/google/callback" (.bare .oauthCallback),
   withCORS "/oauth/github/login" (.bare .githubLogin),
   withCORS "/oauth/github/callback" (.bare .githubCallback),
   withCORS "/oauth/logout" (.bare .oauthLogout),
   withCORS "/invite" (.bare .inviteAccept),
   withCORS "/api/admin/users/invite" (.adminAuth .inviteUser),
   withCORS "/api/admin/audit-logs" (.adminAuth .adminAuditLogs)]

def adminMux : List Route := registerRoutes ++ registerOAuthRoutes

/-! ## The mux -/

def Route.serves (route : Route) (path : String) : Bool :=
  route.pattern = path ||
    (route.pattern.toList.getLast? = some '/' && route.pattern.toList.isPrefixOf path.toList)

def longer (best : Option Route) (route : Route) : Option Route :=
  match best with
  | none => some route
  | some b => if b.pattern.length < route.pattern.length then some route else some b

def findRoute (path : String) : Option Route :=
  (adminMux.filter fun route => route.serves path).foldl longer none

/-- `path.Clean` of a rooted path, as segments. -/
def cleanSegments (path : List Char) : List (List Char) :=
  (path.splitOn '/').foldl (fun kept segment =>
    if segment = [] ∨ segment = ['.'] then kept
    else if segment = ['.', '.'] then kept.dropLast
    else kept ++ [segment]) []

/-- `cleanPath` of `net/http`: a final slash stays. -/
def cleanPath (path : String) : String :=
  if path = "" then "/"
  else
    let cleaned := '/' :: List.intercalate ['/'] (cleanSegments path.toList)
    String.ofList (if path.toList.getLast? = some '/' ∧ cleaned ≠ ['/'] then cleaned ++ ['/']
      else cleaned)

/-! ## Requests -/

structure UserBody where
  name : String
  email : String
  status : String

structure GroupBody where
  name : String
  description : String

structure AccessRuleBody where
  resourceID : String
  name : String
  groupIDs : Option (List String)
  enabled : Bool

structure NetworkBody where
  name : String
  location : String

structure ConnectorBody where
  name : String
  remoteNetworkID : String

structure AgentBody where
  name : String
  remoteNetworkID : String
  connectorID : String

structure TokenBody where
  code : String
  codeVerifier : String

/-- The body as the JSON decoder reads it into the type each handler declares; `none` is
"invalid json". -/
structure Body where
  user : Option UserBody
  group : Option GroupBody
  memberIDs : Option (Option (List String))
  resourceIDs : Option (Option (List String))
  resource : Option ResourceRequest
  firewallStatus : Option String
  accessRule : Option AccessRuleBody
  network : Option NetworkBody
  connector : Option ConnectorBody
  lastPolicyVersion : Option Int64
  agent : Option AgentBody
  deviceAuthorize : Option (String × String × String × String)
  deviceToken : Option TokenBody

structure HttpRequest where
  method : String
  path : String
  /-- `r.URL.Query().Get`. -/
  query : String → String
  credentials : Request
  /-- The header `X-Internal-Token`. -/
  internalToken : String
  body : Body

/-- `strings.Split(strings.Trim(strings.TrimPrefix(path, pre), "/"), "/")`, and nothing if
nothing is left to split. -/
def subpath (pre path : String) : List String :=
  let rest := ((dropLeading pre path).toList.dropWhile (· = '/')).rdropWhile (· = '/')
  if rest = [] then [] else (rest.splitOn '/').map String.ofList

/-! ## The UI's requests -/

/-- What the handlers make up: ids from the clock or at random, and the time in milliseconds
at each turn of a loop. -/
structure MadeUp where
  newID : String
  certID : String
  millis : Nat → Int

/-- A request of the UI that writes. -/
inductive UiRequest where
  | policy (r : PolicyRequest)
  | createAgent (id : String) (body : AgentBody)
  | deleteAgent (agentID : String)
  | revokeAgent (agentID : String)
  | grantAgent (agentID : String)

def UiHandler.pattern : UiHandler → String
  | .groupsSubroutes => "/api/groups/"
  | .resourcesSubroutes => "/api/resources/"
  | .accessRulesSubroutes => "/api/access-rules/"
  | .remoteNetworksSubroutes => "/api/remote-networks/"
  | .connectorsSubroutes => "/api/connectors/"
  | .agentsSubroutes => "/api/agents/"
  | _ => ""

def withMillis (m : MadeUp) (ids : List String) : List (String × Int) :=
  ids.mapIdx fun i id => (id, m.millis i)

section UiRequests

variable (m : MadeUp) (b : Body)

def groupsSubroute (method groupID : String) : List String → Option PolicyRequest
  | [] =>
      if method = "PUT" ∨ method = "PATCH" then
        b.group.map fun g => .uiUpdateGroup groupID g.name g.description
      else if method = "DELETE" then some (.uiDeleteGroup groupID)
      else none
  | ["members"] =>
      if method = "POST" then b.memberIDs.map fun ids => .uiSetMembers groupID ids else none
  | ["members", userID] =>
      if method = "DELETE" then some (.uiRemoveMember groupID userID) else none
  | "resources" :: _ =>
      if method = "POST" then
        b.resourceIDs.map fun ids => .uiAddResources groupID (ids.map (withMillis m))
      else none
  | _ => none

def resourcesSubroute (method resourceID : String) : Option PolicyRequest :=
  if method = "PUT" then b.resource.map fun req => .uiUpdateResource resourceID req
  else if method = "PATCH" then
    b.firewallStatus.map fun status => .uiPatchResource resourceID status
  else if method = "DELETE" then some (.uiDeleteResource resourceID)
  else none

def connectorsSubroute (method connectorID : String) : List String → Option PolicyRequest
  | [] => if method = "DELETE" then some (.uiDeleteConnector connectorID) else none
  | "revoke" :: _ => if method = "POST" then some (.uiRevokeConnector connectorID) else none
  | "grant" :: _ => if method = "POST" then some (.uiGrantConnector connectorID) else none
  | "heartbeat" :: _ =>
      if method = "PATCH" then
        b.lastPolicyVersion.map fun version => .uiHeartbeat connectorID version
      else none
  | _ => none

def agentsSubroute (method agentID : String) : List String → Option UiRequest
  | [] => if method = "DELETE" then some (.deleteAgent agentID) else none
  | "revoke" :: _ => if method = "POST" then some (.revokeAgent agentID) else none
  | "grant" :: _ => if method = "POST" then some (.grantAgent agentID) else none
  | _ => none

end UiRequests

/-- `POST`, on a list. -/
def create (method : String) (r : Option UiRequest) : Option UiRequest :=
  if method = "POST" then r else none

/-- What a handler does besides reading; `parts` is the path below its pattern. -/
def uiRequest (m : MadeUp) (req : HttpRequest) (parts : List String) : UiHandler → Option UiRequest
  | .users =>
      if req.method = "DELETE" then some (.policy (.uiDeleteUser (req.query "id")))
      else create req.method <| req.body.user.map fun u =>
        .policy (.uiCreateUser m.newID m.certID u.name u.email u.status)
  | .groups => create req.method <| req.body.group.map fun g =>
      .policy (.uiCreateGroup m.newID g.name g.description)
  | .groupsSubroutes =>
      match parts with
      | [] => none
      | groupID :: rest => (groupsSubroute m req.body req.method groupID rest).map .policy
  | .resources => create req.method <| req.body.resource.map fun r =>
      .policy (.uiCreateResource m.newID r)
  | .resourcesSubroutes =>
      match parts with
      | [] => none
      | resourceID :: _ => (resourcesSubroute req.body req.method resourceID).map .policy
  | .accessRules => create req.method <| req.body.accessRule.map fun ar =>
      .policy (.uiCreateAccessRule m.newID ar.resourceID ar.name ar.groupIDs ar.enabled)
  | .accessRulesSubroutes =>
      match parts with
      | [ruleID] =>
          if req.method = "DELETE" then some (.policy (.uiDeleteAccessRule ruleID)) else none
      | _ => none
  | .remoteNetworks => create req.method <| req.body.network.map fun n =>
      .policy (.uiCreateNetwork m.newID n.name n.location)
  | .remoteNetworksSubroutes =>
      match parts with
      | [] => none
      | networkID :: _ =>
          if req.method = "DELETE" then some (.policy (.uiDeleteNetwork networkID)) else none
  | .connectors => create req.method <| req.body.connector.map fun c =>
      .policy (.uiCreateConnector m.newID c.name c.remoteNetworkID)
  | .connectorsSubroutes =>
      match parts with
      | [] => none
      | connectorID :: rest => (connectorsSubroute req.body req.method connectorID rest).map .policy
  | .agents => create req.method <| req.body.agent.map fun a => .createAgent m.newID a
  | .agentsSubroutes =>
      match parts with
      | [] => none
      | agentID :: rest => agentsSubroute req.method agentID rest
  | .subjects | .serviceAccounts | .policyCompile | .policyACL
  | .diagnostics | .diagnosticsPing | .diagnosticsTrace => none

/-- The branches that write. -/
def uiWrites (method : String) (parts : List String) : UiHandler → Bool
  | .users => method = "POST" || method = "DELETE"
  | .groups | .resources | .accessRules | .remoteNetworks | .connectors | .agents =>
      method = "POST"
  | .groupsSubroutes =>
      match parts with
      | [_] => method = "PUT" || method = "PATCH" || method = "DELETE"
      | [_, "members"] => method = "POST"
      | [_, "members", _] => method = "DELETE"
      | _ :: "resources" :: _ => method = "POST"
      | _ => false
  | .resourcesSubroutes =>
      parts ≠ [] && (method = "PUT" || method = "PATCH" || method = "DELETE")
  | .accessRulesSubroutes => parts.length = 1 && method = "DELETE"
  | .remoteNetworksSubroutes => parts ≠ [] && method = "DELETE"
  | .connectorsSubroutes =>
      match parts with
      | [_] => method = "DELETE"
      | _ :: "revoke" :: _ => method = "POST"
      | _ :: "grant" :: _ => method = "POST"
      | _ :: "heartbeat" :: _ => method = "PATCH"
      | _ => false
  | .agentsSubroutes =>
      match parts with
      | [_] => method = "DELETE"
      | _ :: "revoke" :: _ => method = "POST"
      | _ :: "grant" :: _ => method = "POST"
      | _ => false
  | _ => false

theorem groupsSubroute_eq_none {m : MadeUp} {b : Body} {method groupID : String}
    {rest : List String} (h : uiWrites method (groupID :: rest) .groupsSubroutes = false) :
    groupsSubroute m b method groupID rest = none := by
  unfold groupsSubroute
  split <;> simp_all [uiWrites]

theorem connectorsSubroute_eq_none {b : Body} {method connectorID : String} {rest : List String}
    (h : uiWrites method (connectorID :: rest) .connectorsSubroutes = false) :
    connectorsSubroute b method connectorID rest = none := by
  unfold connectorsSubroute
  split <;> simp_all [uiWrites]

theorem agentsSubroute_eq_none {method agentID : String} {rest : List String}
    (h : uiWrites method (agentID :: rest) .agentsSubroutes = false) :
    agentsSubroute method agentID rest = none := by
  unfold agentsSubroute
  split <;> simp_all [uiWrites]

/-- Every other branch only reads. -/
theorem uiRequest_eq_none {m : MadeUp} {req : HttpRequest} {parts : List String} {h : UiHandler}
    (hreads : uiWrites req.method parts h = false) : uiRequest m req parts h = none := by
  cases h with
  | users => simp_all [uiWrites, uiRequest, create]
  | groups | resources | accessRules | remoteNetworks | connectors | agents =>
      simp_all [uiWrites, uiRequest, create]
  | groupsSubroutes =>
      cases parts with
      | nil => rfl
      | cons groupID rest => rw [uiRequest, groupsSubroute_eq_none hreads, Option.map_none]
  | resourcesSubroutes =>
      cases parts with
      | nil => rfl
      | cons resourceID rest => simp_all [uiWrites, uiRequest, resourcesSubroute]
  | accessRulesSubroutes =>
      rcases parts with _ | ⟨ruleID, _ | ⟨part, rest⟩⟩
      · rfl
      · simp_all [uiWrites, uiRequest]
      · rfl
  | remoteNetworksSubroutes => cases parts <;> simp_all [uiWrites, uiRequest]
  | connectorsSubroutes =>
      cases parts with
      | nil => rfl
      | cons connectorID rest => rw [uiRequest, connectorsSubroute_eq_none hreads, Option.map_none]
  | agentsSubroutes =>
      cases parts with
      | nil => rfl
      | cons agentID rest => exact agentsSubroute_eq_none hreads
  | subjects | serviceAccounts | policyCompile | policyACL | diagnostics | diagnosticsPing
  | diagnosticsTrace => rfl

end ZeroTrust.Admin.Routes
