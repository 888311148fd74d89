/-
# `ZeroTrust.Admin.ListEndpoints` — what the lists of a workspace are computed from

The nine `GET` handlers behind the lists of the admin UI, each with its query, the
queries it makes for every row and the JSON it writes.  A request comes with a workspace
id from the session; where there is none, nothing is scoped (`wsWhereOnly`).

The rows that belong to a workspace are a database of their own, `tenantView W db`, and
two states agree for `W` iff it is the same in both.  Seven of the lists are computed
from the view alone (`respond_tenantView`).  The other two are not:

    users              LEFT JOIN workspace_members     every user of every workspace;
                                                       `handleUISubjects` has the JOIN
    remote networks    COUNT(*) FROM connectors c      whatever the workspace of the
                       WHERE c.remote_network_id = …   connector or resource counted

so the first always shows other tenants' rows, and the second as soon as the workspace
has a network (`lists_do_not_leak_iff`).
-/
import ZeroTrust.Admin.PolicyRequests
import Mathlib.Data.Set.Finite.Basic

namespace ZeroTrust.Admin.ListEndpoints

open Lib
open Controller (UserGroupMemberRow AccessRuleGroupRow)

/-! ## The tables -/

/-- What the handlers use and the repository does not hold. -/
structure Platform where
  unicode : UnicodeData
  /-- `unicode.ToUpper`. -/
  simpleUpper : Char → Char
  /-- The database's collation: `a` comes no later than `b`. -/
  collate : String → String → Bool
  /-- SQL `LOWER`. -/
  sqlLower : String → String
  sqlLower_lower : ∀ s, LowerAscii s → sqlLower s = s
  /-- The table of service accounts has the columns that its list selects; `state/db.go`
  creates it without `status`, `associated_resource_count` and `created_at`. -/
  detailedServiceAccounts : Bool

structure UserRow extends Controller.UserRow where
  name : String
  email : String
  createdAt : String

structure WorkspaceMemberRow where
  workspaceId : String
  userId : String
  role : String

structure UserGroupRow extends PolicyRequests.UserGroupRow where
  createdAt : String
  updatedAt : String
  workspaceId : String

structure ServiceAccountRow where
  id : String
  name : String
  status : String
  associatedResourceCount : Int
  createdAt : String
  workspaceId : String

structure ResourceRow extends Controller.ResourceRow where
  name : String
  aliasName : Option String
  description : String
  workspaceId : String

structure AccessRuleRow extends Controller.AccessRuleRow where
  name : String
  createdAt : String
  updatedAt : String
  workspaceId : String

structure ConnectorRow extends Controller.ConnectorRow where
  name : String
  status : String
  version : String
  hostname : String
  privateIp : String
  lastSeen : Int
  lastSeenAt : String
  installed : Int
  lastPolicyVersion : Int
  revoked : Int
  workspaceId : String

structure TunnelerRow where
  id : String
  name : String
  connectorId : String
  status : String
  version : String
  hostname : String
  remoteNetworkId : String
  lastSeen : Int
  revoked : Int
  lastSeenAt : String
  installed : Int
  workspaceId : String

structure RemoteNetworkRow extends PolicyRequests.RemoteNetworkRow where
  createdAt : String
  updatedAt : String
  workspaceId : String

structure Database (P : Platform) where
  users : Table fun u : UserRow => u.id
  /-- `users_email_lower_unique`. -/
  emails_nodup : (users.rows.map fun u => P.sqlLower u.email).Nodup
  workspaceMembers : Table fun wm : WorkspaceMemberRow => (wm.workspaceId, wm.userId)
  userGroups : Table fun g : UserGroupRow => g.id
  userGroupMembers : Table (id : UserGroupMemberRow → UserGroupMemberRow)
  serviceAccounts : Table ServiceAccountRow.id
  resources : Table fun r : ResourceRow => r.id
  accessRules : Table fun ar : AccessRuleRow => ar.id
  accessRuleGroups : Table (id : AccessRuleGroupRow → AccessRuleGroupRow)
  connectors : Table fun c : ConnectorRow => c.id
  tunnelers : Table TunnelerRow.id
  remoteNetworks : Table fun n : RemoteNetworkRow => n.id

/-! ## The rows as JSON -/

/-- A pointer or string field with `omitempty`. -/
def omitEmpty (name : String) : Option String → List (String × Json)
  | none => []
  | some s => [(name, .str s)]

def nullable : Option Int64 → Json
  | none => .null
  | some v => .num v.toInt

/-- `strings.TrimSpace(s)`, or a default where nothing is left. -/
def trimOr (default s : String) : String := if trim s = "" then default else trim s

def isoStringFromUnix (ts : Int) : String :=
  if ts = 0 then ""
  else dropTrailing "Z" (formatRfc3339 (ts * nanosPerSec)) ++ ".000Z"

def uiUser (unicode : UnicodeData) (role : String) (groups : List String) (u : UserRow) : Json :=
  let certID := u.certificateIdentity.getD ""
  .obj ([("id", .str u.id), ("name", .str u.name), ("type", .str "USER"),
      ("displayLabel", .str ("User: " ++ u.name)), ("email", .str u.email),
      ("status", .str (unicode.stringsToLower u.status)), ("role", .str role),
      ("groups", .arr (groups.map .str))] ++
    omitEmpty "certificateIdentity" (if certID = "" then none else some certID) ++
    [("createdAt", .str u.createdAt)])

def uiGroup (memberCount resourceCount : Nat) (g : UserGroupRow) : Json :=
  .obj [("id", .str g.id), ("name", .str g.name), ("type", .str "GROUP"),
    ("displayLabel", .str ("Group: " ++ g.name)), ("description", .str g.description),
    ("memberCount", .num memberCount), ("resourceCount", .num resourceCount),
    ("createdAt", .str g.createdAt), ("updatedAt", .str g.updatedAt)]

def uiSubject (type label id name : String) : Json :=
  .obj [("id", .str id), ("name", .str name), ("type", .str type),
    ("displayLabel", .str (label ++ ": " ++ name))]

def uiServiceAccount (sa : ServiceAccountRow) : Json :=
  .obj [("id", .str sa.id), ("name", .str sa.name), ("type", .str "SERVICE"),
    ("displayLabel", .str ("Service: " ++ sa.name)), ("status", .str sa.status),
    ("associatedResourceCount", .num sa.associatedResourceCount),
    ("createdAt", .str sa.createdAt)]

def scanUIResource (r : ResourceRow) : Json :=
  let firewallStatus := if r.firewallStatus ≠ "" then r.firewallStatus else "unprotected"
  .obj ([("id", .str r.id), ("name", .str r.name), ("type", .str r.type),
      ("address", .str r.address), ("protocol", .str r.protocol),
      ("portFrom", nullable r.portFrom), ("portTo", nullable r.portTo)] ++
    omitEmpty "alias" r.aliasName ++ [("description", .str r.description)] ++
    omitEmpty "remoteNetworkId" (some r.remoteNetworkId) ++
    [("firewallStatus", .str firewallStatus)])

def uiAccessRule (allowedGroups : List String) (ar : AccessRuleRow) : Json :=
  .obj [("id", .str ar.id), ("name", .str ar.name), ("resourceId", .str ar.resourceId),
    ("allowedGroups", .arr (allowedGroups.map .str)), ("enabled", .bool (ar.enabled ≠ 0)),
    ("createdAt", .str ar.createdAt), ("updatedAt", .str ar.updatedAt)]

/-- 30 seconds. -/
def connectorStaleThreshold : Int := 30 * nanosPerSec

def scanUIConnector (now : SystemTime) (c : ConnectorRow) : Json :=
  let status := trimOr "offline" c.status
  let status :=
    if c.revoked ≠ 0 then "revoked"
    -- the stored status may still say online
    else if status = "online" ∧ c.lastSeen > 0 ∧
        now - c.lastSeen * nanosPerSec > connectorStaleThreshold then "offline"
    else status
  -- `last_seen_at` is not nullable, so `last_seen` is never shown
  .obj [("id", .str c.id), ("name", .str (trimOr c.id c.name)), ("status", .str status),
    ("version", .str (trimOr "1.0.0" c.version)), ("hostname", .str (trim c.hostname)),
    ("remoteNetworkId", .str (trim c.remoteNetworkId)), ("lastSeen", .str c.lastSeenAt),
    ("installed", .bool (c.installed ≠ 0)), ("lastPolicyVersion", .num c.lastPolicyVersion),
    ("lastSeenAt", .str c.lastSeenAt), ("privateIp", .str c.privateIp),
    ("revoked", .bool (c.revoked ≠ 0))]

def scanUIAgent (t : TunnelerRow) : Json :=
  let lastSeen := if t.lastSeenAt ≠ "" then t.lastSeenAt else isoStringFromUnix t.lastSeen
  .obj [("id", .str t.id), ("name", .str (trimOr t.id t.name)),
    ("status", .str (if t.revoked ≠ 0 then "revoked" else trimOr "offline" t.status)),
    ("version", .str (trim t.version)), ("hostname", .str (trim t.hostname)),
    ("remoteNetworkId", .str (trim t.remoteNetworkId)), ("connectorId", .str t.connectorId),
    ("revoked", .bool (t.revoked ≠ 0)), ("installed", .bool (t.installed ≠ 0)),
    ("lastSeen", .str lastSeen), ("lastSeenAt", .str lastSeen)]

def uiRemoteNetwork (connectorCount onlineConnectorCount resourceCount : Nat)
    (n : RemoteNetworkRow) : Json :=
  .obj [("id", .str n.id), ("name", .str n.name),
    ("location", .str (if n.location = "" then "OTHER" else n.location)),
    ("connectorCount", .num connectorCount), ("onlineConnectorCount", .num onlineConnectorCount),
    ("resourceCount", .num resourceCount), ("createdAt", .str n.createdAt),
    ("updatedAt", .str n.updatedAt)]

/-! ## The handlers -/

/-- `wsWhereOnly`: a condition on the column `workspace_id`, or none. -/
def wsWhereOnly {ρ : Type} (wsID : String) (workspaceId : ρ → String) (rows : List ρ) : List ρ :=
  if wsID = "" then rows else rows.filter fun r => workspaceId r = wsID

section Handlers

variable {P : Platform} (wsID : String) (db : Database P)

/-- `ORDER BY` a text column, ascending. -/
def orderBy {ρ : Type} (P : Platform) (column : ρ → String) (rows : List ρ) : List ρ :=
  rows.insertionSort fun a b => P.collate (column a) (column b) = true

/-- `wm.user_id = u.id AND wm.workspace_id = ?`. -/
def membership (u : UserRow) : Option WorkspaceMemberRow := db.workspaceMembers.get (wsID, u.id)

def handleUIUsers : Json :=
  let users := (orderBy P UserRow.name db.users.rows).map fun u =>
    let role :=
      if wsID ≠ "" then ((membership wsID db u).map WorkspaceMemberRow.role).getD "member"
      else "member"
    let groups := (db.userGroupMembers.rows.filter fun gm => gm.userId = u.id).map
      UserGroupMemberRow.groupId
    uiUser P.unicode role groups u
  .arr users

/-- The primary key of `access_rule_groups` lets a rule join a group once. -/
def groupResources (groupID : String) : List String :=
  ((db.accessRules.rows.filter fun ar => ⟨ar.id, groupID⟩ ∈ db.accessRuleGroups.rows).map
    fun ar => ar.resourceId).dedup

def handleUIGroups : Json :=
  .arr ((orderBy P (fun g => g.name)
      (wsWhereOnly wsID UserGroupRow.workspaceId db.userGroups.rows)).map fun g =>
    uiGroup (db.userGroupMembers.rows.filter fun gm => gm.groupId = g.id).length
      (groupResources db g.id).length g)

def handleUISubjects (type : String) : Json :=
  let subjectType := String.ofList (type.toList.map P.simpleUpper)
  let users :=
    if subjectType = "" ∨ subjectType = "USER" then
      (orderBy P UserRow.name (if wsID ≠ "" then
          db.users.rows.filter fun u => (membership wsID db u).isSome
        else db.users.rows)).map fun u => uiSubject "USER" "User" u.id u.name
    else []
  let groups :=
    if subjectType = "" ∨ subjectType = "GROUP" then
      (orderBy P (fun g => g.name)
        (wsWhereOnly wsID UserGroupRow.workspaceId db.userGroups.rows)).map fun g =>
          uiSubject "GROUP" "Group" g.id g.name
    else []
  let services :=
    if subjectType = "" ∨ subjectType = "SERVICE" then
      (orderBy P ServiceAccountRow.name
        (wsWhereOnly wsID ServiceAccountRow.workspaceId db.serviceAccounts.rows)).map fun sa =>
          uiSubject "SERVICE" "Service" sa.id sa.name
    else []
  .arr (users ++ groups ++ services)

def handleUIServiceAccounts : Except (Nat × String) Json :=
  if P.detailedServiceAccounts then
    .ok (.arr ((orderBy P ServiceAccountRow.name
      (wsWhereOnly wsID ServiceAccountRow.workspaceId db.serviceAccounts.rows)).map
        uiServiceAccount))
  else .error (500, "failed to list service accounts")

def handleUIResources : Json :=
  .arr ((orderBy P ResourceRow.name
    (wsWhereOnly wsID ResourceRow.workspaceId db.resources.rows)).map scanUIResource)

def handleUIAccessRules : Json :=
  .arr ((orderBy P AccessRuleRow.createdAt
      (wsWhereOnly wsID AccessRuleRow.workspaceId db.accessRules.rows)).map fun ar =>
    uiAccessRule (orderBy P id ((db.accessRuleGroups.rows.filter fun arg =>
      arg.ruleId = ar.id).map AccessRuleGroupRow.groupId)) ar)

def handleUIConnectors (now : SystemTime) : Json :=
  .arr ((orderBy P ConnectorRow.name
    (wsWhereOnly wsID ConnectorRow.workspaceId db.connectors.rows)).map (scanUIConnector now))

def handleUIAgents : Json :=
  .arr ((orderBy P TunnelerRow.name
    (wsWhereOnly wsID TunnelerRow.workspaceId db.tunnelers.rows)).map scanUIAgent)

/-- The connectors whose `remote_network_id` is the network. -/
def connectorsOf (networkID : String) : List ConnectorRow :=
  db.connectors.rows.filter fun c => c.remoteNetworkId = networkID

def handleUIRemoteNetworks : Json :=
  .arr ((orderBy P RemoteNetworkRow.createdAt
      (wsWhereOnly wsID RemoteNetworkRow.workspaceId db.remoteNetworks.rows)).map fun n =>
    uiRemoteNetwork (connectorsOf db n.id).length
      ((connectorsOf db n.id).filter fun c => c.status = "online").length
      (db.resources.rows.filter fun r => r.remoteNetworkId = n.id).length n)

/-- A list with the parameters of its request. -/
inductive Endpoint where
  | users
  | groups
  | subjects (type : String)
  | serviceAccounts
  | resources
  | accessRules
  | connectors
  | agents
  | remoteNetworks

/-- The response, or status and text of the error. -/
def respond (e : Endpoint) (now : SystemTime) : Except (Nat × String) Json :=
  match e with
  | .users => .ok (handleUIUsers wsID db)
  | .groups => .ok (handleUIGroups wsID db)
  | .subjects type => .ok (handleUISubjects wsID db type)
  | .serviceAccounts => handleUIServiceAccounts wsID db
  | .resources => .ok (handleUIResources wsID db)
  | .accessRules => .ok (handleUIAccessRules wsID db)
  | .connectors => .ok (handleUIConnectors wsID db now)
  | .agents => .ok (handleUIAgents wsID db)
  | .remoteNetworks => .ok (handleUIRemoteNetworks wsID db)

end Handlers

/-! ## The rows of a workspace -/

section View

variable {P : Platform} (wsID : String) (db : Database P)

def IsMember (userID : String) : Prop := db.workspaceMembers.get (wsID, userID) ≠ none

def OwnsGroup (groupID : String) : Prop :=
  ∃ g ∈ db.userGroups.rows, g.id = groupID ∧ g.workspaceId = wsID

def OwnsRule (ruleID : String) : Prop :=
  ∃ ar ∈ db.accessRules.rows, ar.id = ruleID ∧ ar.workspaceId = wsID

instance (userID : String) : Decidable (IsMember wsID db userID) :=
  inferInstanceAs (Decidable (_ ≠ none))

instance (groupID : String) : Decidable (OwnsGroup wsID db groupID) :=
  inferInstanceAs (Decidable (∃ g ∈ _, _))

instance (ruleID : String) : Decidable (OwnsRule wsID db ruleID) :=
  inferInstanceAs (Decidable (∃ ar ∈ _, _))

/-- The rule is of the workspace or attached to one of its groups. -/
def BelongsRule (ar : AccessRuleRow) : Prop :=
  ar.workspaceId = wsID ∨
    ∃ arg ∈ db.accessRuleGroups.rows, arg.ruleId = ar.id ∧ OwnsGroup wsID db arg.groupId

instance (ar : AccessRuleRow) : Decidable (BelongsRule wsID db ar) :=
  inferInstanceAs (Decidable (_ ∨ ∃ arg ∈ _, _))

/-- The rows with the workspace's id, its members and their user rows, and the rows that
put its users into groups, users into its groups, and groups and rules together. -/
def tenantView : Database P where
  users := db.users.filter fun u => IsMember wsID db u.id
  emails_nodup := db.emails_nodup.sublist (List.filter_sublist.map _)
  workspaceMembers := db.workspaceMembers.filter fun wm => wm.workspaceId = wsID
  userGroups := db.userGroups.filter fun g => g.workspaceId = wsID
  userGroupMembers := db.userGroupMembers.filter fun gm =>
    IsMember wsID db gm.userId ∨ OwnsGroup wsID db gm.groupId
  serviceAccounts := db.serviceAccounts.filter fun sa => sa.workspaceId = wsID
  resources := db.resources.filter fun r => r.workspaceId = wsID
  accessRules := db.accessRules.filter fun ar => BelongsRule wsID db ar
  accessRuleGroups := db.accessRuleGroups.filter fun arg =>
    OwnsRule wsID db arg.ruleId ∨ OwnsGroup wsID db arg.groupId
  connectors := db.connectors.filter fun c => c.workspaceId = wsID
  tunnelers := db.tunnelers.filter fun t => t.workspaceId = wsID
  remoteNetworks := db.remoteNetworks.filter fun n => n.workspaceId = wsID

/-- The two states agree on the rows that belong to the workspace. -/
def Agree (db' : Database P) : Prop := tenantView wsID db' = tenantView wsID db

end View

section FromView

variable {P : Platform} {wsID : String} (hws : wsID ≠ "") (db : Database P)

include hws

/-- A scoped query finds in the view what it finds in the database. -/
theorem wsWhereOnly_filter {ρ : Type} (workspaceId : ρ → String) (rows : List ρ) :
    wsWhereOnly wsID workspaceId (rows.filter fun r => workspaceId r = wsID) =
      wsWhereOnly wsID workspaceId rows := by
  simp only [wsWhereOnly, if_neg hws, List.filter_filter, Bool.and_self]

omit hws in
theorem mem_orderBy {ρ : Type} {column : ρ → String} {rows : List ρ} {r : ρ} :
    r ∈ orderBy P column rows ↔ r ∈ rows := List.mem_insertionSort _

theorem mem_wsWhereOnly {ρ : Type} {workspaceId : ρ → String} {rows : List ρ} {r : ρ} :
    r ∈ wsWhereOnly wsID workspaceId rows ↔ r ∈ rows ∧ workspaceId r = wsID := by
  simp [wsWhereOnly, hws]

omit hws in
theorem membership_tenantView (u : UserRow) :
    membership wsID (tenantView wsID db) u = membership wsID db u := by
  unfold membership tenantView
  rw [Table.get_filter]
  cases hget : db.workspaceMembers.get (wsID, u.id) with
  | none => rfl
  | some wm =>
      have hkey := (Table.mem_of_get hget).2
      have hmine : wm.workspaceId = wsID := congrArg Prod.fst hkey
      simp [Option.filter, hmine]

omit hws in
/-- The members of a group of the workspace. -/
theorem groupMembers_tenantView {g : UserGroupRow} (hg : g ∈ db.userGroups.rows)
    (hmine : g.workspaceId = wsID) :
    ((tenantView wsID db).userGroupMembers.rows.filter fun gm => gm.groupId = g.id) =
      db.userGroupMembers.rows.filter fun gm => gm.groupId = g.id := by
  show (db.userGroupMembers.rows.filter _).filter _ = _
  rw [List.filter_filter]
  refine List.filter_congr fun gm _ => ?_
  by_cases hgroup : gm.groupId = g.id
  · have howns : OwnsGroup wsID db gm.groupId := ⟨g, hg, hgroup.symm, hmine⟩
    simp [hgroup, hgroup ▸ howns]
  · simp [hgroup]

omit hws in
/-- The resources behind a group of the workspace. -/
theorem groupResources_tenantView {g : UserGroupRow} (hg : g ∈ db.userGroups.rows)
    (hmine : g.workspaceId = wsID) :
    groupResources (tenantView wsID db) g.id = groupResources db g.id := by
  have howns : OwnsGroup wsID db g.id := ⟨g, hg, rfl, hmine⟩
  unfold groupResources
  show (((db.accessRules.rows.filter _).filter _).map _).dedup = _
  rw [List.filter_filter]
  congr 2
  refine List.filter_congr fun ar _ => ?_
  show (decide (_ ∈ db.accessRuleGroups.rows.filter _) && _) = _
  by_cases hattached : ⟨ar.id, g.id⟩ ∈ db.accessRuleGroups.rows
  · have hbelongs : BelongsRule wsID db ar := Or.inr ⟨_, hattached, rfl, howns⟩
    simp [hattached, hbelongs, howns]
  · simp [hattached]

omit hws in
/-- The groups of a rule of the workspace. -/
theorem ruleGroups_tenantView {ar : AccessRuleRow} (har : ar ∈ db.accessRules.rows)
    (hmine : ar.workspaceId = wsID) :
    ((tenantView wsID db).accessRuleGroups.rows.filter fun arg => arg.ruleId = ar.id) =
      db.accessRuleGroups.rows.filter fun arg => arg.ruleId = ar.id := by
  show (db.accessRuleGroups.rows.filter _).filter _ = _
  rw [List.filter_filter]
  refine List.filter_congr fun arg _ => ?_
  by_cases hrule : arg.ruleId = ar.id
  · have howns : OwnsRule wsID db arg.ruleId := ⟨ar, har, hrule.symm, hmine⟩
    simp [hrule, hrule ▸ howns]
  · simp [hrule]

theorem groups_tenantView :
    wsWhereOnly wsID UserGroupRow.workspaceId (tenantView wsID db).userGroups.rows =
      wsWhereOnly wsID UserGroupRow.workspaceId db.userGroups.rows :=
  wsWhereOnly_filter hws _ _

theorem handleUIGroups_tenantView :
    handleUIGroups wsID (tenantView wsID db) = handleUIGroups wsID db := by
  unfold handleUIGroups
  rw [groups_tenantView hws]
  congr 1
  refine List.map_congr_left fun g hg => ?_
  obtain ⟨hmem, hmine⟩ := (mem_wsWhereOnly hws).mp (mem_orderBy.mp hg)
  rw [groupMembers_tenantView db hmem hmine, groupResources_tenantView db hmem hmine]

theorem handleUISubjects_tenantView (type : String) :
    handleUISubjects wsID (tenantView wsID db) type = handleUISubjects wsID db type := by
  have husers : ((tenantView wsID db).users.rows.filter fun u =>
        (membership wsID (tenantView wsID db) u).isSome) =
      db.users.rows.filter fun u => (membership wsID db u).isSome := by
    simp only [membership_tenantView]
    show (db.users.rows.filter _).filter _ = _
    rw [List.filter_filter]
    refine List.filter_congr fun u _ => ?_
    have hmember : IsMember wsID db u.id ↔ (membership wsID db u).isSome :=
      Option.isSome_iff_ne_none.symm
    simp [hmember]
  have hservices : wsWhereOnly wsID ServiceAccountRow.workspaceId
        (tenantView wsID db).serviceAccounts.rows =
      wsWhereOnly wsID ServiceAccountRow.workspaceId db.serviceAccounts.rows :=
    wsWhereOnly_filter hws _ _
  unfold handleUISubjects
  rw [if_pos hws, if_pos hws, husers, groups_tenantView hws, hservices]

theorem handleUIAccessRules_tenantView :
    handleUIAccessRules wsID (tenantView wsID db) = handleUIAccessRules wsID db := by
  have hrules : wsWhereOnly wsID AccessRuleRow.workspaceId (tenantView wsID db).accessRules.rows =
      wsWhereOnly wsID AccessRuleRow.workspaceId db.accessRules.rows := by
    simp only [wsWhereOnly, if_neg hws]
    show (db.accessRules.rows.filter _).filter _ = _
    rw [List.filter_filter]
    refine List.filter_congr fun ar _ => ?_
    by_cases hmine : ar.workspaceId = wsID
    · simp [hmine, BelongsRule]
    · simp [hmine]
  unfold handleUIAccessRules
  rw [hrules]
  congr 1
  refine List.map_congr_left fun ar har => ?_
  obtain ⟨hmem, hmine⟩ := (mem_wsWhereOnly hws).mp (mem_orderBy.mp har)
  rw [ruleGroups_tenantView db hmem hmine]

/-- Seven of the nine lists are computed from the workspace's rows. -/
theorem respond_tenantView {e : Endpoint} (now : SystemTime) (husers : e ≠ .users)
    (hnetworks : e ≠ .remoteNetworks) :
    respond wsID (tenantView wsID db) e now = respond wsID db e now := by
  cases e with
  | users => exact absurd rfl husers
  | groups => exact congrArg Except.ok (handleUIGroups_tenantView hws db)
  | subjects type => exact congrArg Except.ok (handleUISubjects_tenantView hws db type)
  | serviceAccounts =>
      show handleUIServiceAccounts wsID _ = handleUIServiceAccounts wsID db
      unfold handleUIServiceAccounts
      rw [← wsWhereOnly_filter hws ServiceAccountRow.workspaceId db.serviceAccounts.rows]
      rfl
  | resources =>
      show Except.ok (handleUIResources wsID _) = .ok (handleUIResources wsID db)
      unfold handleUIResources
      rw [← wsWhereOnly_filter hws ResourceRow.workspaceId db.resources.rows]
      rfl
  | accessRules => exact congrArg Except.ok (handleUIAccessRules_tenantView hws db)
  | connectors =>
      show Except.ok (handleUIConnectors wsID _ now) = .ok (handleUIConnectors wsID db now)
      unfold handleUIConnectors
      rw [← wsWhereOnly_filter hws ConnectorRow.workspaceId db.connectors.rows]
      rfl
  | agents =>
      show Except.ok (handleUIAgents wsID _) = .ok (handleUIAgents wsID db)
      unfold handleUIAgents
      rw [← wsWhereOnly_filter hws TunnelerRow.workspaceId db.tunnelers.rows]
      rfl
  | remoteNetworks => exact absurd rfl hnetworks

end FromView

/-! ## The two lists that leak -/

/-- `n` times the letter a. -/
def letters (n : Nat) : String := String.ofList (List.replicate n 'a')

theorem lowerAscii_letters (n : Nat) : LowerAscii (letters n) := by
  intro c hc
  obtain rfl : c = 'a' := by
    rw [letters, String.toList_ofList] at hc
    exact List.eq_of_mem_replicate hc
  decide

/-- A string of letters that does not occur. -/
theorem exists_fresh (taken : List String) : ∃ n, letters n ∉ taken := by
  have hinj : Function.Injective letters := by
    intro m n h
    have hlen := congrArg (fun s : String => s.toList.length) h
    simpa [letters] using hlen
  obtain ⟨_, ⟨n, rfl⟩, hfresh⟩ :=
    (Set.infinite_range_of_injective hinj).exists_notMem_finset taken.toFinset
  exact ⟨n, fun hmem => hfresh (List.mem_toFinset.mpr hmem)⟩

section Leaks

variable {P : Platform} {wsID : String} (db : Database P)

/-- A user who is no member of the workspace. -/
def strangerRow (n : Nat) : UserRow where
  id := letters n
  status := "Active"
  certificateIdentity := none
  name := "Ada"
  email := letters n
  createdAt := ""

/-- A connector without a workspace, on a network. -/
def strayConnectorRow (n : Nat) (networkID : String) : ConnectorRow where
  id := letters n
  remoteNetworkId := networkID
  name := ""
  status := "offline"
  version := ""
  hostname := ""
  privateIp := ""
  lastSeen := 0
  lastSeenAt := ""
  installed := 0
  lastPolicyVersion := 0
  revoked := 0
  workspaceId := ""

/-- What a new user's id and email must not be. -/
def takenByUsers : List String :=
  db.users.rows.map (fun u => u.id) ++ db.users.rows.map (fun u => P.sqlLower u.email) ++
    db.workspaceMembers.rows.map WorkspaceMemberRow.userId

/-- The state with one user more. -/
def withStranger {n : Nat} (hfresh : letters n ∉ takenByUsers db) : Database P :=
  { db with
    users := ⟨db.users.rows ++ [strangerRow n], nodup_keys_append db.users.keys_nodup
      fun h => hfresh (List.mem_append_left _ (List.mem_append_left _ h))⟩
    emails_nodup := by
      refine nodup_keys_append db.emails_nodup fun h => hfresh ?_
      have hlower : P.sqlLower (letters n) = letters n :=
        P.sqlLower_lower _ (lowerAscii_letters n)
      exact List.mem_append_left _ (List.mem_append_right _ (hlower ▸ h)) }

/-- The state with one connector more. -/
def withConnector {n : Nat} (networkID : String)
    (hfresh : letters n ∉ db.connectors.rows.map fun c => c.id) : Database P :=
  { db with
    connectors := ⟨db.connectors.rows ++ [strayConnectorRow n networkID],
      nodup_keys_append db.connectors.keys_nodup hfresh⟩ }

theorem agree_withStranger {n : Nat} (hfresh : letters n ∉ takenByUsers db) :
    Agree wsID db (withStranger db hfresh) := by
  have hstranger : ¬ IsMember wsID db (strangerRow n).id := by
    intro hmember
    obtain ⟨wm, hwm⟩ := Option.ne_none_iff_exists'.mp hmember
    obtain ⟨hmem, hkey⟩ := Table.mem_of_get hwm
    have huser : wm.userId = letters n := congrArg Prod.snd hkey
    exact hfresh (List.mem_append_right _ (huser ▸ List.mem_map_of_mem hmem))
  have hrows : (db.users.rows ++ [strangerRow n]).filter (fun u => IsMember wsID db u.id) =
      db.users.rows.filter fun u => IsMember wsID db u.id := by
    rw [List.filter_append, List.filter_singleton]
    simp [hstranger]
  unfold Agree tenantView
  congr 1
  exact Table.ext_rows hrows

theorem agree_withConnector {n : Nat} (networkID : String) (hws : wsID ≠ "")
    (hfresh : letters n ∉ db.connectors.rows.map fun c => c.id) :
    Agree wsID db (withConnector db networkID hfresh) := by
  have hrows : (db.connectors.rows ++ [strayConnectorRow n networkID]).filter
        (fun c => c.workspaceId = wsID) =
      db.connectors.rows.filter fun c => c.workspaceId = wsID := by
    rw [List.filter_append, List.filter_singleton]
    simp [strayConnectorRow, hws.symm]
  unfold Agree tenantView
  congr 1
  exact Table.ext_rows hrows

/-- The list of users has one entry more. -/
theorem users_withStranger {n : Nat} (hfresh : letters n ∉ takenByUsers db) :
    handleUIUsers wsID (withStranger db hfresh) ≠ handleUIUsers wsID db := by
  intro h
  have hlength := congrArg List.length (Json.arr.inj h)
  simp only [List.length_map, orderBy, List.length_insertionSort, withStranger,
    List.length_append, List.length_singleton] at hlength
  omega

/-- The network has one connector more. -/
theorem networks_withConnector {n : Nat} {net : RemoteNetworkRow} (hws : wsID ≠ "")
    (hnet : net ∈ db.remoteNetworks.rows) (hmine : net.workspaceId = wsID)
    (hfresh : letters n ∉ db.connectors.rows.map fun c => c.id) :
    handleUIRemoteNetworks wsID (withConnector db net.id hfresh) ≠
      handleUIRemoteNetworks wsID db := by
  intro h
  have hentry := List.map_inj_left.mp (Json.arr.inj h) net
    (mem_orderBy.mpr ((mem_wsWhereOnly hws).mpr ⟨hnet, hmine⟩))
  have hcount : (connectorsOf (withConnector db net.id hfresh) net.id).length =
      (connectorsOf db net.id).length := by
    simp only [uiRemoteNetwork, Json.obj.injEq, List.cons.injEq, Prod.mk.injEq, Json.num.injEq,
      true_and, Nat.cast_inj] at hentry
    exact hentry.1
  simp only [connectorsOf, withConnector, List.filter_append, List.filter_singleton,
    strayConnectorRow, List.length_append] at hcount
  simp at hcount

/-- A workspace without networks: the list is empty, and stays so. -/
theorem respond_no_networks {db' : Database P} (hws : wsID ≠ "") (hagree : Agree wsID db db')
    (hnone : ∀ net ∈ db.remoteNetworks.rows, net.workspaceId ≠ wsID) :
    handleUIRemoteNetworks wsID db' = handleUIRemoteNetworks wsID db := by
  have hempty : wsWhereOnly wsID RemoteNetworkRow.workspaceId db.remoteNetworks.rows = [] := by
    simpa [wsWhereOnly, hws] using hnone
  have hempty' : wsWhereOnly wsID RemoteNetworkRow.workspaceId db'.remoteNetworks.rows = [] := by
    have hrows := congrArg (fun view : Database P => view.remoteNetworks.rows) hagree
    simp only [wsWhereOnly, if_neg hws] at hempty ⊢
    exact hrows.trans hempty
  simp [handleUIRemoteNetworks, hempty, hempty', orderBy]

end Leaks

/-- **When a list does not leak.** -/
theorem lists_do_not_leak_iff (P : Platform) (wsID : String) (hws : wsID ≠ "")
    (db : Database P) (e : Endpoint) (now : SystemTime) :
    (∀ db', Agree wsID db db' → respond wsID db' e now = respond wsID db e now) ↔
      e ≠ .users ∧
        (e = .remoteNetworks → ∀ net ∈ db.remoteNetworks.rows, net.workspaceId ≠ wsID) := by
  constructor
  · intro hsame
    constructor
    · rintro rfl
      obtain ⟨n, hfresh⟩ := exists_fresh (takenByUsers db)
      have h := hsame _ (agree_withStranger db hfresh)
      exact users_withStranger db hfresh (Except.ok.inj h)
    · rintro rfl net hnet hmine
      obtain ⟨n, hfresh⟩ := exists_fresh (db.connectors.rows.map fun c => c.id)
      have h := hsame _ (agree_withConnector db net.id hws hfresh)
      exact networks_withConnector db hws hnet hmine hfresh (Except.ok.inj h)
  · rintro ⟨husers, hnetworks⟩ db' hagree
    by_cases he : e = .remoteNetworks
    · subst he
      exact congrArg Except.ok (respond_no_networks db hws hagree (hnetworks rfl))
    · have hview : tenantView wsID db' = tenantView wsID db := hagree
      calc respond wsID db' e now
          = respond wsID (tenantView wsID db') e now :=
            (respond_tenantView hws db' now husers he).symm
        _ = respond wsID (tenantView wsID db) e now := by rw [hview]
        _ = respond wsID db e now := respond_tenantView hws db now husers he

/-! ## Two tenants -/

def asciiPlatform : Platform where
  unicode := .ascii
  simpleUpper := Char.toUpper
  collate a b := decide (a ≤ b)
  sqlLower s := String.ofList (s.toList.map Char.toLower)
  sqlLower_lower s hs := by
    rw [List.map_congr_left fun c hc => (hs c hc).2, List.map_id', String.ofList_toList]
  detailedServiceAccounts := false

def ada : UserRow := ⟨⟨"usr_1", "Active", none⟩, "Ada", "ada@acme.com", ""⟩

def bob (status : String) : UserRow := ⟨⟨"usr_2", status, none⟩, "Bob", "bob@globex.com", ""⟩

theorem ids_nodup (status : String) : ([ada, bob status].map fun u => u.id).Nodup := by
  show ["usr_1", "usr_2"].Nodup
  decide

theorem emails_nodup (status : String) :
    ([ada, bob status].map fun u => asciiPlatform.sqlLower u.email).Nodup := by
  show [asciiPlatform.sqlLower "ada@acme.com", asciiPlatform.sqlLower "bob@globex.com"].Nodup
  decide

theorem members_nodup :
    ([⟨"acme", "usr_1", "owner"⟩, ⟨"globex", "usr_2", "owner"⟩].map
      fun wm : WorkspaceMemberRow => (wm.workspaceId, wm.userId)).Nodup := by decide

/-- Acme and Globex with one user each; `status` is that of Globex's user. -/
def twoTenants (status : String) : Database asciiPlatform where
  users := ⟨[ada, bob status], ids_nodup status⟩
  emails_nodup := emails_nodup status
  workspaceMembers := ⟨_, members_nodup⟩
  userGroups := ∅
  userGroupMembers := ∅
  serviceAccounts := ∅
  resources := ∅
  accessRules := ∅
  accessRuleGroups := ∅
  connectors := ∅
  tunnelers := ∅
  remoteNetworks := ∅

theorem agree_twoTenants (status status' : String) :
    Agree "acme" (twoTenants status) (twoTenants status') := rfl

theorem subjects_of_two_tenants :
    respond "acme" (twoTenants "inactive") (.subjects "user") 0 =
      respond "acme" (twoTenants "Active") (.subjects "user") 0 :=
  (lists_do_not_leak_iff asciiPlatform "acme" (by decide) (twoTenants "Active") (.subjects "user")
    0).mpr ⟨Endpoint.noConfusion, Endpoint.noConfusion⟩ _ (agree_twoTenants "Active" "inactive")

/-- Acme sees that Globex's user was set inactive. -/
theorem users_of_two_tenants :
    ¬ ∀ (P : Platform) (wsID : String), wsID ≠ "" → ∀ (db db' : Database P) (e : Endpoint)
      (now : SystemTime), Agree wsID db db' →
        respond wsID db' e now = respond wsID db e now := by
  intro hall
  have h := hall asciiPlatform "acme" (by decide) (twoTenants "Active") (twoTenants "inactive")
    .users 0 (agree_twoTenants "Active" "inactive")
  have hentries := Json.arr.inj (Except.ok.inj h)
  simp [orderBy, twoTenants, ada, bob, asciiPlatform, uiUser, UnicodeData.stringsToLower,
    UnicodeData.ascii] at hentries

end ZeroTrust.Admin.ListEndpoints
