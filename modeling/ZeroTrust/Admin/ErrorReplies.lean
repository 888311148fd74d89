/-
# `ZeroTrust.Admin.ErrorReplies` — what an error reply leaves behind

The handlers of `PolicyRequests`, of `oauth_invite_handlers.go` and of the ACL store once
more, this time statement by statement, so that a failure between two of them can be seen.
Every statement, query, `BEGIN` and `COMMIT` may fail for reasons that are not in the
tables (a constraint on another column such as the index on `LOWER(email)`, no connection),
and the foreign keys of `workspace_members` and `workspace_invites` are in the tables here.

Most handlers either have one statement, or run them in a transaction, or reply with an
error only while nothing has been done (`clean_script`).  Four give up in the middle:

    DELETE /api/users             the membership is gone, the user is not
    DELETE /api/resources/{id}    three statements, each may be the one that fails
    DELETE /api/remote-networks/{id}
                                  everything in the network is gone, the network is not
    POST /api/admin/users/invite  the invitation is there, the mail is not sent

`errors_harmless_iff` says of each request when an error reply leaves the tables alone.
-/
import ZeroTrust.Lib.Script
import ZeroTrust.Controller.AclStore
import ZeroTrust.Admin.PolicyRequests
import ZeroTrust.Admin.Workspaces

namespace ZeroTrust.Admin.ErrorReplies

open Lib
open Controller
open Controller.AclStore (AuthorizationRow ACLStore HttpError)
open PolicyRequests (Tables UserGroupRow RemoteNetworkRow)

/-! ## The tables -/

structure InviteRow where
  token : String
  workspaceId : String
  email : String
  role : String
  expiresAt : Int
  deriving DecidableEq

structure Store where
  tables : Tables
  authorizations : Table AuthorizationRow.key
  workspaces : Table WorkspaceRow.id
  members : Table MemberRow.key
  invites : Table InviteRow.token

namespace Store

/-- The foreign keys. -/
structure Consistent (s : Store) : Prop where
  memberUser : ∀ m ∈ s.members.rows, s.tables.db.users.get m.userId ≠ none
  memberWorkspace : ∀ m ∈ s.members.rows, s.workspaces.get m.workspaceId ≠ none
  inviteWorkspace : ∀ i ∈ s.invites.rows, s.workspaces.get i.workspaceId ≠ none

/-- A statement on one of `Tables`. -/
def onTables (f : Tables → Option Tables) (s : Store) : Option Store :=
  (f s.tables).map fun tables => { s with tables }

/-- A statement that has no reason of its own to fail. -/
def rewrite (f : Tables → Tables) : Store → Option Store := onTables fun t => some (f t)

/-- A statement on a table or a column that is not kept here. -/
def elsewhere : Store → Option Store := some

def insertUser (row : UserRow) : Store → Option Store :=
  onTables fun t => (t.db.users.insert row).map fun users => { t with db.users := users }

/-- The foreign keys are checked. -/
def insertMember (row : MemberRow) (s : Store) : Option Store :=
  if s.workspaces.get row.workspaceId = none ∨ s.tables.db.users.get row.userId = none then none
  else (s.members.insert row).map fun members => { s with members }

/-- `DELETE FROM users WHERE id = …`, which a row of `workspace_members` forbids. -/
def deleteUserRow (userID : String) (s : Store) : Option Store :=
  if ∃ m ∈ s.members.rows, m.userId = userID then none
  else rewrite (fun t => { t with db.users := t.db.users.filter fun u => u.id ≠ userID }) s

def insertGroup (row : UserGroupRow) : Store → Option Store :=
  onTables fun t => (t.userGroups.insert row).map fun userGroups => { t with userGroups }

def insertGroupMember (row : UserGroupMemberRow) : Store → Option Store :=
  onTables fun t => (t.db.userGroupMembers.insert row).map fun userGroupMembers =>
    { t with db.userGroupMembers := userGroupMembers }

def insertResource (row : ResourceRow) : Store → Option Store :=
  onTables fun t => (t.db.resources.insert row).map fun resources =>
    { t with db.resources := resources }

def insertRule (row : AccessRuleRow) : Store → Option Store :=
  onTables fun t => (t.db.accessRules.insert row).map fun accessRules =>
    { t with db.accessRules := accessRules }

def insertRuleGroup (row : AccessRuleGroupRow) : Store → Option Store :=
  onTables fun t => (t.db.accessRuleGroups.insert row).map fun accessRuleGroups =>
    { t with db.accessRuleGroups := accessRuleGroups }

def insertNetwork (row : RemoteNetworkRow) : Store → Option Store :=
  onTables fun t => (t.remoteNetworks.insert row).map fun remoteNetworks =>
    { t with remoteNetworks }

def insertInvite (row : InviteRow) (s : Store) : Option Store :=
  if s.workspaces.get row.workspaceId = none then none
  else (s.invites.insert row).map fun invites => { s with invites }

end Store

/-- The deletions that handlers carry out one after the other, outside a transaction. -/
inductive Deletion where
  | member (workspaceID userID : String)
  /-- `DELETE FROM access_rule_groups WHERE rule_id IN (SELECT id … WHERE resource_id = …)` -/
  | ruleGroupsOf (resourceID : String)
  | rulesOf (resourceID : String)
  | authorizationsOf (resourceID : String)
  | resource (resourceID : String)
  | resourcesIn (networkID : String)
  | policyVersionOf (connectorID : String)
  | connectorsIn (networkID : String)
  | assignmentsIn (networkID : String)
  /-- Of `tokens`, `connector_logs` and `tunnelers`. -/
  | elsewhere

namespace Deletion

def ofResource (db : Database) (resourceID : String) (arg : AccessRuleGroupRow) : Bool :=
  db.accessRules.rows.any fun ar => ar.resourceId = resourceID && ar.id = arg.ruleId

def apply (s : Store) : Deletion → Store
  | .member workspaceID userID =>
      { s with members := s.members.filter fun m => m.key ≠ (workspaceID, userID) }
  | .ruleGroupsOf resourceID =>
      { s with tables.db.accessRuleGroups :=
        s.tables.db.accessRuleGroups.filter fun arg => !ofResource s.tables.db resourceID arg }
  | .rulesOf resourceID =>
      { s with tables.db.accessRules :=
        s.tables.db.accessRules.filter fun ar => ar.resourceId ≠ resourceID }
  | .authorizationsOf resourceID =>
      { s with authorizations := s.authorizations.filter fun a => a.resourceId ≠ resourceID }
  | .resource resourceID =>
      { s with tables.db.resources := s.tables.db.resources.filter fun r => r.id ≠ resourceID }
  | .resourcesIn networkID =>
      { s with tables.db.resources :=
        s.tables.db.resources.filter fun r => r.remoteNetworkId ≠ networkID }
  | .policyVersionOf connectorID =>
      { s with tables.db.connectorPolicyVersions :=
        s.tables.db.connectorPolicyVersions.filter fun v => v.connectorId ≠ connectorID }
  | .connectorsIn networkID =>
      { s with tables.db.connectors :=
        s.tables.db.connectors.filter fun c => c.remoteNetworkId ≠ networkID }
  | .assignmentsIn networkID =>
      { s with tables.db.remoteNetworkConnectors :=
        s.tables.db.remoteNetworkConnectors.filter fun r => r.networkId ≠ networkID }
  | .elsewhere => s

def statement (d : Deletion) (s : Store) : Option Store := some (d.apply s)

/-- Some row is deleted. -/
def Finds (s : Store) : Deletion → Prop
  | .member workspaceID userID => ∃ m ∈ s.members.rows, m.key = (workspaceID, userID)
  | .ruleGroupsOf resourceID =>
      ∃ arg ∈ s.tables.db.accessRuleGroups.rows, ∃ ar ∈ s.tables.db.accessRules.rows,
        ar.resourceId = resourceID ∧ ar.id = arg.ruleId
  | .rulesOf resourceID => ∃ ar ∈ s.tables.db.accessRules.rows, ar.resourceId = resourceID
  | .authorizationsOf resourceID => ∃ a ∈ s.authorizations.rows, a.resourceId = resourceID
  | .resource resourceID => ∃ r ∈ s.tables.db.resources.rows, r.id = resourceID
  | .resourcesIn networkID => ∃ r ∈ s.tables.db.resources.rows, r.remoteNetworkId = networkID
  | .policyVersionOf connectorID =>
      ∃ v ∈ s.tables.db.connectorPolicyVersions.rows, v.connectorId = connectorID
  | .connectorsIn networkID => ∃ c ∈ s.tables.db.connectors.rows, c.remoteNetworkId = networkID
  | .assignmentsIn networkID =>
      ∃ r ∈ s.tables.db.remoteNetworkConnectors.rows, r.networkId = networkID
  | .elsewhere => False

end Deletion

/-! ## The handlers -/

abbrev Handler := Script Store HttpError

abbrev Transaction := Body Store HttpError

open Script (checked execAll)

def fail (status : Nat) (message : String) : Handler := .reply (some ⟨status, message⟩)

def ok : Handler := .reply none

/-- A check of the request, before any statement. -/
def required (missing : Prop) [Decidable missing] (message : String) (next : Handler) : Handler :=
  if missing then fail 400 message else next

section Handlers

variable (C : Libraries) (errorText : String)

/-- `fmt.Sprintf("failed to …: %v", err)`. -/
def failed (message : String) : HttpError := ⟨400, message ++ ": " ++ errorText⟩

/-! ### Users -/

def createUser (id name email status : String) : Handler :=
  required (name = "" ∨ email = "") "name and email are required" <|
    let status := if status = "" then "Active" else status
    checked (failed errorText "failed to create user") (Store.insertUser ⟨id, status, none⟩) ok

def updateUser (userID status : String) : Handler :=
  required (userID = "") "user id required" <|
    .read fun s =>
      match s.bind fun s => s.tables.db.users.get userID with
      | none => fail 404 "user not found"
      | some existing =>
          let status := if status ≠ "" then status else existing.status
          checked (failed errorText "failed to update user")
            (Store.rewrite fun t =>
              let users := t.db.users.update (PolicyRequests.setStatus userID status)
                (PolicyRequests.setStatus_id userID status)
              { t with db.users := users }) ok

/-- `UserStore.DeleteUser`: all of the user's memberships go with it. -/
def deleteUser (userID : String) : Handler :=
  let e := failed errorText "failed to delete user"
  required (userID = "") "user id required" <|
    .transaction e
      (.checked e (Store.rewrite fun t =>
        { t with db.userGroupMembers :=
            t.db.userGroupMembers.filter fun gm => gm.userId ≠ userID }) <|
      .checked e (fun s =>
        some { s with members := s.members.filter fun m => m.userId ≠ userID }) <|
      .checked e (Store.deleteUserRow userID) .commit)
      fun committed => if committed then ok else .reply (some e)

/-- The new user becomes a member of the caller's workspace, if there is one. -/
def uiCreateUser (wsID id certID name email status : String) : Handler :=
  required (name = "" ∨ email = "") "name and email are required" <|
    let status := if C.unicode.stringsToLower status = "inactive" then "inactive" else "active"
    checked ⟨400, "failed to create user"⟩ (Store.insertUser ⟨id, status, some certID⟩) <|
      if wsID ≠ "" then execAll [Store.insertMember ⟨wsID, id, "member"⟩] ok else ok

def uiDeleteUser (wsID userID : String) : Handler :=
  let deleteRow := checked ⟨500, "failed to delete user"⟩ (Store.deleteUserRow userID) ok
  required (userID = "") "user id required" <|
    if wsID ≠ "" then
      checked ⟨500, "failed to delete user from workspace"⟩ (Deletion.member wsID userID).statement
        deleteRow
    else deleteRow

/-! ### Groups and their members -/

def createGroup (id name description : String) : Handler :=
  required (name = "") "name is required" <|
    checked (failed errorText "failed to create group") (Store.insertGroup ⟨id, name, description⟩)
      ok

def updateGroup (groupID name description : String) : Handler :=
  required (groupID = "") "group id required" <|
    .read fun s =>
      match s.bind fun s => s.tables.userGroups.get groupID with
      | none => fail 404 "group not found"
      | some group =>
          let name := if name ≠ "" then name else group.name
          let description := if description ≠ "" then description else group.description
          checked (failed errorText "failed to update group")
            (Store.rewrite fun t => PolicyRequests.renameGroup t groupID name description) ok

def deleteMembersOf (groupID : String) : Store → Option Store :=
  Store.rewrite fun t =>
    { t with db.userGroupMembers := t.db.userGroupMembers.filter fun gm => gm.groupId ≠ groupID }

def deleteRuleGroupsOf (groupID : String) : Store → Option Store :=
  Store.rewrite fun t =>
    { t with
      db.accessRuleGroups := t.db.accessRuleGroups.filter fun arg => arg.groupId ≠ groupID }

/-- `DELETE FROM access_rules WHERE id IN (… LEFT JOIN … WHERE arg.rule_id IS NULL)`. -/
def deleteBareRules : Store → Option Store :=
  Store.rewrite fun t =>
    { t with db.accessRules := t.db.accessRules.filter fun ar =>
        t.db.accessRuleGroups.rows.any fun arg => arg.ruleId = ar.id }

def deleteGroupRow (groupID : String) : Store → Option Store :=
  Store.rewrite fun t => { t with userGroups := t.userGroups.filter fun g => g.id ≠ groupID }

/-- `UserStore.DeleteGroup`. -/
def deleteGroup (groupID : String) : Handler :=
  let e := failed errorText "failed to delete group"
  required (groupID = "") "group id required" <|
    .transaction e
      (.checked e (deleteMembersOf groupID) <|
      .checked e (deleteRuleGroupsOf groupID) <|
      .checked e deleteBareRules <|
      .checked e (deleteGroupRow groupID) .commit)
      fun committed => if committed then ok else .reply (some e)

def addMember (groupID userID : String) : Handler :=
  required (groupID = "") "group id required" <|
    required (userID = "") "user_id required" <|
      checked (failed errorText "failed to add member: failed to add user to group")
        (Store.rewrite fun t =>
          { t with db.userGroupMembers := t.db.userGroupMembers.put ⟨userID, groupID⟩ }) ok

def removeMember (groupID userID : String) : Handler :=
  required (groupID = "") "group id required" <|
    required (userID = "") "user_id required" <|
      checked (failed errorText "failed to remove member")
        (Store.rewrite fun t => PolicyRequests.removeMemberRow t groupID userID) ok

def uiCreateGroup (id name description : String) : Handler :=
  required (name = "" ∨ description = "") "name and description are required" <|
    checked ⟨400, "failed to create group"⟩ (Store.insertGroup ⟨id, name, description⟩) ok

def uiUpdateGroup (groupID name description : String) : Handler :=
  required (groupID = "") "group id required" <|
    checked ⟨500, "failed to update group"⟩
      (Store.rewrite fun t => PolicyRequests.renameGroup t groupID name description) ok

/-- Of the errors only those of `BEGIN` and of the last statement are looked at. -/
def uiDeleteGroup (groupID : String) : Handler :=
  let e : HttpError := ⟨500, "failed to delete group"⟩
  required (groupID = "") "group id required" <|
    .transaction e
      (.execAll [deleteMembersOf groupID, deleteRuleGroupsOf groupID, deleteBareRules] <|
      .checked e (deleteGroupRow groupID) .commit)
      fun _ => ok

/-- The `Prepare` of the insertion may fail too. -/
def uiSetMembers (groupID : String) (memberIDs : Option (List String)) : Handler :=
  let e : HttpError := ⟨500, "failed to update members"⟩
  required (groupID = "") "group id required" <|
    match memberIDs with
    | none => fail 400 "memberIds must be an array"
    | some ids =>
        .transaction e
          (.checked e (deleteMembersOf groupID) <|
          .execAll (Store.elsewhere ::
            ids.map fun id => Store.insertGroupMember ⟨id, groupID⟩) .commit)
          fun _ => ok

def uiRemoveMember (groupID userID : String) : Handler :=
  required (groupID = "") "group id required" <|
    execAll [Store.rewrite fun t => PolicyRequests.removeMemberRow t groupID userID] ok

/-- `SELECT ar.id FROM access_rules ar JOIN access_rule_groups arg …`; the empty string if
there is none or the query fails. -/
def existingRule (groupID resourceID : String) (s : Option Store) : String :=
  let existing := s.bind fun s => s.tables.db.accessRules.rows.find? fun ar =>
    ar.resourceId = resourceID ∧ ⟨ar.id, groupID⟩ ∈ s.tables.db.accessRuleGroups.rows
  (existing.map AccessRuleRow.id).getD ""

/-- The loop over `resourceIds`, each with the time in milliseconds. -/
def addGroupRules (groupID : String) : List (String × Int) → Transaction
  | [] => .commit
  | (resourceID, ms) :: rest =>
      .read fun s =>
        if existingRule groupID resourceID s ≠ "" then addGroupRules groupID rest
        else
          let ruleID := "rule_" ++ toString ms ++ "_" ++ groupID ++ "_" ++ resourceID
          .execAll [Store.insertRule ⟨ruleID, resourceID, 1⟩,
            Store.insertRuleGroup ⟨ruleID, groupID⟩] (addGroupRules groupID rest)

def uiAddResources (groupID : String) (resourceIDs : Option (List (String × Int))) : Handler :=
  required (groupID = "") "group id required" <|
    match resourceIDs with
    | none => fail 400 "resourceIds must be an array"
    | some ids =>
        if ids.length = 0 then ok
        else
          -- the group's name, for the names of the rules
          .read fun _ =>
            .transaction ⟨500, "failed to add resources"⟩
              (.execAll [Store.elsewhere, Store.elsewhere, Store.elsewhere] <|
                addGroupRules groupID ids)
              fun _ => ok

/-! ### Resources -/

/-- `SaveResourceToDB` and its siblings are not rebound: PostgreSQL refuses them. -/
def unbound : Store → Option Store := fun _ => none

/-- The requests on resources and their principals, with the store in memory, which may
refuse them. -/
def aclRequest (store : ACLStore) (r : AclStore.Request) : Handler :=
  match AclStore.State.handle ⟨store, ∅, ∅⟩ r with
  | .error e => .reply (some e)
  | .ok after =>
      let statements :=
        match r with
        | .putFilters resourceID _ =>
            (after.store.authorizations.filter fun auth => auth.resourceId = resourceID).length
        | _ => 1
      execAll (List.replicate statements unbound) ok

/-- As `PolicyRequests.resolveResourceNetworkID`; `none` are queries that fail. -/
def resolveResourceNetworkID (s : Option Store) (req : PolicyRequests.ResourceRequest) :
    Except String String :=
  match s with
  | some s => PolicyRequests.resolveResourceNetworkID C.collate s.tables req.networkID
      req.connectorID
  | none => if trim req.networkID ≠ "" then .ok (trim req.networkID) else .error errorText

def uiCreateResource (id : String) (req : PolicyRequests.ResourceRequest) : Handler :=
  required (req.incomplete) "name, type, address, and protocol are required" <|
    .read fun s =>
      match resolveResourceNetworkID C errorText s req with
      | .error e => fail 400 e
      | .ok networkID =>
          checked ⟨400, "failed to create resource"⟩
            (Store.insertResource
              { id, type := req.type, address := req.address, protocol := req.protocol
                portFrom := req.portFrom, portTo := req.portTo, remoteNetworkId := networkID
                firewallStatus := "unprotected" }) ok

def setRequested (req : PolicyRequests.ResourceRequest) (networkID : String) (r : ResourceRow) :
    ResourceRow :=
  { r with
    type := req.type, address := req.address, protocol := req.protocol
    portFrom := req.portFrom, portTo := req.portTo, remoteNetworkId := networkID }

theorem setRequested_id (req : PolicyRequests.ResourceRequest) (networkID : String)
    (r : ResourceRow) : (setRequested req networkID r).id = r.id := rfl

def setFirewallStatus (firewallStatus : String) (r : ResourceRow) : ResourceRow :=
  { r with firewallStatus }

theorem setFirewallStatus_id (firewallStatus : String) (r : ResourceRow) :
    (setFirewallStatus firewallStatus r).id = r.id := rfl

/-- `UPDATE resources SET … WHERE id = …`. -/
def updateResourceRow (resourceID : String) (req : PolicyRequests.ResourceRequest)
    (networkID : String) : Store → Option Store :=
  Store.rewrite fun t =>
    PolicyRequests.updateResource t resourceID (setRequested req networkID)
      (setRequested_id req networkID)

def uiUpdateResource (resourceID : String) (req : PolicyRequests.ResourceRequest) : Handler :=
  let update (networkID : String) : Handler :=
    checked ⟨400, "failed to update resource"⟩ (updateResourceRow resourceID req networkID) ok
  required (resourceID = "") "resource id required" <|
    required (req.incomplete) "name, type, address, and protocol are required" <|
      .read fun s =>
        match resolveResourceNetworkID C errorText s req with
        | .ok networkID => update networkID
        | .error e =>
            .read fun s =>
              let current := s.bind fun s =>
                (s.tables.db.resources.get resourceID).map ResourceRow.remoteNetworkId
              match current.filter fun current => trim current ≠ "" with
              | some networkID => update networkID
              | none => fail 400 e

def uiPatchResource (resourceID firewallStatus : String) : Handler :=
  required (resourceID = "") "resource id required" <|
    required (firewallStatus ≠ "protected" ∧ firewallStatus ≠ "unprotected")
      "firewall_status must be 'protected' or 'unprotected'" <|
      checked ⟨500, "failed to update firewall status"⟩
        (Store.rewrite fun t =>
          PolicyRequests.updateResource t resourceID (setFirewallStatus firewallStatus)
            (setFirewallStatus_id firewallStatus)) ok

def uiDeleteResource (resourceID : String) : Handler :=
  required (resourceID = "") "resource id required" <|
    checked ⟨500, "failed to delete resource access rules"⟩
      (Deletion.ruleGroupsOf resourceID).statement <|
    checked ⟨500, "failed to delete resource access rules"⟩
      (Deletion.rulesOf resourceID).statement <|
    checked ⟨500, "failed to delete resource"⟩ (Deletion.resource resourceID).statement ok

/-! ### Access rules -/

def uiCreateAccessRule (ruleID resourceID name : String) (groupIDs : Option (List String))
    (enabled : Bool) : Handler :=
  let message := "resourceId, name, and groupIds are required"
  match groupIDs with
  | none => fail 400 message
  | some groupIDs =>
      required (resourceID = "" ∨ name = "") message <|
        .transaction ⟨500, errorText⟩
          (.checked ⟨400, errorText⟩
            (Store.insertRule ⟨ruleID, resourceID, if enabled then 1 else 0⟩) <|
          .checked ⟨500, errorText⟩ Store.elsewhere <|
          .execAll (groupIDs.map fun gid => Store.insertRuleGroup ⟨ruleID, gid⟩) .commit)
          fun _ => ok

def uiDeleteAccessRule (ruleID : String) : Handler :=
  required (ruleID = "") "rule id required" <|
    execAll [Store.rewrite fun t =>
      { t with db.accessRules := t.db.accessRules.filter fun ar => ar.id ≠ ruleID }] ok

/-! ### Remote networks and connectors -/

def createNetwork (id name location : String) : Handler :=
  required (name = "") "name is required" <|
    checked (failed errorText "failed to create network")
      (Store.insertNetwork ⟨id, name, location⟩) ok

def uiCreateNetwork (id name location : String) : Handler :=
  required (name = "") "name is required" <|
    let location := if location = "" then "OTHER" else location
    checked ⟨500, errorText⟩ (Store.insertNetwork ⟨id, name, location⟩) ok

def connectorsIn (networkID : String) (s : Store) : List String :=
  (s.tables.db.connectors.rows.filter fun c => c.remoteNetworkId = networkID).map ConnectorRow.id

def resourcesIn (networkID : String) (s : Store) : List String :=
  (s.tables.db.resources.rows.filter fun r => r.remoteNetworkId = networkID).map ResourceRow.id

/-- Everything that goes with a network, in order. -/
def networkDeletions (networkID : String) (connectorIDs resourceIDs : List String) :
    List Deletion :=
  (resourceIDs.flatMap fun rid => [.ruleGroupsOf rid, .rulesOf rid, .authorizationsOf rid]) ++
  [.resourcesIn networkID] ++
  -- the tokens twice, and the logs
  (connectorIDs.flatMap fun cid =>
    [.elsewhere, .elsewhere, .elsewhere, .policyVersionOf cid]) ++
  -- and the agents
  [.connectorsIn networkID, .elsewhere, .assignmentsIn networkID]

def deleteNetworkRow (networkID : String) : Store → Option Store :=
  Store.rewrite fun t =>
    { t with remoteNetworks := t.remoteNetworks.filter fun n => n.id ≠ networkID }

/-- A query that fails counts as one that finds nothing. -/
def found (f : Store → List String) (s : Option Store) : List String := (s.map f).getD []

def uiDeleteNetwork (networkID : String) : Handler :=
  required (networkID = "") "network id required" <|
    .read fun connectors => .read fun _ => .read fun resources =>
      execAll ((networkDeletions networkID (found (connectorsIn networkID) connectors)
        (found (resourcesIn networkID) resources)).map Deletion.statement) <|
      checked ⟨500, "failed to delete remote network"⟩ (deleteNetworkRow networkID) ok

def assignConnector (networkID connectorID : String) : Handler :=
  required (networkID = "") "network id required" <|
    required (connectorID = "") "connector_id required" <|
      checked (failed errorText "failed to assign connector")
        (Store.rewrite fun t =>
          { t with db.remoteNetworkConnectors :=
              t.db.remoteNetworkConnectors.put ⟨networkID, connectorID⟩ }) ok

def removeConnector (networkID connectorID : String) : Handler :=
  required (networkID = "") "network id required" <|
    required (connectorID = "") "connector_id required" <|
      checked (failed errorText "failed to remove connector")
        (Store.rewrite fun t =>
          { t with db.remoteNetworkConnectors :=
              t.db.remoteNetworkConnectors.filter fun r => r ≠ ⟨networkID, connectorID⟩ }) ok

/-! ### Invitations -/

structure InviteRequest where
  email : String
  /-- That of the body, or else that of the caller's token. -/
  workspaceID : String
  role : String
  /-- The random token and the time in seconds, both the handler's own. -/
  token : String
  now : Int
  /-- `s.Mailer` is configured. -/
  mailer : Bool

def InviteRequest.row (req : InviteRequest) : InviteRow :=
  { token := req.token, workspaceId := req.workspaceID
    email := C.unicode.stringsToLower (trim req.email)
    role := if req.role = "" then "member" else req.role, expiresAt := req.now + 48 * 3600 }

/-- Sending the mail is the last thing that may fail. -/
def inviteUser (req : InviteRequest) : Handler :=
  required (req.email = "") "email is required" <|
    required (req.workspaceID = "") "workspace_id is required" <|
      checked ⟨500, "failed to create invite token: " ++ errorText⟩
        (Store.insertInvite (req.row C)) <|
      if req.mailer then checked ⟨500, "failed to send invite email"⟩ Store.elsewhere ok else ok

end Handlers

/-! ### All of them -/

/-- The user, group, resource, access-rule and remote-network requests with the workspace
in the caller's context, the requests on the ACL store, and the invitation. -/
inductive Request where
  | createUser (id name email status : String)
  | updateUser (userID status : String)
  | deleteUser (userID : String)
  | uiCreateUser (wsID id certID name email status : String)
  | uiDeleteUser (wsID userID : String)
  | createGroup (id name description : String)
  | updateGroup (groupID name description : String)
  | deleteGroup (groupID : String)
  | addMember (groupID userID : String)
  | removeMember (groupID userID : String)
  | uiCreateGroup (id name description : String)
  | uiUpdateGroup (groupID name description : String)
  | uiDeleteGroup (groupID : String)
  | uiSetMembers (groupID : String) (memberIDs : Option (List String))
  | uiRemoveMember (groupID userID : String)
  | uiAddResources (groupID : String) (resourceIDs : Option (List (String × Int)))
  | acl (store : ACLStore) (r : AclStore.Request)
  | uiCreateResource (id : String) (req : PolicyRequests.ResourceRequest)
  | uiUpdateResource (resourceID : String) (req : PolicyRequests.ResourceRequest)
  | uiPatchResource (resourceID firewallStatus : String)
  | uiDeleteResource (resourceID : String)
  | uiCreateAccessRule (ruleID resourceID name : String) (groupIDs : Option (List String))
      (enabled : Bool)
  | uiDeleteAccessRule (ruleID : String)
  | createNetwork (id name location : String)
  | uiCreateNetwork (id name location : String)
  | uiDeleteNetwork (networkID : String)
  | assignConnector (networkID connectorID : String)
  | removeConnector (networkID connectorID : String)
  | inviteUser (req : InviteRequest)

/-- What the request runs; `errorText` is what the driver says of a failure. -/
def script (C : Libraries) (errorText : String) : Request → Handler
  | .createUser id name email status => createUser errorText id name email status
  | .updateUser userID status => updateUser errorText userID status
  | .deleteUser userID => deleteUser errorText userID
  | .uiCreateUser wsID id certID name email status =>
      uiCreateUser C wsID id certID name email status
  | .uiDeleteUser wsID userID => uiDeleteUser wsID userID
  | .createGroup id name description => createGroup errorText id name description
  | .updateGroup groupID name description => updateGroup errorText groupID name description
  | .deleteGroup groupID => deleteGroup errorText groupID
  | .addMember groupID userID => addMember errorText groupID userID
  | .removeMember groupID userID => removeMember errorText groupID userID
  | .uiCreateGroup id name description => uiCreateGroup id name description
  | .uiUpdateGroup groupID name description => uiUpdateGroup groupID name description
  | .uiDeleteGroup groupID => uiDeleteGroup groupID
  | .uiSetMembers groupID memberIDs => uiSetMembers groupID memberIDs
  | .uiRemoveMember groupID userID => uiRemoveMember groupID userID
  | .uiAddResources groupID resourceIDs => uiAddResources groupID resourceIDs
  | .acl store r => aclRequest store r
  | .uiCreateResource id req => uiCreateResource C errorText id req
  | .uiUpdateResource resourceID req => uiUpdateResource C errorText resourceID req
  | .uiPatchResource resourceID firewallStatus => uiPatchResource resourceID firewallStatus
  | .uiDeleteResource resourceID => uiDeleteResource resourceID
  | .uiCreateAccessRule ruleID resourceID name groupIDs enabled =>
      uiCreateAccessRule errorText ruleID resourceID name groupIDs enabled
  | .uiDeleteAccessRule ruleID => uiDeleteAccessRule ruleID
  | .createNetwork id name location => createNetwork errorText id name location
  | .uiCreateNetwork id name location => uiCreateNetwork errorText id name location
  | .uiDeleteNetwork networkID => uiDeleteNetwork networkID
  | .assignConnector networkID connectorID => assignConnector errorText networkID connectorID
  | .removeConnector networkID connectorID => removeConnector errorText networkID connectorID
  | .inviteUser req => inviteUser C errorText req

/-! ## Handlers that do nothing before an error -/

/-- The requests whose handler may give up in the middle. -/
def Request.GivesUp : Request → Prop
  | .uiDeleteUser .. | .uiDeleteResource .. | .uiDeleteNetwork .. | .inviteUser .. => True
  | _ => False

section

variable {C : Libraries} {errorText : String}

@[simp] theorem clean_fail {status : Nat} {message : String} :
    (fail status message).Clean false := Script.clean_error

@[simp] theorem clean_ok {touched : Bool} : ok.Clean touched := Script.clean_done

@[simp] theorem clean_required {missing : Prop} [Decidable missing] {message : String}
    {next : Handler} :
    (required missing message next).Clean false ↔ (¬ missing → next.Clean false) := by
  simp [required]

@[simp] theorem clean_execAll_ok {statements : List (Store → Option Store)} {touched : Bool} :
    (execAll statements ok).Clean touched := Script.clean_execAll (fun _ => clean_ok) _ _

theorem clean_aclRequest (store : ACLStore) (r : AclStore.Request) :
    (aclRequest store r).Clean false := by
  unfold aclRequest
  split <;> simp

theorem clean_updateUser (userID status : String) :
    (updateUser errorText userID status).Clean false := by
  simp only [updateUser, clean_required, Script.clean_read]
  intro _ s
  split <;> simp

theorem clean_updateGroup (groupID name description : String) :
    (updateGroup errorText groupID name description).Clean false := by
  simp only [updateGroup, clean_required, Script.clean_read]
  intro _ s
  split <;> simp

theorem clean_uiCreateResource (id : String) (req : PolicyRequests.ResourceRequest) :
    (uiCreateResource C errorText id req).Clean false := by
  simp only [uiCreateResource, clean_required, Script.clean_read]
  intro _ s
  split <;> simp

theorem clean_uiUpdateResource (resourceID : String) (req : PolicyRequests.ResourceRequest) :
    (uiUpdateResource C errorText resourceID req).Clean false := by
  simp only [uiUpdateResource, clean_required, Script.clean_read]
  intro _ _ s
  split
  · simp
  · rw [Script.clean_read]
    intro s
    split <;> simp

theorem clean_script {r : Request} (h : ¬ r.GivesUp) : (script C errorText r).Clean false := by
  cases r with
  | uiDeleteUser | uiDeleteResource | uiDeleteNetwork | inviteUser => exact absurd trivial h
  | updateUser userID status => exact clean_updateUser userID status
  | updateGroup groupID name description => exact clean_updateGroup groupID name description
  | acl store r => exact clean_aclRequest store r
  | uiCreateResource id req => exact clean_uiCreateResource id req
  | uiUpdateResource resourceID req => exact clean_uiUpdateResource resourceID req
  | uiSetMembers groupID memberIDs => cases memberIDs <;> simp [script, uiSetMembers]
  | uiAddResources groupID resourceIDs => cases resourceIDs <;> simp [script, uiAddResources]
  | uiCreateAccessRule ruleID resourceID name groupIDs enabled =>
      cases groupIDs <;> simp [script, uiCreateAccessRule]
  | createUser => simp [script, createUser]
  | deleteUser => simp [script, deleteUser]
  | uiCreateUser => simp [script, uiCreateUser]
  | createGroup => simp [script, createGroup]
  | deleteGroup => simp [script, deleteGroup]
  | addMember => simp [script, addMember]
  | removeMember => simp [script, removeMember]
  | uiCreateGroup => simp [script, uiCreateGroup]
  | uiUpdateGroup => simp [script, uiUpdateGroup]
  | uiDeleteGroup => simp [script, uiDeleteGroup]
  | uiRemoveMember => simp [script, uiRemoveMember]
  | uiPatchResource => simp [script, uiPatchResource]
  | uiDeleteAccessRule => simp [script, uiDeleteAccessRule]
  | createNetwork => simp [script, createNetwork]
  | uiCreateNetwork => simp [script, uiCreateNetwork]
  | assignConnector => simp [script, assignConnector]
  | removeConnector => simp [script, removeConnector]

end

/-! ## Deletions -/

section Deletions

variable {s : Store}

namespace Deletion

theorem apply_eq_iff (d : Deletion) : d.apply s = s ↔ ¬ d.Finds s := by
  obtain ⟨⟨⟨connectors, remoteNetworkConnectors, resources, accessRules, accessRuleGroups,
    userGroupMembers, users, connectorPolicyVersions⟩, userGroups, remoteNetworks⟩,
    authorizations, workspaces, members, invites⟩ := s
  cases d <;> simp [apply, Finds, Table.filter_eq_self, ofResource]

/-- The rows of the tables that a deletion may shorten. -/
def size (s : Store) : Nat :=
  s.members.rows.length + s.authorizations.rows.length +
  s.tables.db.accessRuleGroups.rows.length + s.tables.db.accessRules.rows.length +
  s.tables.db.resources.rows.length + s.tables.db.connectorPolicyVersions.rows.length +
  s.tables.db.connectors.rows.length + s.tables.db.remoteNetworkConnectors.rows.length

/-- A store that is the same except for one table, which has lost rows. -/
theorem shortened {ρ κ : Type} {key : ρ → κ} {t : Table key} {p : ρ → Bool}
    (withTable : Table key → Store) (hsame : withTable t = s)
    (hsize : ∀ t', size (withTable t') + t.rows.length = size s + t'.rows.length) :
    withTable (t.filter p) = s ∨ size (withTable (t.filter p)) < size s := by
  by_cases hall : ∀ r ∈ t.rows, p r = true
  · left
    rw [Table.filter_eq_self.mpr hall, hsame]
  · right
    have hlt := Table.length_filter_lt hall
    have heq := hsize (t.filter p)
    omega

theorem shrinks (d : Deletion) : Script.Shrinks size d.statement := by
  intro s s' hs'
  obtain rfl := Option.some.inj hs'
  cases d with
  | member _ _ =>
      exact shortened (fun rows => { s with members := rows }) rfl fun _ => by
        simp only [size]
        omega
  | ruleGroupsOf _ =>
      exact shortened (fun rows => { s with tables.db.accessRuleGroups := rows }) rfl fun _ => by
        simp only [size]
        omega
  | rulesOf _ =>
      exact shortened (fun rows => { s with tables.db.accessRules := rows }) rfl fun _ => by
        simp only [size]
        omega
  | authorizationsOf _ =>
      exact shortened (fun rows => { s with authorizations := rows }) rfl fun _ => by
        simp only [size]
        omega
  | resource _ =>
      exact shortened (fun rows => { s with tables.db.resources := rows }) rfl fun _ => by
        simp only [size]
        omega
  | resourcesIn _ =>
      exact shortened (fun rows => { s with tables.db.resources := rows }) rfl fun _ => by
        simp only [size]
        omega
  | policyVersionOf _ =>
      refine shortened (fun rows => { s with tables.db.connectorPolicyVersions := rows }) rfl
        fun _ => ?_
      simp only [size]
      omega
  | connectorsIn _ =>
      exact shortened (fun rows => { s with tables.db.connectors := rows }) rfl fun _ => by
        simp only [size]
        omega
  | assignmentsIn _ =>
      refine shortened (fun rows => { s with tables.db.remoteNetworkConnectors := rows }) rfl
        fun _ => ?_
      simp only [size]
      omega
  | elsewhere => exact Or.inl rfl

end Deletion

theorem Deletion.idle_iff (d : Deletion) : Script.Idle d.statement s ↔ ¬ d.Finds s := by
  rw [← d.apply_eq_iff]
  constructor
  · intro h
    exact h _ rfl
  · rintro h _ ⟨⟩
    exact h

end Deletions

/-! ## When an error reply leaves the tables alone -/

/-- What `DELETE /api/remote-networks/{id}` deletes before the network. -/
def networkDeletionsAt (s : Store) (refuses : Nat → Bool) (networkID : String) : List Deletion :=
  networkDeletions networkID
    (found (connectorsIn networkID) (if refuses 0 then none else some s))
    (found (resourcesIn networkID) (if refuses 2 then none else some s))

/-- `refuses n`: the n-th statement or query of the request fails for a reason outside of
these tables, or, for the one after the insertion of the invitation, the mail is not sent. -/
def Harmless (s : Store) (refuses : Nat → Bool) : Request → Prop
  | .uiDeleteUser wsID userID =>
      userID = "" ∨ wsID = "" ∨ refuses 0 = true ∨ ¬ (Deletion.member wsID userID).Finds s ∨
        (refuses 1 = false ∧ ∀ m ∈ s.members.rows, m.userId = userID → m.workspaceId = wsID)
  | .uiDeleteResource resourceID =>
      resourceID = "" ∨ refuses 0 = true ∨
        if refuses 1 then ¬ (Deletion.ruleGroupsOf resourceID).Finds s
        else refuses 2 = true → ¬ (Deletion.rulesOf resourceID).Finds s
  | .uiDeleteNetwork networkID =>
      let deletions := networkDeletionsAt s refuses networkID
      networkID = "" ∨ refuses (3 + deletions.length) = false ∨
        ∀ (i : Nat) d, deletions[i]? = some d → refuses (3 + i) = false → ¬ d.Finds s
  | .inviteUser req =>
      req.email = "" ∨ req.workspaceID = "" ∨ refuses 0 = true ∨
        s.workspaces.get req.workspaceID = none ∨ s.invites.get req.token ≠ none ∨
        req.mailer = false ∨ refuses 1 = false
  | _ => True

section Harmless

variable {C : Libraries} {errorText : String} {s s₀ : Store} {refuses : Nat → Bool} {n : Nat}

@[simp] theorem errorLeaves_required {missing : Prop} [Decidable missing] {message : String}
    {next : Handler} :
    (required missing message next).ErrorLeaves refuses s n s ↔
      (¬ missing → next.ErrorLeaves refuses s n s) := by
  simp [required, fail]

@[simp] theorem errorLeaves_ok : ok.ErrorLeaves refuses s₀ n s := Script.errorLeaves_done

theorem deleteUserRow_eq_none {userID : String} :
    Store.deleteUserRow userID s = none ↔ ∃ m ∈ s.members.rows, m.userId = userID := by
  unfold Store.deleteUserRow
  split <;> simp_all [Store.rewrite, Store.onTables]

theorem insertInvite_eq_none {row : InviteRow} :
    Store.insertInvite row s = none ↔
      s.workspaces.get row.workspaceId = none ∨ s.invites.get row.token ≠ none := by
  unfold Store.insertInvite Table.insert
  split <;> simp_all

/-- The invitation is there. -/
theorem insertInvite_ne {row : InviteRow} {s' : Store} (h : Store.insertInvite row s = some s') :
    s' ≠ s := by
  unfold Store.insertInvite at h
  split at h
  · cases h
  · obtain ⟨invites, hinsert, rfl⟩ := Option.map_eq_some_iff.mp h
    obtain ⟨hfree, rfl⟩ := Table.insert_eq_some hinsert
    intro heq
    have hsame : s.invites.put row = s.invites := congrArg Store.invites heq
    have hget := Table.get_put s.invites row row.token
    rw [hsame, if_pos rfl] at hget
    exact absurd (hfree.symm.trans hget) (Option.some_ne_none row).symm

theorem uiDeleteUser_iff (wsID userID : String) :
    (uiDeleteUser wsID userID).ErrorLeaves refuses s 0 s ↔
      Harmless s refuses (.uiDeleteUser wsID userID) := by
  have hkept : (∃ m ∈ ((Deletion.member wsID userID).apply s).members.rows, m.userId = userID) ↔
      ¬ ∀ m ∈ s.members.rows, m.userId = userID → m.workspaceId = wsID := by
    simp only [Deletion.apply, Table.filter, List.mem_filter, decide_eq_true_eq]
    constructor
    · rintro ⟨m, ⟨hm, hkey⟩, hu⟩ hall
      exact hkey (Prod.ext (hall m hm hu) hu)
    · intro hall
      push Not at hall
      obtain ⟨m, hm, hu, hws⟩ := hall
      exact ⟨m, ⟨hm, fun hkey => hws (Prod.mk.inj hkey).1⟩, hu⟩
  simp only [uiDeleteUser, errorLeaves_required, Script.errorLeaves_ite, Script.errorLeaves_checked,
    errorLeaves_ok, Deletion.statement, deleteUserRow_eq_none, Option.some.injEq, forall_eq',
    hkept, Deletion.apply_eq_iff, Harmless]
  grind

/-- Where the groups of a resource's rules are found, so are its rules. -/
theorem apply_rules_eq_iff {resourceID : String} :
    (Deletion.rulesOf resourceID).apply ((Deletion.ruleGroupsOf resourceID).apply s) = s ↔
      ¬ (Deletion.rulesOf resourceID).Finds s := by
  constructor
  · rintro h ⟨ar, har, hres⟩
    have hrules : s.tables.db.accessRules.filter (fun ar => ar.resourceId ≠ resourceID) =
        s.tables.db.accessRules := congrArg (fun s : Store => s.tables.db.accessRules) h
    exact of_decide_eq_true (Table.filter_eq_self.mp hrules ar har) hres
  · intro h
    have hgroups : ¬ (Deletion.ruleGroupsOf resourceID).Finds s := by
      rintro ⟨arg, -, ar, har, hres, -⟩
      exact h ⟨ar, har, hres⟩
    rw [Deletion.apply_eq_iff _ |>.mpr hgroups, Deletion.apply_eq_iff]
    exact h

theorem uiDeleteResource_iff (resourceID : String) :
    (uiDeleteResource resourceID).ErrorLeaves refuses s 0 s ↔
      Harmless s refuses (.uiDeleteResource resourceID) := by
  simp only [uiDeleteResource, errorLeaves_required, Script.errorLeaves_checked,
    errorLeaves_ok, Deletion.statement, Option.some.injEq, forall_eq', apply_rules_eq_iff,
    Deletion.apply_eq_iff, Harmless]
  grind

theorem uiDeleteNetwork_iff (networkID : String) :
    (uiDeleteNetwork networkID).ErrorLeaves refuses s 0 s ↔
      Harmless s refuses (.uiDeleteNetwork networkID) := by
  have hshrinks : ∀ statement ∈ (networkDeletionsAt s refuses networkID).map Deletion.statement,
      Script.Shrinks Deletion.size statement := by
    rintro _ hmem
    obtain ⟨d, -, rfl⟩ := List.mem_map.mp hmem
    exact d.shrinks
  have hidle := Script.afterAll_eq_iff refuses 3 s hshrinks
  have hlast : ∀ s, ¬ deleteNetworkRow networkID s = none := fun _ h => by cases h
  simp only [List.getElem?_map, Option.map_eq_some_iff, forall_exists_index, and_imp,
    forall_apply_eq_imp_iff₂, Deletion.idle_iff] at hidle
  simp only [uiDeleteNetwork, errorLeaves_required, Script.errorLeaves_read,
    Script.errorLeaves_execAll, Script.errorLeaves_checked, errorLeaves_ok, List.length_map,
    hlast, or_false, implies_true, and_true, Harmless]
  change (_ → refuses (3 + (networkDeletionsAt s refuses networkID).length) = true →
    Script.afterAll refuses 3 ((networkDeletionsAt s refuses networkID).map Deletion.statement) s =
      s) ↔ _
  rw [hidle]
  grind

theorem inviteUser_iff (req : InviteRequest) :
    (inviteUser C errorText req).ErrorLeaves refuses s 0 s ↔
      Harmless s refuses (.inviteUser req) := by
  simp only [inviteUser, errorLeaves_required, Script.errorLeaves_checked, Script.errorLeaves_ite,
    errorLeaves_ok, Store.elsewhere, Harmless]
  cases hinsert : Store.insertInvite (req.row C) s with
  | none =>
      have hrow := insertInvite_eq_none.mp hinsert
      simp only [InviteRequest.row] at hrow
      grind
  | some s' =>
      have hne := insertInvite_ne hinsert
      have hrow := mt insertInvite_eq_none.mpr (hinsert ▸ Option.some_ne_none s')
      simp only [InviteRequest.row] at hrow
      grind

/-- For every request, whatever fails: an error reply leaves the tables as they were iff
`Harmless` says so. -/
theorem errors_harmless_iff (C : Libraries) (errorText : String) (s : Store)
    (refuses : Nat → Bool) (r : Request) :
    (∀ e s', (script C errorText r).run refuses 0 s = (some e, s') → s' = s) ↔
      Harmless s refuses r := by
  cases r with
  | uiDeleteUser wsID userID => exact uiDeleteUser_iff wsID userID
  | uiDeleteResource resourceID => exact uiDeleteResource_iff resourceID
  | uiDeleteNetwork networkID => exact uiDeleteNetwork_iff networkID
  | inviteUser req => exact inviteUser_iff req
  | _ => exact iff_of_true (Script.errorLeaves_of_clean (clean_script not_false)) trivial

/-- A member of two workspaces. -/
def sharedUser : Store where
  tables :=
    { db :=
        { connectors := ∅, remoteNetworkConnectors := ∅, resources := ∅, accessRules := ∅
          accessRuleGroups := ∅, userGroupMembers := ∅, connectorPolicyVersions := ∅
          users := Table.single ⟨"usr_1", "active", some "identity-1"⟩ }
      userGroups := ∅, remoteNetworks := ∅ }
  authorizations := ∅
  workspaces :=
    (Table.single ⟨"ws_1", "One", "one", "active"⟩).put ⟨"ws_2", "Two", "two", "active"⟩
  members := (Table.single ⟨"ws_1", "usr_1", "member"⟩).put ⟨"ws_2", "usr_1", "member"⟩
  invites := ∅

/-- `DELETE /api/users?id=usr_1` in the first of them: an error, and the membership is gone. -/
theorem half_deleted_user :
    sharedUser.Consistent ∧ ∀ C errorText, ∃ s',
      (script C errorText (.uiDeleteUser "ws_1" "usr_1")).run (fun _ => false) 0 sharedUser =
        (some ⟨500, "failed to delete user"⟩, s') ∧
      s'.members.get ("ws_1", "usr_1") = none ∧
      sharedUser.members.get ("ws_1", "usr_1") ≠ none := by
  refine ⟨⟨by decide, by decide, by decide⟩, fun C errorText => ⟨_, rfl, by decide, by decide⟩⟩

end Harmless

end ZeroTrust.Admin.ErrorReplies
