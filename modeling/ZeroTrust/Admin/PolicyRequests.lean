/-
# `ZeroTrust.Admin.PolicyRequests` — the requests that write what the compiler reads

Users, groups, members, resources, access rules, remote networks and connectors are
written through two APIs, `/api/admin` (`server.go`, `handlers_users.go`,
`handlers_remote_networks.go`) and `/api` (the `ui_*.go` files).  A handler checks the
request, runs its statements, and either issues a policy notification or does not; then
it replies.

A request is given as it comes out of the router and the JSON decoder, with the ids that
the handler makes from the clock or at random.  Of the columns only those are kept that
some handler or the compiler reads.  In PostgreSQL a statement that fails ends its
transaction: the later ones fail too, and the commit takes nothing over.
-/
import ZeroTrust.Controller.PolicySnapshot

namespace ZeroTrust.Admin.PolicyRequests

open Lib
open Controller

structure UserGroupRow where
  id : String
  name : String
  description : String

structure RemoteNetworkRow where
  id : String
  name : String
  location : String

structure Tables where
  db : Database
  userGroups : Table UserGroupRow.id
  remoteNetworks : Table RemoteNetworkRow.id

inductive Outcome where
  | ok
  | error (status : Nat) (message : String)
  deriving DecidableEq

structure Reply where
  outcome : Outcome
  tables : Tables
  /-- The database as it is when the policy notification is issued, if one is. -/
  notified : Option Database

namespace Tables

def fail (t : Tables) (status : Nat) (message : String) : Reply := ⟨.error status message, t, none⟩

def reply (t : Tables) : Reply := ⟨.ok, t, none⟩

/-- `s.ACLNotify.Notify…`, and then the reply. -/
def notifyAndReply (t : Tables) : Reply := ⟨.ok, t, some t.db⟩

end Tables

/-- The statement whose error the handler looks at may fail for a reason that is not in
these tables: a constraint on another column, or no connection. -/
structure Env where
  refused : Bool
  /-- What the driver says of a statement that fails. -/
  errorText : String

def Env.exec {α : Type} (env : Env) (statement : Option α) : Option α :=
  if env.refused then none else statement

/-- `INSERT`, row by row, in one transaction. -/
def insertAll {ρ κ : Type} {key : ρ → κ} [DecidableEq κ] (table : Table key) (rows : List ρ) :
    Option (Table key) :=
  rows.foldlM (fun table row => table.insert row) table

/-! ## Users -/

section Users

variable (env : Env) (t : Tables)

/-- `POST /api/admin/users`; `certificate_identity` stays NULL. -/
def createUser (id name email status : String) : Reply :=
  if name = "" ∨ email = "" then t.fail 400 "name and email are required"
  else
    let status := if status = "" then "Active" else status
    match env.exec (t.db.users.insert ⟨id, status, none⟩) with
    | none => t.fail 400 ("failed to create user: " ++ env.errorText)
    | some users => { t with db.users := users }.notifyAndReply

def setStatus (id status : String) (u : UserRow) : UserRow :=
  if u.id = id then { u with status } else u

theorem setStatus_id (id status : String) (u : UserRow) : (setStatus id status u).id = u.id := by
  unfold setStatus
  split <;> rfl

/-- `PUT` and `PATCH /api/admin/users/{id}`. -/
def updateUser (userID status : String) : Reply :=
  if userID = "" then t.fail 400 "user id required"
  else
    match t.db.users.get userID with
    | none => t.fail 404 "user not found"
    | some existing =>
        let status := if status ≠ "" then status else existing.status
        match env.exec (some (t.db.users.update (setStatus userID status)
          (setStatus_id userID status))) with
        | none => t.fail 400 ("failed to update user: " ++ env.errorText)
        | some users => { t with db.users := users }.notifyAndReply

/-- `DELETE /api/admin/users/{id}`. -/
def deleteUser (userID : String) : Reply :=
  if userID = "" then t.fail 400 "user id required"
  else if env.refused then t.fail 400 ("failed to delete user: " ++ env.errorText)
  else
    { t with
      db.userGroupMembers := t.db.userGroupMembers.filter fun gm => gm.userId ≠ userID
      db.users := t.db.users.filter fun u => u.id ≠ userID }.notifyAndReply

/-- `POST /api/users`, with `strings.ToLower` of the status. -/
def uiCreateUser (unicode : UnicodeData) (id certID name email status : String) : Reply :=
  if name = "" ∨ email = "" then t.fail 400 "name and email are required"
  else
    let status := if unicode.stringsToLower status = "inactive" then "inactive" else "active"
    match env.exec (t.db.users.insert ⟨id, status, some certID⟩) with
    | none => t.fail 400 "failed to create user"
    | some users => { t with db.users := users }.notifyAndReply

/-- `DELETE /api/users?id=…`; a user who is a member of another workspace is kept by a
foreign key. -/
def uiDeleteUser (userID : String) : Reply :=
  if userID = "" then t.fail 400 "user id required"
  else if env.refused then t.fail 500 "failed to delete user"
  else { t with db.users := t.db.users.filter fun u => u.id ≠ userID }.reply

end Users

/-! ## Groups and their members -/

section Groups

variable (env : Env) (t : Tables)

/-- `POST /api/admin/user-groups`. -/
def createGroup (id name description : String) : Reply :=
  if name = "" then t.fail 400 "name is required"
  else
    match env.exec (t.userGroups.insert ⟨id, name, description⟩) with
    | none => t.fail 400 ("failed to create group: " ++ env.errorText)
    | some userGroups => { t with userGroups }.notifyAndReply

def rename (id name description : String) (g : UserGroupRow) : UserGroupRow :=
  if g.id = id then { g with name, description } else g

theorem rename_id (id name description : String) (g : UserGroupRow) :
    (rename id name description g).id = g.id := by
  unfold rename
  split <;> rfl

/-- `UPDATE user_groups SET name = …, description = … WHERE id = …`. -/
def renameGroup (t : Tables) (groupID name description : String) : Tables :=
  let userGroups :=
    t.userGroups.update (rename groupID name description) (rename_id groupID name description)
  { t with userGroups }

/-- `PUT` and `PATCH /api/admin/user-groups/{id}`. -/
def updateGroup (groupID name description : String) : Reply :=
  if groupID = "" then t.fail 400 "group id required"
  else
    match t.userGroups.get groupID with
    | none => t.fail 404 "group not found"
    | some group =>
        let name := if name ≠ "" then name else group.name
        let description := if description ≠ "" then description else group.description
        if env.refused then t.fail 400 ("failed to update group: " ++ env.errorText)
        else (renameGroup t groupID name description).notifyAndReply

/-- The statements of `DeleteGroup`: also the rules go that have no group left. -/
def deleteGroupRows (t : Tables) (groupID : String) : Tables :=
  let accessRuleGroups := t.db.accessRuleGroups.filter fun arg => arg.groupId ≠ groupID
  { t with
    db.userGroupMembers := t.db.userGroupMembers.filter fun gm => gm.groupId ≠ groupID
    db.accessRuleGroups := accessRuleGroups
    db.accessRules := t.db.accessRules.filter fun ar =>
      accessRuleGroups.rows.any fun arg => arg.ruleId = ar.id
    userGroups := t.userGroups.filter fun g => g.id ≠ groupID }

/-- `DELETE /api/admin/user-groups/{id}`. -/
def deleteGroup (groupID : String) : Reply :=
  if groupID = "" then t.fail 400 "group id required"
  else if env.refused then t.fail 400 ("failed to delete group: " ++ env.errorText)
  else (deleteGroupRows t groupID).notifyAndReply

/-- `POST /api/admin/user-groups/{id}/members`. -/
def addMember (groupID userID : String) : Reply :=
  if groupID = "" then t.fail 400 "group id required"
  else if userID = "" then t.fail 400 "user_id required"
  else if env.refused then
    t.fail 400 ("failed to add member: failed to add user to group: " ++ env.errorText)
  else
    { t with db.userGroupMembers := t.db.userGroupMembers.put ⟨userID, groupID⟩ }.notifyAndReply

/-- `DELETE FROM user_group_members WHERE user_id = … AND group_id = …`. -/
def removeMemberRow (t : Tables) (groupID userID : String) : Tables :=
  { t with db.userGroupMembers := t.db.userGroupMembers.filter fun gm => gm ≠ ⟨userID, groupID⟩ }

/-- `DELETE /api/admin/user-groups/{id}/members`. -/
def removeMember (groupID userID : String) : Reply :=
  if groupID = "" then t.fail 400 "group id required"
  else if userID = "" then t.fail 400 "user_id required"
  else if env.refused then t.fail 400 ("failed to remove member: " ++ env.errorText)
  else (removeMemberRow t groupID userID).notifyAndReply

/-- `POST /api/groups`. -/
def uiCreateGroup (id name description : String) : Reply :=
  if name = "" ∨ description = "" then t.fail 400 "name and description are required"
  else
    match env.exec (t.userGroups.insert ⟨id, name, description⟩) with
    | none => t.fail 400 "failed to create group"
    | some userGroups => { t with userGroups }.notifyAndReply

/-- `PUT` and `PATCH /api/groups/{id}`. -/
def uiUpdateGroup (groupID name description : String) : Reply :=
  if groupID = "" then t.fail 400 "group id required"
  else if env.refused then t.fail 500 "failed to update group"
  else (renameGroup t groupID name description).notifyAndReply

/-- `DELETE /api/groups/{id}`. -/
def uiDeleteGroup (groupID : String) : Reply :=
  if groupID = "" then t.fail 400 "group id required"
  else if env.refused then t.fail 500 "failed to delete group"
  else (deleteGroupRows t groupID).notifyAndReply

/-- `POST /api/groups/{id}/members`: the list replaces the members, unless an id is in it
twice and the transaction fails, which is not looked at. -/
def uiSetMembers (groupID : String) (memberIDs : Option (List String)) : Reply :=
  if groupID = "" then t.fail 400 "group id required"
  else
    match memberIDs with
    | none => t.fail 400 "memberIds must be an array"
    | some ids =>
        if env.refused then t.fail 500 "failed to update members"
        else
          let others := t.db.userGroupMembers.filter fun gm => gm.groupId ≠ groupID
          match insertAll others (ids.map fun id => ⟨id, groupID⟩) with
          | some members => { t with db.userGroupMembers := members }.notifyAndReply
          | none => t.notifyAndReply

/-- `DELETE /api/groups/{id}/members/{userId}`. -/
def uiRemoveMember (groupID userID : String) : Reply :=
  if groupID = "" then t.fail 400 "group id required"
  else (removeMemberRow t groupID userID).notifyAndReply

/-- One turn of the loop over `resourceIds`, at a time in milliseconds. -/
def addGroupRule (groupID : String) (db : Database) (resource : String × Int) : Option Database :=
  let existing := db.accessRules.rows.find? fun ar =>
    ar.resourceId = resource.1 ∧ ⟨ar.id, groupID⟩ ∈ db.accessRuleGroups.rows
  if (existing.map AccessRuleRow.id).getD "" ≠ "" then some db
  else do
    let ruleID := "rule_" ++ toString resource.2 ++ "_" ++ groupID ++ "_" ++ resource.1
    let accessRules ← db.accessRules.insert ⟨ruleID, resource.1, 1⟩
    let accessRuleGroups ← db.accessRuleGroups.insert ⟨ruleID, groupID⟩
    some { db with accessRules, accessRuleGroups }

/-- `POST /api/groups/{id}/resources`. -/
def uiAddResources (groupID : String) (resourceIDs : Option (List (String × Int))) : Reply :=
  if groupID = "" then t.fail 400 "group id required"
  else
    match resourceIDs with
    | none => t.fail 400 "resourceIds must be an array"
    | some ids =>
        if ids.length = 0 then t.reply
        else if env.refused then t.fail 500 "failed to add resources"
        else
          match ids.foldlM (addGroupRule groupID) t.db with
          | some db => { t with db }.notifyAndReply
          | none => t.notifyAndReply

end Groups

/-! ## Resources -/

section Resources

variable (env : Env) (t : Tables)

/-- `POST /api/admin/resources`: `SaveResourceToDB` is not rebound, PostgreSQL refuses it,
and the error is dropped. -/
def upsertResource (id : String) : Reply :=
  if id = "" then t.fail 400 "resource id required"
  else t.notifyAndReply

/-- `DELETE /api/admin/resources/{id}`, with `DeleteResourceFromDB` likewise. -/
def deleteResource (resourceID : String) : Reply :=
  if resourceID = "" then t.fail 400 "resource id required"
  else t.notifyAndReply

def lookupConnectorNetworkID (db : Database) (connectorID : String) : Option String :=
  match db.connectors.get connectorID with
  | none => none
  | some row =>
      if row.remoteNetworkId ≠ "" then some row.remoteNetworkId
      else
        match db.remoteNetworkConnectors.rows.find? fun r => r.connectorId = connectorID with
        | some assigned => if assigned.networkId ≠ "" then some assigned.networkId else none
        | none => none

/-- `ORDER BY id` is by the database's collation. -/
def resolveResourceNetworkID (collate : String → String → Bool) (t : Tables)
    (networkID connectorID : String) : Except String String :=
  if trim networkID ≠ "" then .ok (trim networkID)
  else
    match (if connectorID ≠ "" then lookupConnectorNetworkID t.db connectorID else none) with
    | some resolved => .ok resolved
    | none =>
        -- Fallback: if there's exactly one remote network, use it.
        let ids := ((t.remoteNetworks.rows.map RemoteNetworkRow.id).insertionSort
          fun a b => collate a b = true).take 2
        match ids.filter fun id => trim id ≠ "" with
        | [id] => .ok id
        | [] => .error "no remote networks available"
        | _ => .error "remote network required"

/-- The body of `POST` and `PUT /api/resources`. -/
structure ResourceRequest where
  networkID : String
  connectorID : String
  name : String
  type : String
  address : String
  protocol : String
  portFrom : Option Int64
  portTo : Option Int64

def ResourceRequest.incomplete (req : ResourceRequest) : Bool :=
  req.name = "" || req.type = "" || req.address = "" || req.protocol = ""

/-- `POST /api/resources`. -/
def uiCreateResource (collate : String → String → Bool) (id : String) (req : ResourceRequest) :
    Reply :=
  if req.incomplete then t.fail 400 "name, type, address, and protocol are required"
  else
    match resolveResourceNetworkID collate t req.networkID req.connectorID with
    | .error e => t.fail 400 e
    | .ok networkID =>
        match env.exec (t.db.resources.insert
          { id, type := req.type, address := req.address, protocol := req.protocol
            portFrom := req.portFrom, portTo := req.portTo, remoteNetworkId := networkID
            firewallStatus := "unprotected" }) with
        | none => t.fail 400 "failed to create resource"
        | some resources => { t with db.resources := resources }.notifyAndReply

def whereId (resourceID : String) (f : ResourceRow → ResourceRow) (r : ResourceRow) : ResourceRow :=
  if r.id = resourceID then f r else r

theorem whereId_id {f : ResourceRow → ResourceRow} (hf : ∀ r, (f r).id = r.id)
    (resourceID : String) (r : ResourceRow) : (whereId resourceID f r).id = r.id := by
  unfold whereId
  split
  · exact hf r
  · rfl

/-- `UPDATE resources SET … WHERE id = …`. -/
def updateResource (t : Tables) (resourceID : String) (f : ResourceRow → ResourceRow)
    (hf : ∀ r, (f r).id = r.id) : Tables :=
  { t with db.resources := t.db.resources.update (whereId resourceID f) (whereId_id hf resourceID) }

/-- `PUT /api/resources/{id}`: a resource whose network cannot be told keeps it. -/
def uiUpdateResource (collate : String → String → Bool) (resourceID : String)
    (req : ResourceRequest) : Reply :=
  if resourceID = "" then t.fail 400 "resource id required"
  else if req.incomplete then t.fail 400 "name, type, address, and protocol are required"
  else
    let current := ((t.db.resources.get resourceID).map ResourceRow.remoteNetworkId).filter
      fun current => trim current ≠ ""
    match resolveResourceNetworkID collate t req.networkID req.connectorID, current with
    | .error e, none => t.fail 400 e
    | .error _, some networkID | .ok networkID, _ =>
        if env.refused then t.fail 400 "failed to update resource"
        else
          (updateResource t resourceID (fun r =>
            { r with
              type := req.type, address := req.address, protocol := req.protocol
              portFrom := req.portFrom, portTo := req.portTo, remoteNetworkId := networkID })
            fun _ => rfl).notifyAndReply

/-- `PATCH /api/resources/{id}`. -/
def uiPatchResource (resourceID firewallStatus : String) : Reply :=
  if resourceID = "" then t.fail 400 "resource id required"
  else if firewallStatus ≠ "protected" ∧ firewallStatus ≠ "unprotected" then
    t.fail 400 "firewall_status must be 'protected' or 'unprotected'"
  else if env.refused then t.fail 500 "failed to update firewall status"
  else
    (updateResource t resourceID (fun r => { r with firewallStatus })
      fun _ => rfl).notifyAndReply

/-- The access rules of a resource, with their groups. -/
def deleteRulesOf (db : Database) (resourceID : String) : Database :=
  { db with
    accessRuleGroups := db.accessRuleGroups.filter fun arg =>
      !db.accessRules.rows.any fun ar => ar.resourceId = resourceID && ar.id = arg.ruleId
    accessRules := db.accessRules.filter fun ar => ar.resourceId ≠ resourceID }

/-- `DELETE /api/resources/{id}`. -/
def uiDeleteResource (resourceID : String) : Reply :=
  if resourceID = "" then t.fail 400 "resource id required"
  else if env.refused then t.fail 500 "failed to delete resource access rules"
  else
    let db := deleteRulesOf t.db resourceID
    { t with db := { db with
      resources := db.resources.filter fun r => r.id ≠ resourceID } }.notifyAndReply

end Resources

/-! ## Access rules -/

section AccessRules

variable (env : Env) (t : Tables)

/-- `POST /api/access-rules`; a group that is named twice makes the commit fail, which is not
looked at. -/
def uiCreateAccessRule (ruleID resourceID name : String) (groupIDs : Option (List String))
    (enabled : Bool) : Reply :=
  match groupIDs with
  | none => t.fail 400 "resourceId, name, and groupIds are required"
  | some groupIDs =>
      if resourceID = "" ∨ name = "" then t.fail 400 "resourceId, name, and groupIds are required"
      else
        match env.exec (t.db.accessRules.insert ⟨ruleID, resourceID, if enabled then 1 else 0⟩) with
        | none => t.fail 400 env.errorText
        | some accessRules =>
            match insertAll t.db.accessRuleGroups (groupIDs.map fun gid => ⟨ruleID, gid⟩) with
            | some accessRuleGroups =>
                { t with
                  db.accessRules := accessRules
                  db.accessRuleGroups := accessRuleGroups }.notifyAndReply
            | none => t.notifyAndReply

/-- `DELETE /api/access-rules/{id}`. -/
def uiDeleteAccessRule (ruleID : String) : Reply :=
  if ruleID = "" then t.fail 400 "rule id required"
  else
    { t with db.accessRules := t.db.accessRules.filter fun ar => ar.id ≠ ruleID }.notifyAndReply

end AccessRules

/-! ## Remote networks and connectors -/

section Networks

variable (env : Env) (t : Tables)

/-- `POST /api/admin/remote-networks`. -/
def createNetwork (id name location : String) : Reply :=
  if name = "" then t.fail 400 "name is required"
  else
    match env.exec (t.remoteNetworks.insert ⟨id, name, location⟩) with
    | none => t.fail 400 ("failed to create network: " ++ env.errorText)
    | some remoteNetworks => { t with remoteNetworks }.reply

/-- `POST /api/remote-networks`. -/
def uiCreateNetwork (id name location : String) : Reply :=
  if name = "" then t.fail 400 "name is required"
  else
    let location := if location = "" then "OTHER" else location
    match env.exec (t.remoteNetworks.insert ⟨id, name, location⟩) with
    | none => t.fail 500 env.errorText
    | some remoteNetworks => { t with remoteNetworks }.reply

/-- The rows that go with a remote network. -/
def deleteNetworkRows (db : Database) (networkID : String) : Database :=
  let resourceIDs :=
    (db.resources.rows.filter fun r => r.remoteNetworkId = networkID).map ResourceRow.id
  let connectorIDs :=
    (db.connectors.rows.filter fun c => c.remoteNetworkId = networkID).map ConnectorRow.id
  let db := resourceIDs.foldl deleteRulesOf db
  { db with
    resources := db.resources.filter fun r => r.remoteNetworkId ≠ networkID
    connectorPolicyVersions :=
      db.connectorPolicyVersions.filter fun v => v.connectorId ∉ connectorIDs
    connectors := db.connectors.filter fun c => c.remoteNetworkId ≠ networkID
    remoteNetworkConnectors := db.remoteNetworkConnectors.filter fun r => r.networkId ≠ networkID }

/-- `DELETE /api/remote-networks/{id}`; only the last statement is looked at. -/
def uiDeleteNetwork (networkID : String) : Reply :=
  if networkID = "" then t.fail 400 "network id required"
  else
    let t := { t with db := deleteNetworkRows t.db networkID }
    if env.refused then t.fail 500 "failed to delete remote network"
    else { t with remoteNetworks := t.remoteNetworks.filter fun n => n.id ≠ networkID }.reply

/-- `POST /api/admin/remote-networks/{id}/connectors`. -/
def assignConnector (networkID connectorID : String) : Reply :=
  if networkID = "" then t.fail 400 "network id required"
  else if connectorID = "" then t.fail 400 "connector_id required"
  else if env.refused then t.fail 400 ("failed to assign connector: " ++ env.errorText)
  else
    let remoteNetworkConnectors := t.db.remoteNetworkConnectors.put ⟨networkID, connectorID⟩
    { t with db.remoteNetworkConnectors := remoteNetworkConnectors }.reply

/-- `DELETE /api/admin/remote-networks/{id}/connectors`. -/
def removeConnector (networkID connectorID : String) : Reply :=
  if networkID = "" then t.fail 400 "network id required"
  else if connectorID = "" then t.fail 400 "connector_id required"
  else if env.refused then t.fail 400 ("failed to remove connector: " ++ env.errorText)
  else
    let remoteNetworkConnectors :=
      t.db.remoteNetworkConnectors.filter fun r => r ≠ ⟨networkID, connectorID⟩
    { t with db.remoteNetworkConnectors := remoteNetworkConnectors }.reply

/-- `DELETE FROM remote_network_connectors WHERE connector_id = …`. -/
def deleteAssignments (db : Database) (connectorID : String) : Database :=
  { db with remoteNetworkConnectors :=
    db.remoteNetworkConnectors.filter fun r => r.connectorId ≠ connectorID }

/-- `DELETE /api/admin/connectors/{id}`. -/
def deleteConnector (id : String) : Reply :=
  if id = "" then t.fail 400 "connector id required"
  else
    let db := deleteAssignments t.db id
    { t with db := { db with connectors := db.connectors.filter fun c => c.id ≠ id } }.reply

/-- `POST /api/connectors`. -/
def uiCreateConnector (id name remoteNetworkID : String) : Reply :=
  if name = "" ∨ remoteNetworkID = "" then t.fail 400 "name and remoteNetworkId are required"
  else
    match env.exec (t.db.connectors.insert ⟨id, remoteNetworkID⟩) with
    | none => t.fail 400 "failed to create connector"
    | some connectors => { t with db.connectors := connectors }.reply

/-- `DELETE /api/connectors/{id}`: the row stays, as revoked. -/
def uiDeleteConnector (connectorID : String) : Reply :=
  if connectorID = "" then t.fail 400 "connector id required"
  else
    let db := deleteAssignments t.db connectorID
    { t with db := { db with connectorPolicyVersions :=
      db.connectorPolicyVersions.filter fun v => v.connectorId ≠ connectorID } }.reply

/-- `POST /api/connectors/{id}/revoke`. -/
def uiRevokeConnector (connectorID : String) : Reply :=
  if connectorID = "" then t.fail 400 "connector id required"
  else { t with db := deleteAssignments t.db connectorID }.reply

/-- `POST /api/connectors/{id}/grant`: `revoked` and `status` only. -/
def uiGrantConnector (connectorID : String) : Reply :=
  if connectorID = "" then t.fail 400 "connector id required"
  else t.reply

/-- `PATCH /api/connectors/{id}/heartbeat`: a connector that is behind is notified. -/
def uiHeartbeat (connectorID : String) (lastPolicyVersion : Int64) : Reply :=
  if connectorID = "" then t.fail 400 "connector id required"
  else
    let currentVersion :=
      ((t.db.connectorPolicyVersions.get connectorID).map PolicyVersionRow.version).getD 0
    if lastPolicyVersion < currentVersion then t.notifyAndReply else t.reply

end Networks

/-! ## All of them -/

inductive PolicyRequest where
  | createUser (id name email status : String)
  | updateUser (userID status : String)
  | deleteUser (userID : String)
  | uiCreateUser (id certID name email status : String)
  | uiDeleteUser (userID : String)
  | createGroup (id name description : String)
  | updateGroup (groupID name description : String)
  | deleteGroup (groupID : String)
  | addMember (groupID userID : String)
  | removeMember (groupID userID : String)
  | uiCreateGroup (id name description : String)
  | uiUpdateGroup (groupID name description : String)
  | uiDeleteGroup (groupID : String)
  | uiSetMembers (groupID : String) (memberIDs : Option (List String))
  | uiRemoveMember (groupID userID : String)
  | uiAddResources (groupID : String) (resourceIDs : Option (List (String × Int)))
  | upsertResource (id : String)
  | deleteResource (resourceID : String)
  | uiCreateResource (id : String) (req : ResourceRequest)
  | uiUpdateResource (resourceID : String) (req : ResourceRequest)
  | uiPatchResource (resourceID firewallStatus : String)
  | uiDeleteResource (resourceID : String)
  | uiCreateAccessRule (ruleID resourceID name : String) (groupIDs : Option (List String))
      (enabled : Bool)
  | uiDeleteAccessRule (ruleID : String)
  | createNetwork (id name location : String)
  | uiCreateNetwork (id name location : String)
  | uiDeleteNetwork (networkID : String)
  | assignConnector (networkID connectorID : String)
  | removeConnector (networkID connectorID : String)
  | deleteConnector (id : String)
  | uiCreateConnector (id name remoteNetworkID : String)
  | uiDeleteConnector (connectorID : String)
  | uiRevokeConnector (connectorID : String)
  | uiGrantConnector (connectorID : String)
  | uiHeartbeat (connectorID : String) (lastPolicyVersion : Int64)

def handle (C : Libraries) (env : Env) (t : Tables) : PolicyRequest → Reply
  | .createUser id name email status => createUser env t id name email status
  | .updateUser userID status => updateUser env t userID status
  | .deleteUser userID => deleteUser env t userID
  | .uiCreateUser id certID name email status =>
      uiCreateUser env t C.unicode id certID name email status
  | .uiDeleteUser userID => uiDeleteUser env t userID
  | .createGroup id name description => createGroup env t id name description
  | .updateGroup groupID name description => updateGroup env t groupID name description
  | .deleteGroup groupID => deleteGroup env t groupID
  | .addMember groupID userID => addMember env t groupID userID
  | .removeMember groupID userID => removeMember env t groupID userID
  | .uiCreateGroup id name description => uiCreateGroup env t id name description
  | .uiUpdateGroup groupID name description => uiUpdateGroup env t groupID name description
  | .uiDeleteGroup groupID => uiDeleteGroup env t groupID
  | .uiSetMembers groupID memberIDs => uiSetMembers env t groupID memberIDs
  | .uiRemoveMember groupID userID => uiRemoveMember t groupID userID
  | .uiAddResources groupID resourceIDs => uiAddResources env t groupID resourceIDs
  | .upsertResource id => upsertResource t id
  | .deleteResource resourceID => deleteResource t resourceID
  | .uiCreateResource id req => uiCreateResource env t C.collate id req
  | .uiUpdateResource resourceID req => uiUpdateResource env t C.collate resourceID req
  | .uiPatchResource resourceID firewallStatus => uiPatchResource env t resourceID firewallStatus
  | .uiDeleteResource resourceID => uiDeleteResource env t resourceID
  | .uiCreateAccessRule ruleID resourceID name groupIDs enabled =>
      uiCreateAccessRule env t ruleID resourceID name groupIDs enabled
  | .uiDeleteAccessRule ruleID => uiDeleteAccessRule t ruleID
  | .createNetwork id name location => createNetwork env t id name location
  | .uiCreateNetwork id name location => uiCreateNetwork env t id name location
  | .uiDeleteNetwork networkID => uiDeleteNetwork env t networkID
  | .assignConnector networkID connectorID => assignConnector env t networkID connectorID
  | .removeConnector networkID connectorID => removeConnector env t networkID connectorID
  | .deleteConnector id => deleteConnector t id
  | .uiCreateConnector id name remoteNetworkID => uiCreateConnector env t id name remoteNetworkID
  | .uiDeleteConnector connectorID => uiDeleteConnector t connectorID
  | .uiRevokeConnector connectorID => uiRevokeConnector t connectorID
  | .uiGrantConnector connectorID => uiGrantConnector t connectorID
  | .uiHeartbeat connectorID lastPolicyVersion => uiHeartbeat t connectorID lastPolicyVersion

end ZeroTrust.Admin.PolicyRequests
