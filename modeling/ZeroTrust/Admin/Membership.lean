/-
# `ZeroTrust.Admin.Membership` — who belongs to a workspace, and as what

The requests that write `workspace_members`, over the tables of `Admin.Workspaces` and
the invitations:

    POST   /api/workspaces                     the caller becomes the owner
    POST   /api/workspaces/{id}/members        admins and owners; any role
    PUT    /api/workspaces/{id}/members/{uid}  owners; any role
    DELETE /api/workspaces/{id}/members/{uid}  admins and owners; not oneself
    DELETE /api/workspaces/{id}                owners
    POST   /api/users, DELETE /api/users       the UI's users, in the context's workspace
    DELETE /api/admin/users/{id}               the administrators' users
    POST   /api/admin/users/invite             an invitation with a role
    the OAuth callback                         of a signup, or of an invitation

A request comes with the context that the middleware left: e-mail and user id out of the
token.  The foreign keys of `workspace_members` and `workspace_invites` hold (`Keyed`), as
PostgreSQL enforces them.

The store's methods come first, with what each does to the owners of a workspace
(`owner_…`); a handler is a sequence of guards and at most one or two of these methods.
-/
import ZeroTrust.Lib.Run
import ZeroTrust.Admin.Workspaces

namespace ZeroTrust.Admin.Membership

open Lib

/-! ## The store -/

/-- A row of `workspace_invites`.  `byOwner` is not a column: it remembers whether the
invitation was sent by somebody who owned the workspace then. -/
structure InviteRow where
  token : String
  workspaceId : String
  email : String
  role : String
  expiresAt : Int
  used : Bool
  byOwner : Bool
  deriving DecidableEq

structure State where
  dir : Directory
  invites : Table InviteRow.token

def init : State where
  dir := { accounts := ∅, workspaces := ∅, members := ∅ }
  invites := ∅

/-- `CreateUser` with its error. -/
def createUser (S : Server) (d : Directory) (a : Account) : Option Directory :=
  if d.accounts.rows.any fun b => S.sqlLower b.email = S.sqlLower a.email then none
  else (d.accounts.insert a).map fun accounts => { d with accounts }

/-- `AddMember`, with both foreign keys. -/
def addMember (d : Directory) (m : MemberRow) : Option Directory :=
  if d.workspaces.get m.workspaceId = none then none else d.addMember m

/-- `RemoveMember`. -/
def removeMember (d : Directory) (workspaceId userId : String) : Directory :=
  { d with members := d.members.filter fun m => m.key ≠ (workspaceId, userId) }

def setRole (key : String × String) (role : String) (m : MemberRow) : MemberRow :=
  if m.key = key then { m with role } else m

theorem setRole_key (key : String × String) (role : String) (m : MemberRow) :
    (setRole key role m).key = m.key := by
  unfold setRole
  split <;> rfl

/-- `UpdateMemberRole`; `none` is "member not found". -/
def updateMemberRole (d : Directory) (workspaceId userId role : String) : Option Directory :=
  if d.members.get (workspaceId, userId) = none then none
  else some { d with
    members := d.members.update (setRole (workspaceId, userId) role) (setRole_key _ _) }

/-- `DeleteUser` of the user store, one transaction. -/
def deleteUser (d : Directory) (userId : String) : Directory :=
  { d with
    members := d.members.filter fun m => m.userId ≠ userId
    accounts := d.accounts.filter fun a => a.id ≠ userId }

/-- `DELETE FROM users WHERE id = ?`; `none` is the foreign key's refusal. -/
def deleteUserRow (d : Directory) (userId : String) : Option Directory :=
  if d.members.rows.any fun m => m.userId = userId then none
  else some { d with accounts := d.accounts.filter fun a => a.id ≠ userId }

def setDeleted (id : String) (w : WorkspaceRow) : WorkspaceRow :=
  if w.id = id then { w with status := "deleted" } else w

theorem setDeleted_id (id : String) (w : WorkspaceRow) : (setDeleted id w).id = w.id := by
  unfold setDeleted
  split <;> rfl

/-- `DeleteWorkspace`. -/
def deleteWorkspace (d : Directory) (id : String) : Directory :=
  { d with workspaces := d.workspaces.update (setDeleted id) (setDeleted_id id) }

/-! ## The handlers -/

/-- A status code with its text, or what the reply says. -/
abbrev Reply := Except (Nat × String) String

section Handlers

variable (S : Server) (s : State)

/-- Who a workspace handler takes the caller for: the token's user, or the one with its
e-mail. -/
def callerId (d : Directory) (ctx : Context) : String :=
  if ctx.userId ≠ "" then ctx.userId else ((d.getUserByEmail ctx.email).map Account.id).getD ""

def roleLevel (role : String) : Nat :=
  if role = "member" then 1 else if role = "admin" then 2 else if role = "owner" then 3 else 0

def roleAtLeast (role minRole : String) : Bool := roleLevel role ≥ roleLevel minRole

def validRole (role : String) : Bool := role = "member" || role = "admin" || role = "owner"

/-- The caller's row among the members. -/
def caller (d : Directory) (ctx : Context) (wsId : String) : Option MemberRow :=
  d.members.get (wsId, callerId d ctx)

/-- `GetUserByEmail`, or a new row. -/
def findOrCreateUser (d : Directory) (email newUserId : String) : Option (Directory × String) :=
  match d.getUserByEmail email with
  | some u => some (d, u.id)
  | none => (createUser S d ⟨newUserId, email, "Active", "Member"⟩).map fun d => (d, newUserId)

def handleAddMember (ctx : Context) (wsId email role newUserId : String) : State × Reply :=
  match caller s.dir ctx wsId with
  | none => (s, .error (403, "insufficient permissions"))
  | some member =>
      if !roleAtLeast member.role "admin" then (s, .error (403, "insufficient permissions"))
      else
        let email := trim (S.unicode.stringsToLower email)
        let role := if role = "" then "member" else role
        if email = "" then (s, .error (400, "email is required"))
        else if !validRole role then (s, .error (400, "invalid role"))
        else
          match findOrCreateUser S s.dir email newUserId with
          | none => (s, .error (500, "failed to create user"))
          | some (dir, targetId) =>
              match addMember dir ⟨wsId, targetId, role⟩ with
              | none => ({ s with dir }, .error (500, "failed to add member"))
              | some dir => ({ s with dir }, .ok "added")

def handleUpdateMemberRole (ctx : Context) (wsId targetUID role : String) : State × Reply :=
  match caller s.dir ctx wsId with
  | none => (s, .error (403, "only owner can change roles"))
  | some member =>
      if member.role ≠ "owner" then (s, .error (403, "only owner can change roles"))
      else if !validRole role then (s, .error (400, "invalid role"))
      else
        match updateMemberRole s.dir wsId targetUID role with
        | none => (s, .error (500, "failed to update role: member not found"))
        | some dir => ({ s with dir }, .ok "updated")

def handleRemoveMember (ctx : Context) (wsId targetUID : String) : State × Reply :=
  match caller s.dir ctx wsId with
  | none => (s, .error (403, "insufficient permissions"))
  | some member =>
      if !roleAtLeast member.role "admin" then (s, .error (403, "insufficient permissions"))
      -- Cannot remove self if owner
      else if targetUID = callerId s.dir ctx then (s, .error (400, "cannot remove yourself"))
      else ({ s with dir := removeMember s.dir wsId targetUID }, .ok "removed")

def handleDeleteWorkspace (ctx : Context) (wsId : String) : State × Reply :=
  match caller s.dir ctx wsId with
  | none => (s, .error (403, "only owner can delete workspace"))
  | some member =>
      if member.role ≠ "owner" then (s, .error (403, "only owner can delete workspace"))
      else ({ s with dir := deleteWorkspace s.dir wsId }, .ok "deleted")

/-- `DELETE /api/admin/users/{id}`. -/
def handleDeleteUser (userID : String) : State × Reply :=
  if userID = "" then (s, .error (400, "user id required"))
  else ({ s with dir := deleteUser s.dir userID }, .ok "deleted")

/-- `POST /api/users`; the error of the second statement is not looked at. -/
def handleUIUsersPost (ctx : Context) (name email status id : String) : State × Reply :=
  if name = "" ∨ email = "" then (s, .error (400, "name and email are required"))
  else
    let status := if S.unicode.stringsToLower status = "inactive" then "inactive" else "active"
    match createUser S s.dir ⟨id, S.unicode.stringsToLower (trim email), status, "Member"⟩ with
    | none => (s, .error (400, "failed to create user"))
    | some dir =>
        let dir :=
          if ctx.wsId ≠ "" then (addMember dir ⟨ctx.wsId, id, "member"⟩).getD dir else dir
        ({ s with dir }, .ok id)

/-- `DELETE /api/users?id=…`, two statements. -/
def handleUIUsersDelete (ctx : Context) (userID : String) : State × Reply :=
  if userID = "" then (s, .error (400, "user id required"))
  else
    let dir := if ctx.wsId ≠ "" then removeMember s.dir ctx.wsId userID else s.dir
    match deleteUserRow dir userID with
    | none => ({ s with dir }, .error (500, "failed to delete user"))
    | some dir => ({ s with dir }, .ok "deleted")

/-- The caller owns the workspace. -/
def callerOwns (d : Directory) (ctx : Context) (wsId : String) : Bool :=
  (caller d ctx wsId).any fun m => m.role = "owner"

/-- `handleInviteUser`, behind `adminAuth` alone: neither the workspace nor the role is
looked at.  `tokenWsId` is the workspace of the request's context or token; `mailed` is
false if the mail cannot be sent, and the row stays. -/
def handleInviteUser (ctx : Context) (email wsId tokenWsId role token : String) (now : Int)
    (mailed : Bool) : State × Reply :=
  if email = "" then (s, .error (400, "email is required"))
  else
    let email := S.unicode.stringsToLower (trim email)
    -- Determine workspace ID: prefer explicit field, then JWT context.
    let wsId := if wsId = "" then tokenWsId else wsId
    if wsId = "" then (s, .error (400, "workspace_id is required"))
    else
      let role := if role = "" then "member" else role
      if s.dir.workspaces.get wsId = none then (s, .error (500, "failed to create invite token"))
      else
        let row : InviteRow :=
          { token, workspaceId := wsId, email, role, expiresAt := now + 48 * 3600,
            used := false, byOwner := callerOwns s.dir ctx wsId }
        match s.invites.insert row with
        | none => (s, .error (500, "failed to create invite token"))
        | some invites =>
            ({ s with invites },
              if mailed then .ok "invited" else .error (500, "failed to send invite email"))

def setUsed (token : String) (row : InviteRow) : InviteRow :=
  if row.token = token then { row with used := true } else row

theorem setUsed_token (token : String) (row : InviteRow) :
    (setUsed token row).token = row.token := by
  unfold setUsed
  split <;> rfl

/-- `handleProviderCallback` for an invitation, up to the session that follows; the account
at the provider is `emailAddr`.  Errors of the statements are only logged. -/
def redeemInvite (token emailAddr newUserId : String) (now : Int) : State × Reply :=
  let email := S.unicode.stringsToLower emailAddr
  match s.invites.get token with
  | none => (s, .error (400, "invite token not found"))
  | some row =>
      if row.used then (s, .error (400, "invite token already used"))
      else if now > row.expiresAt then (s, .error (400, "invite token expired"))
      else if S.unicode.stringsToLower row.email ≠ email then
        (s, .error (403, "account does not match the invited email"))
      else
        -- Create the user record.
        let dir := (createUser S s.dir ⟨newUserId, email, "Active", "Member"⟩).getD s.dir
        -- Retrieve the user ID (whether just created or existing).
        let userID := ((dir.getUserByEmail email).map Account.id).getD ""
        let invites := s.invites.update (setUsed token) (setUsed_token token)
        if userID ≠ "" ∧ row.workspaceId ≠ "" then
          let role := if row.role = "" then "member" else row.role
          ({ dir := (addMember dir ⟨row.workspaceId, userID, role⟩).getD dir, invites },
            .ok "redeemed")
        else ({ dir, invites }, .error (403, "workspace invite context required"))

/-- `handleProviderCallback` for a signup. -/
def signup (emailAddr newUserId : String) : State × Reply :=
  let email := S.unicode.stringsToLower emailAddr
  ({ s with dir := (createUser S s.dir ⟨newUserId, email, "Active", "Owner"⟩).getD s.dir },
    .ok "signed up")

end Handlers

/-! ## Runs -/

inductive Event where
  | createWorkspace (ctx : Context) (req : NewWorkspace) (now : Int)
  | addMember (ctx : Context) (wsId email role newUserId : String)
  | updateMemberRole (ctx : Context) (wsId targetUID role : String)
  | removeMember (ctx : Context) (wsId targetUID : String)
  | deleteWorkspace (ctx : Context) (wsId : String)
  | deleteUser (userID : String)
  | uiUsersPost (ctx : Context) (name email status id : String)
  | uiUsersDelete (ctx : Context) (userID : String)
  | inviteUser (ctx : Context) (email wsId tokenWsId role token : String) (now : Int)
      (mailed : Bool)
  | redeemInvite (token emailAddr newUserId : String) (now : Int)
  | signup (emailAddr newUserId : String)

def handle (S : Server) (s : State) : Event → State
  | .createWorkspace ctx req now => { s with dir := (handleCreateWorkspace S s.dir ctx req now).1 }
  | .addMember ctx wsId email role newUserId => (handleAddMember S s ctx wsId email role newUserId).1
  | .updateMemberRole ctx wsId targetUID role => (handleUpdateMemberRole s ctx wsId targetUID role).1
  | .removeMember ctx wsId targetUID => (handleRemoveMember s ctx wsId targetUID).1
  | .deleteWorkspace ctx wsId => (handleDeleteWorkspace s ctx wsId).1
  | .deleteUser userID => (handleDeleteUser s userID).1
  | .uiUsersPost ctx name email status id => (handleUIUsersPost S s ctx name email status id).1
  | .uiUsersDelete ctx userID => (handleUIUsersDelete s ctx userID).1
  | .inviteUser ctx email wsId tokenWsId role token now mailed =>
      (handleInviteUser S s ctx email wsId tokenWsId role token now mailed).1
  | .redeemInvite token emailAddr newUserId now => (redeemInvite S s token emailAddr newUserId now).1
  | .signup emailAddr newUserId => (signup S s emailAddr newUserId).1

/-- No request is refused for good: each leads to a state. -/
def step (S : Server) (s : State) (e : Event) : Option State := some (handle S s e)

end ZeroTrust.Admin.Membership
