/-
# `ZeroTrust.Admin.Workspaces` — the workspace handlers that return a token

`handleCreateWorkspace` and `handleSelectWorkspace` of `admin/workspace_handlers.go`, over
the tables they read and write.  Both stand behind `workspaceAuth` and answer with a
workspace token (`signWorkspaceJWT`) for the e-mail in the request's context.  Whatever else
they do, that token is all a caller gets:

    `selectWorkspace_ok`, `createWorkspace_ok`   the token is a workspace token for the
                                                 context's e-mail, signed now
-/
import ZeroTrust.Admin.Auth

namespace ZeroTrust.Admin

open Lib

structure WorkspaceRow where
  id : String
  name : String
  slug : String
  status : String
  deriving DecidableEq

structure MemberRow where
  workspaceId : String
  userId : String
  role : String
  deriving DecidableEq

def MemberRow.key (m : MemberRow) : String × String := (m.workspaceId, m.userId)

/-- The tables the handlers use. -/
structure Directory where
  accounts : Accounts
  workspaces : Table WorkspaceRow.id
  members : Table MemberRow.key

def Directory.getUserByEmail (d : Directory) (email : String) : Option Account :=
  d.accounts.rows.find? fun a => a.email = email

def Directory.getWorkspaceBySlug (d : Directory) (slug : String) : Option WorkspaceRow :=
  d.workspaces.rows.find? fun w => w.slug = slug

def slugChar (c : Char) : Bool := ('a' ≤ c && c ≤ 'z') || ('0' ≤ c && c ≤ '9')

/-- `slugRegexp`: `^[a-z0-9][a-z0-9-]{1,61}[a-z0-9]$`. -/
def slugMatches (slug : String) : Bool :=
  let cs := slug.toList
  3 ≤ cs.length && cs.length ≤ 63 && cs.all (fun c => slugChar c || c = '-') &&
    cs.head?.any slugChar && cs.getLast?.any slugChar

def reservedSlugs : List String := ["www", "api", "admin", "app", "mail", "ftp", "localhost"]

/-- The empty string if the slug is fine. -/
def validateSlug (slug : String) : String :=
  if slug.utf8ByteSize < 3 ∨ slug.utf8ByteSize > 63 then "slug must be 3-63 characters"
  else if !slugMatches slug then
    "slug must be lowercase alphanumeric with hyphens, cannot start or end with hyphen"
  else if reservedSlugs.contains slug then "slug is reserved"
  else ""

section

variable (S : Server)

/-- `CreateUser`: the index on `LOWER(email)` refuses a second spelling. -/
def Directory.createUser (d : Directory) (a : Account) : Directory :=
  if d.accounts.rows.any fun b => S.sqlLower b.email = S.sqlLower a.email then d
  else { d with accounts := (d.accounts.insert a).getD d.accounts }

/-- `AddMember`; `none` is the error of a user id that is in no row of `users`. -/
def Directory.addMember (d : Directory) (m : MemberRow) : Option Directory :=
  if d.accounts.get m.userId = none then none
  else some { d with members := (d.members.insert m).getD d.members }

/-- What `handleCreateWorkspace` takes from outside: the request's body, the two ids it makes
up, and whether the sub-CA can be issued. -/
structure NewWorkspace where
  name : String
  slug : String
  wsId : String
  newUserId : String
  caIssued : Bool

/-- The user who becomes the owner, created if no row has the e-mail. -/
def workspaceOwner (d : Directory) (ctx : Context) (newUserId : String) : Directory × String :=
  if ctx.userId ≠ "" then (d, ctx.userId)
  else
    match d.getUserByEmail ctx.email with
    | some u => (d, u.id)
    | none => (d.createUser S ⟨newUserId, ctx.email, "Active", "Admin"⟩, newUserId)

def handleCreateWorkspace (d : Directory) (ctx : Context) (req : NewWorkspace) (now : Int) :
    Directory × Except String Token :=
  let slug := S.unicode.stringsToLower (trim req.slug)
  let name := trim req.name
  if name = "" then (d, .error "name is required")
  else if validateSlug slug ≠ "" then (d, .error (validateSlug slug))
  else if (d.getWorkspaceBySlug slug).isSome then (d, .error "slug already taken")
  else if !req.caIssued then (d, .error "failed to issue workspace CA")
  else
    match d.workspaces.insert ⟨req.wsId, name, slug, "active"⟩ with
    | none => (d, .error "failed to create workspace")
    | some workspaces =>
        let (d, userId) := workspaceOwner S { d with workspaces } ctx req.newUserId
        match d.addMember ⟨req.wsId, userId, "owner"⟩ with
        | none => (d, .error "failed to add owner")
        | some d => (d, signWorkspaceJWT S ctx.email userId req.wsId slug "owner" now)

def handleSelectWorkspace (d : Directory) (ctx : Context) (wsId : String) (now : Int) :
    Except String Token :=
  let userId :=
    if ctx.userId ≠ "" then ctx.userId
    else ((d.getUserByEmail ctx.email).map Account.id).getD ""
  match d.workspaces.get wsId with
  | none => .error "workspace not found"
  | some ws =>
      if ws.status ≠ "active" then .error "workspace is not active"
      else
        match d.members.get (wsId, userId) with
        | none => .error "not a member of this workspace"
        | some member => signWorkspaceJWT S ctx.email userId ws.id ws.slug member.role now

end

/-! ## The token they return -/

/-- A workspace token of somebody, signed at a time. -/
structure IsWorkspaceToken (S : Server) (email : String) (now : Int) (t : Token) : Prop where
  key : t.key = S.jwtSecret
  secret : S.jwtSecret ≠ []
  sub : t.claims.sub = email
  exp : t.claims.exp = now + 24 * 3600
  aud : t.claims.aud = none
  jti : t.claims.jti = none

variable {S : Server}

theorem signedString_ok {claims : Claims} {t : Token} (h : signedString S claims = .ok t) :
    S.jwtSecret ≠ [] ∧ t = ⟨S.jwtSecret, claims⟩ := by
  unfold signedString at h
  split at h
  · cases h
  next hsecret => exact ⟨hsecret, (Except.ok.inj h).symm⟩

theorem isWorkspaceToken_of_sign {email userId wsId wsSlug wsRole : String} {now : Int}
    {t : Token} (h : signWorkspaceJWT S email userId wsId wsSlug wsRole now = .ok t) :
    IsWorkspaceToken S email now t := by
  obtain ⟨hsecret, rfl⟩ := signedString_ok h
  exact ⟨rfl, hsecret, rfl, rfl, rfl, rfl⟩

theorem selectWorkspace_ok {d : Directory} {ctx : Context} {wsId : String} {now : Int} {t : Token}
    (h : handleSelectWorkspace S d ctx wsId now = .ok t) :
    IsWorkspaceToken S ctx.email now t := by
  simp only [handleSelectWorkspace] at h
  split at h
  · cases h
  · split at h
    · cases h
    · split at h
      · cases h
      · exact isWorkspaceToken_of_sign h

theorem createWorkspace_ok {d : Directory} {ctx : Context} {req : NewWorkspace} {now : Int}
    {t : Token} (h : (handleCreateWorkspace S d ctx req now).2 = .ok t) :
    IsWorkspaceToken S ctx.email now t := by
  obtain ⟨d', h⟩ : ∃ d', handleCreateWorkspace S d ctx req now = (d', .ok t) :=
    ⟨_, Prod.ext_iff.mpr ⟨rfl, h⟩⟩
  simp only [handleCreateWorkspace] at h
  split at h
  · cases h
  split at h
  · cases h
  split at h
  · cases h
  split at h
  · cases h
  split at h
  · cases h
  split at h
  · cases h
  · obtain ⟨-, hsign⟩ := Prod.mk.inj h
    exact isWorkspaceToken_of_sign hsign

/-- Such a token is live for a day. -/
theorem live_workspaceToken {email : String} {issued now : Int} {t : Token}
    (h : IsWorkspaceToken S email issued t) :
    Live S now t ↔ now < issued + 24 * 3600 ∧ email ≠ "" :=
  live_iff h.secret h.key h.exp h.sub

/-- The e-mail in the context of a request that was let through is not empty. -/
theorem workspaceAuth_email {now : Int} {r : Request} {ctx : Context}
    (h : workspaceAuth S now r = .ok ctx) : ctx.email ≠ "" := by
  unfold workspaceAuth at h
  split at h
  · cases h
  split at h
  · cases h
  next claims hclaims =>
    cases h
    unfold workspaceClaimsFromJWT at hclaims
    split at hclaims
    · cases hclaims
    split at hclaims
    · cases hclaims
    split at hclaims
    · cases hclaims
    next hsub =>
      cases hclaims
      exact hsub

/-! ### A small workspace -/

def exampleServer : Server where
  adminAuthToken := "c3ab8ff13720e8ad"
  jwtSecret := [115, 51, 99, 114, 51, 116]
  adminLoginEmails := []
  unicode := .ascii
  sqlLower s := String.ofList (s.toList.map Char.toLower)

/-- Alice owns the workspace and Bob is a member of it. -/
def exampleDirectory : Directory where
  accounts := ⟨[⟨"usr_1", "alice@acme.io", "Active", "Owner"⟩,
    ⟨"usr_2", "bob@acme.io", "Active", "Member"⟩], by simp⟩
  workspaces := ⟨[⟨"ws_1", "Acme", "acme", "active"⟩], List.nodup_singleton _⟩
  members := ⟨[⟨"ws_1", "usr_1", "owner"⟩, ⟨"ws_1", "usr_2", "member"⟩],
    by simp [MemberRow.key]⟩

end ZeroTrust.Admin
