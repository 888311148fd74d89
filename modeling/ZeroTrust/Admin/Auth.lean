/-
# `ZeroTrust.Admin.Auth` — session tokens and the middlewares that accept them

Four functions of `admin/session_helpers.go` sign tokens

    signSessionJWT      sub                              24 h
    signWorkspaceJWT    sub uid wid wslug wrole          24 h
    signAdminJWT        sub uid wid wslug wrole aud jti  24 h
    signDeviceJWT       sub uid wid wslug aud did jti    15 min

and four middlewares of `admin/server.go` and `admin/ui_routes.go` read them

    adminAuth               not a device's, session not revoked, an admin's e-mail
    deviceAuth              a device's, session not revoked
    workspaceAuth           any token
    withWorkspaceContext    any token, and requests without one

A token is kept as its key and its claims: HMAC signatures are unforgeable, so a token is
good exactly under the key it was signed with.  Times are Unix seconds.
-/
import ZeroTrust.Text
import ZeroTrust.Controller.SessionStore

namespace ZeroTrust.Admin

open Lib
open Controller (SessionStore)

/-! ## Tokens -/

/-- The claims that are signed or read. -/
structure Claims where
  sub : String
  uid : Option String := none
  wid : Option String := none
  wslug : Option String := none
  wrole : Option String := none
  aud : Option String := none
  did : Option String := none
  jti : Option String := none
  exp : Int
  iat : Int
  deriving DecidableEq

structure Token where
  key : List UInt8
  claims : Claims
  deriving DecidableEq

/-- What a cookie or a bearer header holds. -/
inductive Credential where
  | text (s : String)
  | jwt (t : Token)

/-- What the handlers use of the server's configuration. -/
structure Server where
  adminAuthToken : String
  jwtSecret : List UInt8
  /-- The keys of the map. -/
  adminLoginEmails : List String
  unicode : UnicodeData
  /-- SQL `LOWER`. -/
  sqlLower : String → String

section

variable (S : Server)

def signedString (claims : Claims) : Except String Token :=
  if S.jwtSecret = [] then .error "JWT_SECRET not configured" else .ok ⟨S.jwtSecret, claims⟩

def signSessionJWT (email : String) (now : Int) : Except String Token :=
  signedString S { sub := email, exp := now + 24 * 3600, iat := now }

def signWorkspaceJWT (email userId wsId wsSlug wsRole : String) (now : Int) :
    Except String Token :=
  signedString S
    { sub := email, uid := userId, wid := wsId, wslug := wsSlug, wrole := wsRole,
      exp := now + 24 * 3600, iat := now }

def signAdminJWT (email userId wsId wsSlug wsRole sessionId : String) (now : Int) :
    Except String Token :=
  signedString S
    { sub := email, uid := userId, wid := wsId, wslug := wsSlug, wrole := wsRole,
      aud := "admin", jti := sessionId, exp := now + 24 * 3600, iat := now }

def signDeviceJWT (email userId wsId wsSlug deviceId sessionId : String) (now : Int) :
    Except String Token :=
  signedString S
    { sub := email, uid := userId, wid := wsId, wslug := wsSlug, aud := "device",
      did := deviceId, jti := sessionId, exp := now + 15 * 60, iat := now }

/-- `jwt.Parse` with the server's key. -/
def parse (now : Int) : Credential → Option Claims
  | .text _ => none
  | .jwt t => if t.key = S.jwtSecret ∧ now < t.claims.exp then some t.claims else none

structure AllClaims where
  email : String
  userId : String
  wsId : String
  wsSlug : String
  wsRole : String
  aud : String
  jti : String
  deviceId : String

/-- A claim that is missing reads as the empty string. -/
def Claims.all (c : Claims) : AllClaims where
  email := c.sub
  userId := c.uid.getD ""
  wsId := c.wid.getD ""
  wsSlug := c.wslug.getD ""
  wsRole := c.wrole.getD ""
  aud := c.aud.getD ""
  jti := c.jti.getD ""
  deviceId := c.did.getD ""

def parseAllClaims (now : Int) (c : Credential) : Except String AllClaims :=
  if S.jwtSecret = [] then .error "no token"
  else
    match parse S now c with
    | none => .error "invalid token"
    | some claims => if claims.sub = "" then .error "missing subject" else .ok claims.all

/-- The claims about the user and the workspace. -/
structure WorkspaceClaims where
  email : String
  userId : String
  wsId : String
  wsSlug : String
  wsRole : String

def AllClaims.workspace (c : AllClaims) : WorkspaceClaims :=
  ⟨c.email, c.userId, c.wsId, c.wsSlug, c.wsRole⟩

def workspaceClaimsFromJWT (now : Int) (c : Credential) : Except String WorkspaceClaims :=
  if S.jwtSecret = [] then .error "JWT_SECRET not configured"
  else
    match parse S now c with
    | none => .error "invalid token"
    | some claims => if claims.sub = "" then .error "missing subject" else .ok claims.all.workspace

/-! ## Middlewares -/

structure Request where
  cookie : Option Credential
  /-- What follows `Bearer ` in the `Authorization` header. -/
  bearer : Option Credential

/-- The cookie is preferred, whatever it holds. -/
def Request.getTokenFromRequest (r : Request) : Credential :=
  (r.cookie.or r.bearer).getD (.text "")

/-- A row of `users`, as far as it is read here. -/
structure Account where
  id : String
  email : String
  status : String
  role : String
  deriving DecidableEq

abbrev Accounts := Table Account.id

def isAdminEmail (accounts : Accounts) (email : String) : Bool :=
  let email := S.unicode.stringsToLower (trim email)
  if email = "" then false
  else if S.adminLoginEmails ≠ [] then S.adminLoginEmails.contains email
  else
    match accounts.rows.find? fun a => S.sqlLower a.email = email with
    | none => false
    | some a =>
        let status := S.unicode.stringsToLower (trim a.status)
        let role := S.unicode.stringsToLower (trim a.role)
        status = "active" && (role = "admin" || role = "owner")

/-- What a middleware puts in the request's context. -/
structure Context where
  email : String := ""
  userId : String := ""
  wsId : String := ""
  wsSlug : String := ""
  wsRole : String := ""
  deviceId : String := ""

def WorkspaceClaims.context (c : WorkspaceClaims) : Context where
  email := c.email
  userId := c.userId
  wsId := c.wsId
  wsSlug := c.wsSlug
  wsRole := c.wsRole

/-- The check on the `jti`: a session that is not found counts as valid. -/
def sessionRevoked (sessions : SessionStore) (jti : String) (now : Int) : Bool :=
  jti ≠ "" && sessions.isValid jti now = some false

def adminAuth (accounts : Accounts) (sessions : SessionStore) (now : Int) (r : Request) :
    Except String Context :=
  if S.adminAuthToken = "" then .error "admin auth not configured"
  else
    match r.bearer with
    | some (.text t) =>
        -- Accept Bearer ADMIN_AUTH_TOKEN (BFF compat).
        if t = S.adminAuthToken then .ok {} else jwtSession
    | _ => jwtSession
where
  jwtSession : Except String Context :=
    match parseAllClaims S now r.getTokenFromRequest with
    | .error _ => .error "unauthorized"
    | .ok claims =>
        if claims.aud = "device" then .error "device tokens cannot access admin endpoints"
        else if sessionRevoked sessions claims.jti now then .error "session revoked or expired"
        else if !isAdminEmail S accounts claims.email then .error "forbidden"
        else if claims.userId ≠ "" then .ok claims.workspace.context
        else .ok { email := claims.email }

def deviceAuth (sessions : SessionStore) (now : Int) (r : Request) : Except String Context :=
  if S.jwtSecret = [] then .error "JWT not configured"
  else
    match parseAllClaims S now r.getTokenFromRequest with
    | .error _ => .error "unauthorized: device token required"
    | .ok claims =>
        if claims.aud ≠ "device" then .error "unauthorized: device token required"
        else if sessionRevoked sessions claims.jti now then .error "session revoked or expired"
        else .ok { claims.workspace.context with wsRole := "member", deviceId := claims.deviceId }

def workspaceAuth (now : Int) (r : Request) : Except String Context :=
  if S.jwtSecret = [] then .error "JWT not configured"
  else
    match workspaceClaimsFromJWT S now r.getTokenFromRequest with
    | .error _ => .error "unauthorized"
    | .ok claims => .ok claims.context

/-- `none`: the request goes on without claims. -/
def withWorkspaceContext (now : Int) (r : Request) : Option Context :=
  match workspaceClaimsFromJWT S now r.getTokenFromRequest with
  | .error _ => none
  | .ok claims => some claims.context

end

/-! ## Who accepts a token -/

/-- A request that presents the token, and not the administrator's own. -/
structure Presents (S : Server) (t : Token) (r : Request) : Prop where
  token : r.getTokenFromRequest = .jwt t
  notAdminToken : r.bearer ≠ some (.text S.adminAuthToken)

theorem presents_bearer (S : Server) (t : Token) : Presents S t ⟨none, some (.jwt t)⟩ :=
  ⟨rfl, nofun⟩

section

variable {S : Server} {t : Token} {now : Int}

/-- The token is the server's, has not expired and names somebody. -/
def Live (S : Server) (now : Int) (t : Token) : Prop :=
  S.jwtSecret ≠ [] ∧ t.key = S.jwtSecret ∧ now < t.claims.exp ∧ t.claims.sub ≠ ""

instance (S : Server) (now : Int) (t : Token) : Decidable (Live S now t) :=
  inferInstanceAs (Decidable (_ ∧ _ ∧ _ ∧ _))

theorem live_iff {expiry : Int} {email : String} (hsecret : S.jwtSecret ≠ [])
    (hkey : t.key = S.jwtSecret) (hexp : t.claims.exp = expiry) (hsub : t.claims.sub = email) :
    Live S now t ↔ now < expiry ∧ email ≠ "" := by
  unfold Live
  rw [hexp, hsub]
  constructor
  · rintro ⟨-, -, hnow, hemail⟩
    exact ⟨hnow, hemail⟩
  · rintro ⟨hnow, hemail⟩
    exact ⟨hsecret, hkey, hnow, hemail⟩

theorem parseAllClaims_of_live (h : Live S now t) :
    parseAllClaims S now (.jwt t) = .ok t.claims.all := by
  obtain ⟨hsecret, hkey, hexp, hsub⟩ := h
  simp [parseAllClaims, parse, hsecret, hkey, hexp, hsub]

theorem parseAllClaims_of_not_live (h : ¬ Live S now t) :
    ∃ text, parseAllClaims S now (.jwt t) = .error text := by
  unfold parseAllClaims parse
  split
  · exact ⟨_, rfl⟩
  next hsecret =>
    split
    · exact ⟨_, rfl⟩
    next claims hclaims =>
      split
      · exact ⟨_, rfl⟩
      next hsub =>
        simp only at hclaims
        split at hclaims
        next hgood =>
          cases hclaims
          exact absurd ⟨hsecret, hgood.1, hgood.2, hsub⟩ h
        · cases hclaims

theorem workspaceClaimsFromJWT_eq_ok {c : Credential} {claims : WorkspaceClaims} :
    workspaceClaimsFromJWT S now c = .ok claims ↔
      ∃ all, parseAllClaims S now c = .ok all ∧ claims = all.workspace := by
  unfold workspaceClaimsFromJWT parseAllClaims
  split
  · simp
  · split
    · simp
    · split
      · simp
      · simp [eq_comm]

/-- `workspaceAuth` accepts every live token. -/
theorem workspaceAuth_isOk {r : Request} (hr : Presents S t r) :
    (∃ ctx, workspaceAuth S now r = .ok ctx) ↔ Live S now t := by
  rw [workspaceAuth, hr.token]
  constructor
  · rintro ⟨ctx, h⟩
    by_contra hlive
    obtain ⟨text, herror⟩ := parseAllClaims_of_not_live hlive
    split at h
    · cases h
    · split at h
      · cases h
      next claims hclaims =>
        obtain ⟨all, hall, -⟩ := workspaceClaimsFromJWT_eq_ok.mp hclaims
        rw [herror] at hall
        cases hall
  · intro hlive
    have hclaims : workspaceClaimsFromJWT S now (.jwt t) = .ok t.claims.all.workspace :=
      workspaceClaimsFromJWT_eq_ok.mpr ⟨_, parseAllClaims_of_live hlive, rfl⟩
    rw [if_neg hlive.1, hclaims]
    exact ⟨_, rfl⟩

/-- Nobody accepts a token that is not live. -/
theorem withWorkspaceContext_of_not_live (h : ¬ Live S now t) {r : Request} (hr : Presents S t r) :
    withWorkspaceContext S now r = none := by
  obtain ⟨text, herror⟩ := parseAllClaims_of_not_live h
  rw [withWorkspaceContext, hr.token]
  split
  · rfl
  next claims hclaims =>
    obtain ⟨all, hall, -⟩ := workspaceClaimsFromJWT_eq_ok.mp hclaims
    rw [herror] at hall
    cases hall

theorem deviceAuth_of_not_live (h : ¬ Live S now t) {r : Request} (hr : Presents S t r)
    (sessions : SessionStore) (ctx : Context) : deviceAuth S sessions now r ≠ .ok ctx := by
  obtain ⟨text, herror⟩ := parseAllClaims_of_not_live h
  rw [deviceAuth, hr.token, herror]
  split <;> exact nofun

/-- What `adminAuth` requires of a token. -/
theorem adminAuth_isOk {r : Request} (hr : Presents S t r) (accounts : Accounts)
    (sessions : SessionStore) :
    (∃ ctx, adminAuth S accounts sessions now r = .ok ctx) ↔
      S.adminAuthToken ≠ "" ∧ Live S now t ∧ t.claims.all.aud ≠ "device" ∧
        sessionRevoked sessions t.claims.all.jti now = false ∧
        isAdminEmail S accounts t.claims.sub = true := by
  have hsession : ∀ x, adminAuth S accounts sessions now r = x ↔
      (if S.adminAuthToken = "" then .error "admin auth not configured"
        else adminAuth.jwtSession S accounts sessions now r) = x := by
    intro x
    rw [adminAuth]
    split
    · exact Iff.rfl
    · split
      next s hs =>
        have hne : s ≠ S.adminAuthToken := by
          rintro rfl
          exact hr.notAdminToken hs
        rw [if_neg hne]
      · exact Iff.rfl
  simp only [hsession, adminAuth.jwtSession, hr.token]
  by_cases htoken : S.adminAuthToken = ""
  · simp [htoken]
  by_cases hlive : Live S now t
  · rw [parseAllClaims_of_live hlive]
    by_cases haud : t.claims.all.aud = "device"
    · simp [htoken, haud]
    · cases hrevoked : sessionRevoked sessions t.claims.all.jti now with
      | true => simp [htoken, haud, hrevoked]
      | false =>
          cases hadmin : isAdminEmail S accounts t.claims.sub with
          | false =>
              have hemail : t.claims.all.email = t.claims.sub := rfl
              simp [htoken, haud, hrevoked, hadmin, hemail]
          | true =>
              have hemail : t.claims.all.email = t.claims.sub := rfl
              simp only [htoken, haud, hrevoked, hadmin, hemail, hlive, if_neg, Bool.not_true,
                Bool.false_eq_true, ne_eq, not_false_eq_true, and_self, iff_true]
              split
              · exact ⟨_, rfl⟩
              · exact ⟨_, rfl⟩
  · obtain ⟨text, herror⟩ := parseAllClaims_of_not_live hlive
    simp [htoken, herror, hlive]

end

end ZeroTrust.Admin
