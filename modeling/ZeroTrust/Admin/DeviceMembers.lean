/-
# `ZeroTrust.Admin.DeviceMembers` — who gets a device token

Whether somebody is an active member of a workspace is in three tables, each written by
requests of its own:

    workspaces           status     DeleteWorkspace
    users                status     UpdateUser; DeleteUser takes the row
    workspace_members    the row    AddMember, RemoveMember, DeleteUser

The two requests that answer with a device token go through

    handleDeviceToken    the code and the verifier; the user with the code's e-mail address,
                         who is made if there is none; a new session; the signature
    handleDeviceRefresh  the session of the refresh token, neither revoked nor expired; the
                         e-mail address and the slug; a new refresh token; the signature

with a statement of the database at each semicolon and any other request in between, and
ask none of the three tables about membership or a status: `handleSelectWorkspace`, which
signs the other tokens of a workspace, asks for both.  So

    `toMembers_iff`            tokens go to active members only, if every login is that of an
                               active member, and nobody stops being one while a session of
                               theirs can be refreshed or a request of theirs is under way;
                               and only if the user is one whenever a signature is made
    `covered_step`             the invariant: whoever has such a session or request is one
-/
import ZeroTrust.Admin.DeviceFlow
import ZeroTrust.Admin.Ownership
import ZeroTrust.Admin.SessionRevocation

namespace ZeroTrust.Admin.DeviceMembers

open Lib
open Controller (Session SessionStore)
open DeviceFlow (DeviceServer DeviceCodeEntry)
open Admin.Membership (IsActive)
open SessionRevocation (Client newSession bearing)

/-! ## The directory -/

/-- A statement of the stores, from whichever handler. -/
inductive Write where
  | createUser (a : Account)
  | updateUser (a : Account)
  | deleteUser (userId : String)
  /-- `DELETE FROM users` alone, of the UI. -/
  | deleteUserRow (userId : String)
  | createWorkspace (id name slug : String)
  | deleteWorkspace (id : String)
  | addMember (m : MemberRow)
  | updateMemberRole (workspaceId userId role : String)
  | removeMember (workspaceId userId : String)

def setAccount (a b : Account) : Account := if b.id = a.id then a else b

theorem setAccount_id (a b : Account) : (setAccount a b).id = b.id := by
  unfold setAccount
  split
  next h => exact h.symm
  next => rfl

/-- `UpdateUser`: every column, as the handler read it and changed it. -/
def updateUser (S : Server) (d : Directory) (a : Account) : Directory :=
  if d.accounts.rows.any fun b => b.id ≠ a.id && S.sqlLower b.email = S.sqlLower a.email then d
  else { d with accounts := d.accounts.update (setAccount a) (setAccount_id a) }

def createWorkspace (d : Directory) (id name slug : String) : Directory :=
  if d.workspaces.rows.any fun w => w.slug = slug then d
  else { d with workspaces := (d.workspaces.insert ⟨id, name, slug, "active"⟩).getD d.workspaces }

/-- A statement that fails changes nothing. -/
def Write.apply (S : Server) (d : Directory) : Write → Directory
  | .createUser a => (Membership.createUser S d a).getD d
  | .updateUser a => DeviceMembers.updateUser S d a
  | .deleteUser userId => Membership.deleteUser d userId
  | .deleteUserRow userId => (Membership.deleteUserRow d userId).getD d
  | .createWorkspace id name slug => DeviceMembers.createWorkspace d id name slug
  | .deleteWorkspace id => Membership.deleteWorkspace d id
  | .addMember m => (Membership.addMember d m).getD d
  | .updateMemberRole workspaceId userId role =>
      (Membership.updateMemberRole d workspaceId userId role).getD d
  | .removeMember workspaceId userId => Membership.removeMember d workspaceId userId

/-! ## Requests for a token -/

/-- Where a request stands. -/
inductive Phase where
  /-- `handleDeviceToken`, with a good code and the verifier that fits. -/
  | verified (entry : DeviceCodeEntry)
  | found (entry : DeviceCodeEntry) (userId : String)
  | stored (entry : DeviceCodeEntry) (userId sessionId : String)
  /-- `handleDeviceRefresh`, with a session that may be refreshed. -/
  | checked (sess : Session)
  | named (sess : Session) (email wsSlug : String)
  | rotated (sess : Session) (email wsSlug : String)
  | answered

/-- What a token says. -/
structure Holder where
  email : String
  userId : String
  wsId : String
  wsSlug : String
  deviceId : String
  sessionId : String

/-- The token that is signed next. -/
def Phase.holder : Phase → Option Holder
  | .stored entry userId sessionId =>
      some ⟨entry.email, userId, entry.wsId, entry.wsSlug, "", sessionId⟩
  | .rotated sess email wsSlug =>
      some ⟨email, sess.userId, sess.workspaceId, wsSlug, sess.deviceId, sess.id⟩
  | _ => none

def Holder.sign (S : Server) (h : Holder) (now : Int) : Except String Token :=
  signDeviceJWT S h.email h.userId h.wsId h.wsSlug h.deviceId h.sessionId now

/-- A token that was returned, and what there was at that moment. -/
structure Issue where
  token : Token
  dir : Directory
  sessions : SessionStore
  now : Int

structure State where
  /-- The requests up to the code; the workspaces are here. -/
  flow : DeviceFlow.State
  accounts : Accounts
  members : Table MemberRow.key
  sessions : SessionStore
  calls : List Phase
  issues : List Issue

def State.init (now : SystemTime) (d : Directory) : State where
  flow := .init now d.workspaces
  accounts := d.accounts
  members := d.members
  sessions := ∅
  calls := []
  issues := []

def State.dir (s : State) : Directory := ⟨s.accounts, s.flow.workspaces, s.members⟩

def State.setDir (s : State) (d : Directory) : State :=
  { s with
    flow := { s.flow with workspaces := d.workspaces }
    accounts := d.accounts
    members := d.members }

def State.unix (s : State) : Int := s.flow.now / nanosPerSec

def State.setCall (s : State) (n : Nat) (phase : Phase) : State :=
  { s with calls := s.calls.set n phase }

def State.issue (s : State) : Except String Token → State
  | .error _ => s
  | .ok t => { s with issues := s.issues ++ [⟨t, s.dir, s.sessions, s.unix⟩] }

/-- Which of the three statements about the user the database answers. -/
structure Answers where
  lookup : Bool
  create : Bool
  again : Bool

/-- `Create/look up user`. -/
def findUser (S : Server) (d : Directory) (email newUserId : String) (db : Answers) :
    Directory × String :=
  match if db.lookup then d.getUserByEmail email else none with
  | some u => (d, u.id)
  | none =>
      let d :=
        if db.create then
          (Membership.createUser S d ⟨newUserId, email, "Active", "Member"⟩).getD d
        else d
      (d, if db.again then ((d.getUserByEmail email).map Account.id).getD "" else "")

/-- `Look up user email`; errors are dropped. -/
def nameUser (d : Directory) (sess : Session) (emailRead slugRead : Bool) : String × String :=
  if sess.userId = "" then ("", "")
  else
    (if emailRead then ((d.accounts.get sess.userId).map Account.email).getD "" else "",
      if slugRead then ((d.workspaces.get sess.workspaceId).map WorkspaceRow.slug).getD "" else "")

inductive Event where
  /-- Of `DeviceFlow`, up to the code. -/
  | login (e : DeviceFlow.Event)
  | token (code codeVerifier : String)
  | findUser (n : Nat) (newUserId : String) (db : Answers)
  /-- `executed` is false if the database refuses the row, which is only logged. -/
  | storeSession (n : Nat) (sessionId refreshTokenHash : String) (client : Client)
      (executed : Bool)
  | refresh (tokenHash : String)
  | nameUser (n : Nat) (emailRead slugRead : Bool)
  | rotate (n : Nat) (newHash : String)
  | sign (n : Nat)
  /-- The request ends with an error. -/
  | fail (n : Nat)
  | revoke (id : String)
  | revokeAllForUser (userId : String)
  | cleanExpired
  | write (w : Write)

def beforeToken : DeviceFlow.Event → Bool
  | .token .. | .mint .. | .workspaces .. => false
  | _ => true

/-- The exchange goes on below. -/
def verifiedCall (x : DeviceFlow.Exchange) : Option Phase :=
  match x.phase with
  | .verified => some (.verified x.entry)
  | _ => none

def step (S : DeviceServer) (s : State) : Event → Option State
  | .login e =>
      if beforeToken e then (DeviceFlow.step S s.flow e).map fun flow => { s with flow } else none
  | .token code codeVerifier =>
      (DeviceFlow.step S s.flow (.token code codeVerifier)).map fun flow =>
        let accepted := flow.exchanges.drop s.flow.exchanges.length
        { s with flow, calls := s.calls ++ accepted.filterMap verifiedCall }
  | .findUser n newUserId db =>
      match s.calls[n]? with
      | some (.verified entry) =>
          let (dir, userId) := findUser S.toServer s.dir entry.email newUserId db
          some ((s.setDir dir).setCall n (.found entry userId))
      | _ => none
  | .storeSession n sessionId refreshTokenHash client executed =>
      match s.calls[n]? with
      | some (.found entry userId) =>
          let sess := newSession sessionId userId entry.wsId .device refreshTokenHash client s.unix
            (30 * 24 * 3600)
          let sessions :=
            if executed then (s.sessions.create sess).getD s.sessions else s.sessions
          some (State.setCall { s with sessions } n (.stored entry userId sessionId))
      | _ => none
  | .refresh tokenHash =>
      match s.sessions.getByRefreshTokenHash tokenHash with
      | none => some s
      | some sess =>
          if sess.revoked ∨ s.unix > sess.expiresAt then some s
          else some { s with calls := s.calls ++ [.checked sess] }
  | .nameUser n emailRead slugRead =>
      match s.calls[n]? with
      | some (.checked sess) =>
          let (email, wsSlug) := nameUser s.dir sess emailRead slugRead
          some (s.setCall n (.named sess email wsSlug))
      | _ => none
  | .rotate n newHash =>
      match s.calls[n]? with
      | some (.named sess email wsSlug) =>
          let sessions := s.sessions.updateRefreshToken sess.id newHash
          some (State.setCall { s with sessions } n (.rotated sess email wsSlug))
      | _ => none
  | .sign n =>
      match s.calls[n]?.bind Phase.holder with
      | some h => some ((s.issue (h.sign S.toServer s.unix)).setCall n .answered)
      | none => none
  | .fail n =>
      match s.calls[n]? with
      | some _ => some (s.setCall n .answered)
      | none => none
  | .revoke id => some { s with sessions := s.sessions.revoke id }
  | .revokeAllForUser userId => some { s with sessions := s.sessions.revokeAllForUser userId }
  | .cleanExpired => some { s with sessions := s.sessions.cleanExpired s.unix }
  | .write w => some (s.setDir (w.apply S.toServer s.dir))

/-! ## Active members -/

structure ActiveMember (S : Server) (d : Directory) (userId wsId : String) : Prop where
  workspace : IsActive d wsId
  user : ∃ a, d.accounts.get userId = some a ∧ S.unicode.stringsToLower (trim a.status) = "active"
  member : d.members.get (wsId, userId) ≠ none

/-- `deviceAuth` lets the token in when it is returned. -/
def Issue.Accepted (S : Server) (i : Issue) : Prop :=
  ∃ ctx, deviceAuth S i.sessions i.now (bearing i.token) = .ok ctx

def Issue.ToActiveMember (S : Server) (i : Issue) : Prop :=
  ActiveMember S i.dir i.token.claims.all.userId i.token.claims.all.wsId

def ToMembers (S : Server) (s : State) : Prop :=
  ∀ i ∈ s.issues, i.Accepted S → i.ToActiveMember S

/-- A signature that will be accepted is made for an active member. -/
def Entitled (S : Server) (s : State) : Event → Prop
  | .sign n => ∀ h, s.calls[n]?.bind Phase.holder = some h →
      S.jwtSecret ≠ [] → h.email ≠ "" → sessionRevoked s.sessions h.sessionId s.unix = false →
        ActiveMember S s.dir h.userId h.wsId
  | _ => True

section

variable {S : DeviceServer} {s s' : State} {e : Event}

@[simp] theorem dir_setCall (s : State) (n : Nat) (phase : Phase) :
    (s.setCall n phase).dir = s.dir := rfl

/-- What `deviceAuth` looks at in a token it has just been given. -/
theorem accepted_iff {S : Server} {h : Holder} {now : Int} {t : Token} {d : Directory}
    {sessions : SessionStore} (hsign : h.sign S now = .ok t) :
    Issue.Accepted S ⟨t, d, sessions, now⟩ ↔
      h.email ≠ "" ∧ sessionRevoked sessions h.sessionId now = false := by
  obtain ⟨hsecret, ht⟩ := signedString_ok hsign
  have hsub : t.claims.sub = h.email := by rw [ht]
  have hall : t.claims.all.aud = "device" ∧ t.claims.all.jti = h.sessionId := by
    rw [ht]
    exact ⟨rfl, rfl⟩
  unfold Issue.Accepted
  by_cases hemail : h.email = ""
  · have hdead : ¬ Live S now t := fun hlive => hlive.2.2.2 (hsub.trans hemail)
    have hrefused := deviceAuth_of_not_live hdead (presents_bearer S t) sessions
    exact iff_of_false (fun ⟨ctx, hctx⟩ => hrefused ctx hctx) fun hgood => hgood.1 hemail
  · have hexp : now < t.claims.exp := by
      rw [ht]
      exact Int.lt_add_of_pos_right now (by decide)
    have hlive : Live S now t := ⟨hsecret, by rw [ht], hexp, hsub ▸ hemail⟩
    have htoken : (bearing t).getTokenFromRequest = .jwt t := rfl
    rw [deviceAuth, if_neg hsecret, htoken, parseAllClaims_of_live hlive]
    simp only [hall, ne_eq, not_true, if_false, hemail, not_false_eq_true, true_and]
    cases sessionRevoked sessions h.sessionId now <;> simp

theorem toActiveMember_iff {S : Server} {h : Holder} {now : Int} {t : Token} {d : Directory}
    {sessions : SessionStore} (hsign : h.sign S now = .ok t) :
    Issue.ToActiveMember S ⟨t, d, sessions, now⟩ ↔ ActiveMember S d h.userId h.wsId := by
  obtain ⟨-, rfl⟩ := signedString_ok hsign
  exact Iff.rfl

/-- Only a signature adds to what was returned. -/
theorem issues_step (hstep : step S s e = some s') (hne : ∀ n, e ≠ .sign n) :
    s'.issues = s.issues := by
  cases e with
  | login e =>
      simp only [step] at hstep
      split at hstep
      · obtain ⟨flow, -, rfl⟩ := Option.map_eq_some_iff.mp hstep
        rfl
      · cases hstep
  | token code codeVerifier =>
      obtain ⟨flow, -, rfl⟩ := Option.map_eq_some_iff.mp hstep
      rfl
  | sign n => exact absurd rfl (hne n)
  | refresh tokenHash =>
      simp only [step] at hstep
      split at hstep
      · cases hstep
        rfl
      · split at hstep <;> cases hstep <;> rfl
  | findUser n newUserId db | storeSession n sessionId refreshTokenHash client executed
  | nameUser n emailRead slugRead | rotate n newHash | fail n =>
      simp only [step] at hstep
      split at hstep <;> cases hstep
      rfl
  | revoke id | revokeAllForUser userId | cleanExpired | write w =>
      cases hstep
      rfl

theorem toMembers_step (hstep : step S s e = some s') :
    ToMembers S.toServer s' ↔ ToMembers S.toServer s ∧ Entitled S.toServer s e := by
  by_cases hsign : ∃ n, e = .sign n
  · obtain ⟨n, rfl⟩ := hsign
    simp only [step] at hstep
    split at hstep
    next h hholder =>
      cases hstep
      simp only [Entitled, hholder, Option.some.injEq, forall_eq']
      cases hanswer : h.sign S.toServer s.unix with
      | error text =>
          have hsecret : S.jwtSecret = [] := by
            by_contra hsecret
            simp [Holder.sign, signDeviceJWT, signedString, hsecret] at hanswer
          simp [ToMembers, State.issue, State.setCall, hsecret]
      | ok t =>
          have hsecret := (signedString_ok hanswer).1
          simp only [ToMembers, State.issue, State.setCall, List.forall_mem_append,
            List.mem_singleton, forall_eq, accepted_iff hanswer, toActiveMember_iff hanswer,
            and_imp, hsecret, not_false_eq_true, forall_const, ne_eq]
    · cases hstep
  · have hne : ∀ n, e ≠ .sign n := fun n heq => hsign ⟨n, heq⟩
    have hentitled : Entitled S.toServer s e := by
      cases e with
      | sign n => exact absurd rfl (hne n)
      | _ => trivial
    rw [and_iff_left hentitled, ToMembers, ToMembers, issues_step hstep hne]

end

/-! ## Who stays an active member -/

/-- The user is as active a member of the workspace after the statement as before. -/
def Write.Spares (S : Server) (userId wsId : String) : Write → Prop
  | .updateUser a => a.id = userId → S.unicode.stringsToLower (trim a.status) = "active"
  | .deleteUser id => id ≠ userId
  | .deleteWorkspace id => id ≠ wsId
  | .removeMember workspaceId id => (workspaceId, id) ≠ (wsId, userId)
  | _ => True

section

variable {S : Server} {d : Directory} {userId wsId : String}

/-- A row that a key finds is found by it after an insertion. -/
theorem get_insert {ρ κ : Type} [DecidableEq κ] {key : ρ → κ} {t : Table key} {k : κ} {r old : ρ}
    (h : t.get k = some old) : ((t.insert r).getD t).get k = some old := by
  unfold Table.insert
  split
  next hfree =>
    have hne : k ≠ key r := by
      rintro rfl
      rw [hfree] at h
      cases h
    rw [Option.getD_some, Table.get_put, if_neg hne, h]
  next => exact h

theorem ActiveMember.createUser (h : ActiveMember S d userId wsId) (a : Account) :
    ActiveMember S ((Membership.createUser S d a).getD d) userId wsId := by
  unfold Membership.createUser
  split
  · exact h
  · obtain ⟨b, hb, hactive⟩ := h.user
    have hkept := get_insert (r := a) hb
    cases hinsert : d.accounts.insert a with
    | none => exact h
    | some accounts =>
        rw [hinsert] at hkept
        exact ⟨h.workspace, ⟨b, hkept, hactive⟩, h.member⟩

theorem ActiveMember.updateUser (h : ActiveMember S d userId wsId) {a : Account}
    (ha : a.id = userId → S.unicode.stringsToLower (trim a.status) = "active") :
    ActiveMember S (updateUser S d a) userId wsId := by
  unfold DeviceMembers.updateUser
  split
  · exact h
  · obtain ⟨b, hb, hactive⟩ := h.user
    obtain ⟨-, rfl⟩ := Table.mem_of_get hb
    refine ⟨h.workspace, ⟨setAccount a b, ?_, ?_⟩, h.member⟩
    · rw [Table.get_update, hb, Option.map_some]
    · unfold setAccount
      split
      next heq => exact ha heq.symm
      next => exact hactive

theorem ActiveMember.deleteUser (h : ActiveMember S d userId wsId) {id : String}
    (hne : id ≠ userId) : ActiveMember S (Membership.deleteUser d id) userId wsId := by
  obtain ⟨a, ha, hactive⟩ := h.user
  refine ⟨h.workspace, ⟨a, ?_, hactive⟩, ?_⟩
  · simp only [Membership.deleteUser]
    rw [Table.get_filter_ne, if_neg hne.symm]
    exact ha
  · obtain ⟨m, hm⟩ := Option.ne_none_iff_exists'.mp h.member
    obtain ⟨-, hkey⟩ := Table.mem_of_get hm
    obtain ⟨-, hid⟩ := Prod.mk.inj hkey
    simp [Membership.deleteUser, Table.get_filter, hm, hid, hne.symm]

/-- The foreign key of the membership refuses it. -/
theorem ActiveMember.deleteUserRow (h : ActiveMember S d userId wsId) (id : String) :
    ActiveMember S ((Membership.deleteUserRow d id).getD d) userId wsId := by
  cases hdelete : Membership.deleteUserRow d id with
  | none => exact h
  | some d' =>
      obtain ⟨hfree, rfl⟩ := Membership.deleteUserRow_eq hdelete
      obtain ⟨m, hm⟩ := Option.ne_none_iff_exists'.mp h.member
      obtain ⟨hmem, hkey⟩ := Table.mem_of_get hm
      obtain ⟨-, hid⟩ := Prod.mk.inj hkey
      have hne : userId ≠ id := hid ▸ hfree m hmem
      obtain ⟨a, ha, hactive⟩ := h.user
      refine ⟨h.workspace, ⟨a, ?_, hactive⟩, h.member⟩
      rw [Option.getD_some, Table.get_filter_ne, if_neg hne, ha]

theorem ActiveMember.createWorkspace (h : ActiveMember S d userId wsId) (id name slug : String) :
    ActiveMember S (createWorkspace d id name slug) userId wsId := by
  unfold DeviceMembers.createWorkspace
  split
  · exact h
  · obtain ⟨w, hw, hactive⟩ := h.workspace
    exact ⟨⟨w, get_insert hw, hactive⟩, h.user, h.member⟩

theorem ActiveMember.addMember (h : ActiveMember S d userId wsId) (m : MemberRow) :
    ActiveMember S ((Membership.addMember d m).getD d) userId wsId := by
  cases hadd : Membership.addMember d m with
  | none => exact h
  | some d' =>
      obtain ⟨-, -, rfl⟩ := Membership.addMember_eq hadd
      obtain ⟨old, hold⟩ := Option.ne_none_iff_exists'.mp h.member
      refine ⟨h.workspace, h.user, ?_⟩
      rw [Option.getD_some, get_insert hold]
      exact Option.some_ne_none _

theorem ActiveMember.updateMemberRole (h : ActiveMember S d userId wsId)
    (workspaceId id role : String) :
    ActiveMember S ((Membership.updateMemberRole d workspaceId id role).getD d) userId wsId := by
  cases hupdate : Membership.updateMemberRole d workspaceId id role with
  | none => exact h
  | some d' =>
      rw [Option.getD_some, Membership.updateMemberRole_eq hupdate]
      refine ⟨h.workspace, h.user, ?_⟩
      rw [Table.get_update, ne_eq, Option.map_eq_none_iff]
      exact h.member

theorem ActiveMember.apply (h : ActiveMember S d userId wsId) {w : Write}
    (hw : w.Spares S userId wsId) : ActiveMember S (w.apply S d) userId wsId := by
  cases w with
  | createUser a => exact h.createUser a
  | updateUser a => exact h.updateUser hw
  | deleteUser id => exact h.deleteUser hw
  | deleteUserRow id => exact h.deleteUserRow id
  | createWorkspace id name slug => exact h.createWorkspace id name slug
  | deleteWorkspace id =>
      exact ⟨Membership.isActive_deleteWorkspace.mpr ⟨h.workspace, Ne.symm hw⟩, h.user, h.member⟩
  | addMember m => exact h.addMember m
  | updateMemberRole workspaceId id role => exact h.updateMemberRole workspaceId id role
  | removeMember workspaceId id =>
      refine ⟨h.workspace, h.user, ?_⟩
      simp only [Write.apply, Membership.removeMember]
      rw [Table.get_filter_ne, if_neg (Ne.symm hw)]
      exact h.member

end

/-! ## Sessions that can be refreshed -/

/-- Whom a request is for, once the user is known. -/
def Phase.holds (userId wsId : String) : Phase → Prop
  | .found entry id => id = userId ∧ entry.wsId = wsId
  | .stored entry id _ => id = userId ∧ entry.wsId = wsId
  | .checked sess => sess.userId = userId ∧ sess.workspaceId = wsId
  | .named sess _ _ => sess.userId = userId ∧ sess.workspaceId = wsId
  | .rotated sess _ _ => sess.userId = userId ∧ sess.workspaceId = wsId
  | _ => False

/-- The user has a session in the workspace that can be refreshed, or a request under way. -/
inductive InUse (s : State) (userId wsId : String) : Prop
  | session {sess : Session} (hmem : sess ∈ s.sessions.rows) (hrevoked : sess.revoked = false)
      (htime : s.unix ≤ sess.expiresAt) (huser : sess.userId = userId)
      (hws : sess.workspaceId = wsId)
  | call {phase : Phase} (hmem : phase ∈ s.calls) (hholds : phase.holds userId wsId)

/-- Logins are those of active members, and nobody is removed, deactivated or deleted while
in use, nor a workspace. -/
def Undisturbed (S : Server) (s : State) : Event → Prop
  | .findUser n _ db => ∀ entry, s.calls[n]? = some (.verified entry) →
      (db.lookup = true ∨ db.again = true) ∧
        ∃ a, s.dir.getUserByEmail entry.email = some a ∧ ActiveMember S s.dir a.id entry.wsId
  | .write w => ∀ userId wsId, InUse s userId wsId → w.Spares S userId wsId
  | _ => True

def Covered (S : Server) (s : State) : Prop :=
  ∀ userId wsId, InUse s userId wsId → ActiveMember S s.dir userId wsId

section

variable {S : DeviceServer} {s s' : State} {e : Event} {userId wsId : String}

/-- A login leaves the workspaces alone, and time passes. -/
theorem flow_step {f f' : DeviceFlow.State} {e : DeviceFlow.Event}
    (hstep : DeviceFlow.step S f e = some f') (hne : ∀ workspaces, e ≠ .workspaces workspaces) :
    f'.workspaces = f.workspaces ∧ f.now ≤ f'.now := by
  obtain ⟨g, hnext, rfl⟩ := Option.map_eq_some_iff.mp hstep
  show g.workspaces = f.workspaces ∧ f.now ≤ g.now
  cases e with
  | workspaces workspaces => exact absurd rfl (hne workspaces)
  | tick now =>
      simp only [DeviceFlow.next] at hnext
      split at hnext
      next hle =>
        cases hnext
        exact ⟨rfl, hle⟩
      · cases hnext
  | otherConsume state =>
      cases hnext
      exact ⟨rfl, Int.le_refl _⟩
  | authorize req idpId csrfState inserted | storeState n | otherState state
  | callback stateParam | readRow n executed | deleteRow n executed | identify n emailAddr
  | storeCode n ctrlCode | token code codeVerifier | mint n userId sessionId =>
      simp only [DeviceFlow.next] at hnext
      repeat' split at hnext
      all_goals cases hnext
      all_goals exact ⟨rfl, Int.le_refl _⟩

/-- A request goes on for the same user, or ends. -/
theorem inUse_setCall {n : Nat} {old phase : Phase} (hold : s.calls[n]? = some old)
    (h : InUse (s.setCall n phase) userId wsId)
    (hholds : phase.holds userId wsId → old.holds userId wsId) : InUse s userId wsId := by
  cases h with
  | session hmem hrevoked htime huser hws => exact .session hmem hrevoked htime huser hws
  | call hmem hheld =>
      rcases List.mem_or_eq_of_mem_set hmem with hmem | rfl
      · exact .call hmem hheld
      · exact .call (List.mem_of_getElem? hold) (hholds hheld)

/-- As time passes, sessions are no longer in use. -/
theorem inUse_flow {flow : DeviceFlow.State} {calls : List Phase} (hnow : s.flow.now ≤ flow.now)
    (h : InUse { s with flow, calls } userId wsId) :
    InUse s userId wsId ∨ ∃ phase ∈ calls, phase.holds userId wsId := by
  cases h with
  | session hmem hrevoked htime huser hws =>
      have hunix : s.unix ≤ flow.now / nanosPerSec := Int.ediv_le_ediv (by decide) hnow
      exact Or.inl (.session hmem hrevoked (Int.le_trans hunix htime) huser hws)
  | call hmem hholds => exact Or.inr ⟨_, hmem, hholds⟩

theorem dir_issue (answer : Except String Token) : (s.issue answer).dir = s.dir := by
  cases answer <;> rfl

theorem inUse_issue {answer : Except String Token} (h : InUse (s.issue answer) userId wsId) :
    InUse s userId wsId := by
  cases answer with
  | error text => exact h
  | ok t =>
      cases h with
      | session hmem hrevoked htime huser hws => exact .session hmem hrevoked htime huser hws
      | call hmem hholds => exact .call hmem hholds

/-- A statement that changes no user and no workspace of a session, and revives none. -/
theorem inUse_sessions {sessions : SessionStore}
    (hsessions : ∀ sess ∈ sessions.rows, sess.revoked = false →
      (∃ old ∈ s.sessions.rows, old.revoked = false ∧ old.expiresAt = sess.expiresAt ∧
        old.userId = sess.userId ∧ old.workspaceId = sess.workspaceId) ∨
      InUse s sess.userId sess.workspaceId)
    (h : InUse { s with sessions } userId wsId) : InUse s userId wsId := by
  cases h with
  | session hmem hrevoked htime huser hws =>
      rcases hsessions _ hmem hrevoked with ⟨old, hold, hopen, hexp, hu, hw⟩ | hbefore
      · exact .session hold hopen (hexp ▸ htime) (hu.trans huser) (hw.trans hws)
      · rwa [← huser, ← hws]
  | call hmem hholds => exact .call hmem hholds

/-- The statements that set columns of `sessions`. -/
theorem inUse_update {f : Session → Session} {hf : ∀ r, (f r).id = r.id}
    (hkeeps : ∀ r, (f r).revoked = false → r.revoked = false ∧ r.expiresAt = (f r).expiresAt ∧
      r.userId = (f r).userId ∧ r.workspaceId = (f r).workspaceId)
    (h : InUse { s with sessions := s.sessions.update f hf } userId wsId) :
    InUse s userId wsId := by
  refine inUse_sessions ?_ h
  intro sess hmem hrevoked
  obtain ⟨old, hold, rfl⟩ := List.mem_map.mp hmem
  exact Or.inl ⟨old, hold, hkeeps old hrevoked⟩

/-- The new session is that of the request. -/
theorem inUse_create {sess : Session} {executed : Bool}
    (hcall : InUse s sess.userId sess.workspaceId)
    (h : InUse { s with
      sessions := if executed then (s.sessions.create sess).getD s.sessions else s.sessions }
      userId wsId) : InUse s userId wsId := by
  refine inUse_sessions ?_ h
  intro r hmem hrevoked
  split at hmem
  · cases hcreate : s.sessions.create sess with
    | none =>
        rw [hcreate] at hmem
        exact Or.inl ⟨r, hmem, hrevoked, rfl, rfl, rfl⟩
    | some sessions =>
        rw [hcreate] at hmem
        obtain ⟨-, rfl⟩ := Table.insert_eq_some hcreate
        rcases Table.mem_rows_put.mp hmem with rfl | ⟨hold, -⟩
        · exact Or.inr hcall
        · exact Or.inl ⟨r, hold, hrevoked, rfl, rfl, rfl⟩
  · exact Or.inl ⟨r, hmem, hrevoked, rfl, rfl, rfl⟩

/-- The user is found, whichever lookup finds it, and nothing is written. -/
theorem findUser_eq {S : Server} {d : Directory} {email newUserId : String} {db : Answers}
    {a : Account} (hfound : d.getUserByEmail email = some a)
    (hdb : db.lookup = true ∨ db.again = true) :
    findUser S d email newUserId db = (d, a.id) := by
  unfold findUser
  rw [hfound]
  cases hlookup : db.lookup with
  | true => rfl
  | false =>
      have hagain : db.again = true := by simpa [hlookup] using hdb
      -- the index refuses a second row with the address
      have hrefused : Membership.createUser S d ⟨newUserId, email, "Active", "Member"⟩ = none := by
        have hemail : a.email = email :=
          of_decide_eq_true (List.find?_some (p := fun a : Account => decide (a.email = email))
            hfound)
        refine if_pos (List.any_eq_true.mpr ⟨a, List.mem_of_find?_eq_some hfound, ?_⟩)
        simp [hemail]
      simp [hrefused, hagain, hfound]

/-- A step that brings nobody into use and writes nothing to the directory. -/
structure BringsNobody (s s' : State) : Prop where
  dir : s'.dir = s.dir
  inUse : ∀ {userId wsId : String}, InUse s' userId wsId → InUse s userId wsId

theorem bringsNobody_refl : BringsNobody s s := ⟨rfl, id⟩

theorem bringsNobody_login {e : DeviceFlow.Event} (hstep : step S s (.login e) = some s') :
    BringsNobody s s' := by
  simp only [step] at hstep
  split at hstep
  next hbefore =>
    obtain ⟨flow, hflow, rfl⟩ := Option.map_eq_some_iff.mp hstep
    obtain ⟨hworkspaces, hnow⟩ := flow_step hflow (by rintro w rfl; cases hbefore)
    refine ⟨by simp only [State.dir, hworkspaces], ?_⟩
    intro userId wsId huse
    rcases inUse_flow hnow huse with hbefore | ⟨phase, hmem, hholds⟩
    · exact hbefore
    · exact .call hmem hholds
  · cases hstep

/-- Nobody knows the user of a code yet. -/
theorem bringsNobody_token {code codeVerifier : String}
    (hstep : step S s (.token code codeVerifier) = some s') : BringsNobody s s' := by
  obtain ⟨flow, hflow, rfl⟩ := Option.map_eq_some_iff.mp hstep
  obtain ⟨hworkspaces, hnow⟩ := flow_step hflow (by simp)
  refine ⟨by simp only [State.dir, hworkspaces], ?_⟩
  intro userId wsId huse
  rcases inUse_flow hnow huse with hbefore | ⟨phase, hmem, hholds⟩
  · exact hbefore
  rcases List.mem_append.mp hmem with hmem | hnew
  · exact .call hmem hholds
  · obtain ⟨x, -, hx⟩ := List.mem_filterMap.mp hnew
    unfold verifiedCall at hx
    split at hx
    · cases hx
      exact absurd hholds id
    · cases hx

/-- A session that is presented in time is one that can be refreshed. -/
theorem bringsNobody_refresh {tokenHash : String}
    (hstep : step S s (.refresh tokenHash) = some s') : BringsNobody s s' := by
  simp only [step] at hstep
  split at hstep
  · cases hstep
    exact bringsNobody_refl
  next sess hsess =>
    split at hstep
    · cases hstep
      exact bringsNobody_refl
    next hopen =>
      cases hstep
      obtain ⟨hrevoked, htime⟩ := not_or.mp hopen
      refine ⟨rfl, ?_⟩
      intro userId wsId huse
      cases huse with
      | session hmem hrevoked htime huser hws => exact .session hmem hrevoked htime huser hws
      | call hmem hholds =>
          rcases List.mem_append.mp hmem with hmem | hnew
          · exact .call hmem hholds
          · obtain rfl := List.mem_singleton.mp hnew
            exact .session (List.mem_of_find?_eq_some hsess) (Bool.eq_false_iff.mpr hrevoked)
              (Int.not_lt.mp htime) hholds.1 hholds.2

theorem bringsNobody_storeSession {n : Nat} {sessionId refreshTokenHash : String} {client : Client}
    {executed : Bool}
    (hstep : step S s (.storeSession n sessionId refreshTokenHash client executed) = some s') :
    BringsNobody s s' := by
  simp only [step] at hstep
  split at hstep
  next entry id hcall =>
    cases hstep
    refine ⟨rfl, ?_⟩
    intro userId wsId huse
    have hcaller : InUse s id entry.wsId := .call (List.mem_of_getElem? hcall) ⟨rfl, rfl⟩
    exact inUse_create hcaller (inUse_setCall hcall huse fun hheld => hheld)
  · cases hstep

theorem bringsNobody_rotate {n : Nat} {newHash : String}
    (hstep : step S s (.rotate n newHash) = some s') : BringsNobody s s' := by
  simp only [step] at hstep
  split at hstep
  next sess email wsSlug hcall =>
    cases hstep
    refine ⟨rfl, ?_⟩
    intro userId wsId huse
    refine inUse_update ?_ (inUse_setCall hcall huse fun hheld => hheld)
    intro r hrevoked
    unfold SessionStore.Session.rotate at hrevoked ⊢
    split at hrevoked
    next hid => exact ⟨hrevoked, by simp [hid]⟩
    next hid => exact ⟨hrevoked, by simp [hid]⟩
  · cases hstep

theorem bringsNobody_sign {n : Nat} (hstep : step S s (.sign n) = some s') :
    BringsNobody s s' := by
  simp only [step] at hstep
  split at hstep
  next holder hholder =>
    cases hstep
    obtain ⟨phase, hcall, -⟩ := Option.bind_eq_some_iff.mp hholder
    have hcalls : (s.issue (holder.sign S.toServer s.unix)).calls[n]? = some phase := by
      cases holder.sign S.toServer s.unix <;> exact hcall
    refine ⟨by rw [dir_setCall, dir_issue], ?_⟩
    intro userId wsId huse
    exact inUse_issue (inUse_setCall hcalls huse fun hheld => absurd hheld id)
  · cases hstep

/-- Two kinds of steps are left: a lookup of a user, and a statement of the stores. -/
theorem bringsNobody_step (hstep : step S s e = some s')
    (hlookup : ∀ n newUserId db, e ≠ .findUser n newUserId db) (hwrite : ∀ w, e ≠ .write w) :
    BringsNobody s s' := by
  cases e with
  | login e => exact bringsNobody_login hstep
  | token code codeVerifier => exact bringsNobody_token hstep
  | findUser n newUserId db => exact absurd rfl (hlookup n newUserId db)
  | storeSession n sessionId refreshTokenHash client executed =>
      exact bringsNobody_storeSession hstep
  | refresh tokenHash => exact bringsNobody_refresh hstep
  | nameUser n emailRead slugRead =>
      simp only [step] at hstep
      split at hstep
      next sess hcall =>
        cases hstep
        exact ⟨rfl, fun huse => inUse_setCall hcall huse fun hheld => hheld⟩
      · cases hstep
  | rotate n newHash => exact bringsNobody_rotate hstep
  | sign n => exact bringsNobody_sign hstep
  | fail n =>
      simp only [step] at hstep
      split at hstep
      next phase hcall =>
        cases hstep
        exact ⟨rfl, fun huse => inUse_setCall hcall huse fun hheld => absurd hheld id⟩
      · cases hstep
  | revoke id =>
      cases hstep
      refine ⟨rfl, inUse_update ?_⟩
      intro r hrevoked
      unfold SessionStore.Session.revoke at hrevoked ⊢
      split at hrevoked
      · cases hrevoked
      next hid => exact ⟨hrevoked, by simp [hid]⟩
  | revokeAllForUser id =>
      cases hstep
      refine ⟨rfl, inUse_update ?_⟩
      intro r hrevoked
      unfold SessionStore.Session.revokeFor at hrevoked ⊢
      split at hrevoked
      · cases hrevoked
      next hid => exact ⟨hrevoked, by simp [hid]⟩
  | cleanExpired =>
      cases hstep
      refine ⟨rfl, inUse_sessions ?_⟩
      intro sess hmem hrevoked
      exact Or.inl ⟨sess, (List.mem_filter.mp hmem).1, hrevoked, rfl, rfl, rfl⟩
  | write w => exact absurd rfl (hwrite w)

/-- The user who is looked up is an active member. -/
theorem covered_findUser {n : Nat} {newUserId : String} {db : Answers}
    (h : Covered S.toServer s) (hok : Undisturbed S.toServer s (.findUser n newUserId db))
    (hstep : step S s (.findUser n newUserId db) = some s') : Covered S.toServer s' := by
  simp only [step] at hstep
  split at hstep
  next entry hcall =>
    obtain ⟨hdb, a, hfound, hactive⟩ := hok entry hcall
    rw [findUser_eq hfound hdb] at hstep
    cases hstep
    intro userId wsId huse
    cases huse with
    | session hmem hrevoked htime huser hws =>
        exact h userId wsId (.session hmem hrevoked htime huser hws)
    | call hmem hholds =>
        rcases List.mem_or_eq_of_mem_set hmem with hmem | rfl
        · exact h userId wsId (.call hmem hholds)
        · obtain ⟨rfl, rfl⟩ := hholds
          exact hactive
  · cases hstep

theorem covered_write {w : Write} (h : Covered S.toServer s)
    (hok : Undisturbed S.toServer s (.write w)) :
    Covered S.toServer (s.setDir (w.apply S.toServer s.dir)) := by
  intro userId wsId huse
  have hbefore : InUse s userId wsId := by
    cases huse with
    | session hmem hrevoked htime huser hws => exact .session hmem hrevoked htime huser hws
    | call hmem hholds => exact .call hmem hholds
  exact (h userId wsId hbefore).apply (hok userId wsId hbefore)

theorem covered_step (h : Covered S.toServer s) (hok : Undisturbed S.toServer s e)
    (hstep : step S s e = some s') : Covered S.toServer s' := by
  by_cases hlookup : ∃ n newUserId db, e = .findUser n newUserId db
  · obtain ⟨n, newUserId, db, rfl⟩ := hlookup
    exact covered_findUser h hok hstep
  by_cases hwrite : ∃ w, e = .write w
  · obtain ⟨w, rfl⟩ := hwrite
    cases hstep
    exact covered_write h hok
  have hquiet : BringsNobody s s' :=
    bringsNobody_step hstep (fun n newUserId db heq => hlookup ⟨n, newUserId, db, heq⟩)
      fun w heq => hwrite ⟨w, heq⟩
  intro userId wsId huse
  rw [hquiet.dir]
  exact h userId wsId (hquiet.inUse huse)

/-- Whoever a token is signed for is in use. -/
theorem inUse_holder {n : Nat} {h : Holder} (hholder : s.calls[n]?.bind Phase.holder = some h) :
    InUse s h.userId h.wsId := by
  obtain ⟨phase, hcall, hphase⟩ := Option.bind_eq_some_iff.mp hholder
  refine .call (List.mem_of_getElem? hcall) ?_
  cases phase with
  | stored entry id sessionId =>
      cases hphase
      exact ⟨rfl, rfl⟩
  | rotated sess email wsSlug =>
      cases hphase
      exact ⟨rfl, rfl⟩
  | _ => cases hphase

theorem entitled_of_covered (h : Covered S.toServer s) : Entitled S.toServer s e := by
  cases e with
  | sign n => exact fun holder hholder _ _ _ => h _ _ (inUse_holder hholder)
  | _ => trivial

end

theorem covered_init (S : Server) (now : SystemTime) (d : Directory) :
    Covered S (.init now d) := by
  intro userId wsId huse
  cases huse with
  | session hmem => cases hmem
  | call hmem => cases hmem

/-- **Whom device tokens go to.**  In every run in which every login is that of an active
member, and nobody is removed, deactivated or deleted while a session or a request of theirs
is open, nor the workspace, the tokens that `deviceAuth` accepts when they are returned went
to active members.  In any run they did iff at each signature of such a token the user was
one. -/
theorem toMembers_iff (S : DeviceServer) (now : SystemTime) (d : Directory) (es : List Event)
    (s : State) (hrun : run (step S) (.init now d) es = some s) :
    (Meets (step S) (Undisturbed S.toServer) (.init now d) es → ToMembers S.toServer s) ∧
      (ToMembers S.toServer s ↔
        Meets (step S) (Entitled S.toServer) (.init now d) es) := by
  have hnone : ToMembers S.toServer (.init now d) := fun i hi => by cases hi
  have hiff : ToMembers S.toServer s ↔
      Meets (step S) (Entitled S.toServer) (.init now d) es := by
    have hsteps : ∀ s e s', True → step S s e = some s' →
        (ToMembers S.toServer s' ↔ ToMembers S.toServer s ∧ Entitled S.toServer s e) :=
      fun _ _ _ _ hstep => toMembers_step hstep
    rw [iff_meets_of_step (fun _ _ _ _ _ => trivial) hsteps trivial hrun, and_iff_right hnone]
  refine ⟨fun hmeets => hiff.mpr ?_, hiff⟩
  exact meets_imp_of_inv (motive := Covered S.toServer)
    (fun _ _ _ hcovered hok hstep => covered_step hcovered hok hstep)
    (fun _ _ _ hcovered _ _ => entitled_of_covered hcovered) (covered_init S.toServer now d) hrun
    hmeets

/-! ### Bob's laptop -/

def bobLogin : List Event :=
  ((DeviceFlow.deviceLogin "bob@acme.io").take 7).map .login ++
    [.token "92eb5ffee6ae2fec" DeviceFlow.exampleVerifier, .findUser 0 "usr_9" ⟨true, true, true⟩,
    .storeSession 0 "5f4dcc3b5aa765d6" "8277e091" ⟨"192.0.2.7", "zt-client"⟩ true, .sign 0]

def bobRefresh : List Event :=
  [.refresh "8277e091", .nameUser 1 true true, .rotate 1 "e4da3b7f", .sign 1]

/-- He logs in and refreshes his token. -/
theorem bob_refreshes :
    ∃ s, run (step DeviceFlow.exampleDeviceServer)
        (.init (1735690200 * nanosPerSec) exampleDirectory) (bobLogin ++ bobRefresh) = some s ∧
      s.issues.length = 2 ∧ ToMembers DeviceFlow.exampleDeviceServer.toServer s := by
  refine ⟨_, rfl, rfl, ?_⟩
  refine (toMembers_iff DeviceFlow.exampleDeviceServer (1735690200 * nanosPerSec)
    exampleDirectory (bobLogin ++ bobRefresh) _ rfl).1 ?_
  refine meets_cons trivial rfl (meets_cons trivial rfl (meets_cons trivial rfl
    (meets_cons trivial rfl (meets_cons trivial rfl (meets_cons trivial rfl (meets_cons trivial
    rfl (meets_cons trivial rfl (meets_cons ?_ rfl (meets_cons trivial rfl (meets_cons trivial
    rfl (meets_cons trivial rfl (meets_cons trivial rfl (meets_cons trivial rfl
    (meets_cons trivial rfl trivial))))))))))))))
  intro entry hentry
  cases hentry
  exact ⟨Or.inl rfl, _, rfl, ⟨_, rfl, rfl⟩, ⟨_, rfl, by decide⟩, by decide⟩

/-- He is removed from the workspace before he refreshes it. -/
theorem removed_bob_refreshes :
    ∃ s, run (step DeviceFlow.exampleDeviceServer)
        (.init (1735690200 * nanosPerSec) exampleDirectory)
        (bobLogin ++ .write (.removeMember "ws_1" "usr_2") :: bobRefresh) = some s ∧
      ∃ i ∈ s.issues, i.Accepted DeviceFlow.exampleDeviceServer.toServer ∧
        i.token.claims.wid = some "ws_1" ∧ i.token.claims.uid = some "usr_2" ∧
        i.dir.members.get ("ws_1", "usr_2") = none ∧
        ¬ ToMembers DeviceFlow.exampleDeviceServer.toServer s := by
  refine ⟨_, rfl, _, List.mem_cons_of_mem _ (List.mem_singleton_self _), ⟨_, rfl⟩, rfl, rfl,
    by rfl, fun h => ?_⟩
  exact (h _ (List.mem_cons_of_mem _ (List.mem_singleton_self _)) ⟨_, rfl⟩).member rfl

end ZeroTrust.Admin.DeviceMembers
