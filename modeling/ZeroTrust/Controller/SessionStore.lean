/-
# `ZeroTrust.Controller.SessionStore` — the `sessions` table

`state/session.go`.  Every method is one statement.  The rows are found by their id or by
the hash of the refresh token they were last given; a row is never given a new id, and
`revoked` is only ever set.
-/
import ZeroTrust.Lib.Table

namespace ZeroTrust.Controller

open Lib

inductive SessionType where
  | admin
  | device
  deriving DecidableEq

structure Session where
  id : String
  userId : String
  workspaceId : String
  sessionType : SessionType
  deviceId : String
  refreshTokenHash : String
  ipAddress : String
  userAgent : String
  createdAt : Int
  expiresAt : Int
  revoked : Bool
  deriving DecidableEq

abbrev SessionStore := Table Session.id

namespace SessionStore

/-- `none` is the error of a taken id. -/
def create (s : SessionStore) (sess : Session) : Option SessionStore := s.insert sess

/-- The first row with the hash; nothing keeps two rows from having the same one. -/
def getByRefreshTokenHash (s : SessionStore) (hash : String) : Option Session :=
  s.rows.find? fun r => r.refreshTokenHash = hash

/-- `none` is the error of a missing row. -/
def isValid (s : SessionStore) (id : String) (now : Int) : Option Bool :=
  (s.get id).map fun sess => !sess.revoked && !decide (now > sess.expiresAt)

def Session.revoke (id : String) (r : Session) : Session :=
  if r.id = id then { r with revoked := true } else r

theorem Session.revoke_id (id : String) (r : Session) : (Session.revoke id r).id = r.id := by
  unfold Session.revoke
  split <;> rfl

def revoke (s : SessionStore) (id : String) : SessionStore :=
  s.update (Session.revoke id) (Session.revoke_id id)

def Session.revokeFor (userId : String) (r : Session) : Session :=
  if r.userId = userId then { r with revoked := true } else r

theorem Session.revokeFor_id (userId : String) (r : Session) :
    (Session.revokeFor userId r).id = r.id := by
  unfold Session.revokeFor
  split <;> rfl

def revokeAllForUser (s : SessionStore) (userId : String) : SessionStore :=
  s.update (Session.revokeFor userId) (Session.revokeFor_id userId)

def Session.rotate (id newHash : String) (r : Session) : Session :=
  if r.id = id then { r with refreshTokenHash := newHash } else r

theorem Session.rotate_id (id newHash : String) (r : Session) :
    (Session.rotate id newHash r).id = r.id := by
  unfold Session.rotate
  split <;> rfl

def updateRefreshToken (s : SessionStore) (id newHash : String) : SessionStore :=
  s.update (Session.rotate id newHash) (Session.rotate_id id newHash)

def cleanExpired (s : SessionStore) (now : Int) : SessionStore :=
  s.filter fun r => !decide (r.expiresAt < now)

/-! ## What is found afterwards -/

theorem get_create {s s' : SessionStore} {sess : Session} (h : s.create sess = some s')
    (id : String) : s'.get id = if id = sess.id then some sess else s.get id := by
  obtain ⟨-, rfl⟩ := Table.insert_eq_some h
  exact Table.get_put s sess id

theorem get_revoke (s : SessionStore) (id id' : String) :
    (s.revoke id).get id' = (s.get id').map (Session.revoke id) := Table.get_update s _ id'

theorem get_updateRefreshToken (s : SessionStore) (id newHash id' : String) :
    (s.updateRefreshToken id newHash).get id' = (s.get id').map (Session.rotate id newHash) :=
  Table.get_update s _ id'

/-- A row found by its hash is the row of its id. -/
theorem get_of_getByRefreshTokenHash {s : SessionStore} {hash : String} {sess : Session}
    (h : s.getByRefreshTokenHash hash = some sess) :
    s.get sess.id = some sess ∧ sess.refreshTokenHash = hash := by
  refine ⟨Table.get_of_mem (List.mem_of_find?_eq_some h), ?_⟩
  exact of_decide_eq_true
    (List.find?_some (p := fun r : Session => decide (r.refreshTokenHash = hash)) h)

end SessionStore

end ZeroTrust.Controller
