import Astra.Foundation.Table
import Astra.Persistence.Queries

/-!
# Users and refresh sessions

The rows of `users` and `refresh_sessions`, and their repositories.
-/

namespace Astra.Auth

open Astra.Foundation Astra.Platform Astra.Persistence

structure User where
  id : UUID
  email : String
  username : String
  passwordHash : String
  isActive : Bool
  isVerified : Bool
  lastLoginAt : Option Timestamp
  createdAt : Timestamp
  updatedAt : Timestamp
  deriving DecidableEq

structure RefreshSession where
  id : UUID
  userId : UUID
  tokenJti : UUID
  tokenHash : String
  tokenFamilyId : UUID
  expiresAt : Timestamp
  revokedAt : Option Timestamp
  replacedBySessionId : Option UUID
  deviceName : Option String
  userAgent : Option String
  ipAddress : Option String
  deriving DecidableEq

structure AuthStore where
  users : List User := []
  sessions : List RefreshSession := []

namespace RefreshSession

def isExpired (r : RefreshSession) (now : Timestamp) : Bool := r.expiresAt ≤ now

def isRevoked (r : RefreshSession) : Bool := r.revokedAt.isSome

def revoke (now : Timestamp) (r : RefreshSession) : RefreshSession :=
  { r with revokedAt := some now }

def replace (now : Timestamp) (successorId : UUID) (r : RefreshSession) : RefreshSession :=
  { r with revokedAt := some now, replacedBySessionId := some successorId }

@[simp] theorem revoke_id (now : Timestamp) (r : RefreshSession) : (r.revoke now).id = r.id := rfl

@[simp] theorem revoke_tokenFamilyId (now : Timestamp) (r : RefreshSession) :
    (r.revoke now).tokenFamilyId = r.tokenFamilyId := rfl

@[simp] theorem revoke_userId (now : Timestamp) (r : RefreshSession) :
    (r.revoke now).userId = r.userId := rfl

@[simp] theorem revoke_isRevoked (now : Timestamp) (r : RefreshSession) :
    (r.revoke now).isRevoked = true := rfl

@[simp] theorem replace_id (now : Timestamp) (id : UUID) (r : RefreshSession) :
    (r.replace now id).id = r.id := rfl

@[simp] theorem replace_tokenFamilyId (now : Timestamp) (id : UUID) (r : RefreshSession) :
    (r.replace now id).tokenFamilyId = r.tokenFamilyId := rfl

@[simp] theorem replace_userId (now : Timestamp) (id : UUID) (r : RefreshSession) :
    (r.replace now id).userId = r.userId := rfl

@[simp] theorem replace_isRevoked (now : Timestamp) (id : UUID) (r : RefreshSession) :
    (r.replace now id).isRevoked = true := rfl

end RefreshSession

/-! ## Repositories -/

def getUser (rows : List User) (id : UUID) : Option User := rows.find? fun u => u.id == id

def getUserByEmail (rows : List User) (email : String) : Option User :=
  rows.find? fun u => u.email == email

def getUserByUsername (rows : List User) (username : String) : Option User :=
  rows.find? fun u => u.username == username

def addUser (user : User) (rows : List User) : Except Exn (List User) :=
  if rows.any fun u => u.email == user.email || u.username == user.username then
    .error integrityError
  else addRow User.id user rows

def getSession (rows : List RefreshSession) (id : UUID) : Option RefreshSession :=
  rows.find? fun r => r.id == id

def addSession (session : RefreshSession) (rows : List RefreshSession) :
    Except Exn (List RefreshSession) :=
  if rows.any fun r => r.tokenJti == session.tokenJti then .error integrityError
  else addRow RefreshSession.id session rows

/-- The rows that a bulk revocation is about. -/
inductive RevocationScope where
  | user (id : UUID)
  | family (id : UUID)
  deriving DecidableEq

def RevocationScope.covers (scope : RevocationScope) (r : RefreshSession) : Bool :=
  match scope with
  | .user id => r.userId == id
  | .family id => r.tokenFamilyId == id

/-- The `UPDATE` of `revoke_all_for_user` and `revoke_family`. -/
def revokeAll (scope : RevocationScope) (now : Timestamp) (rows : List RefreshSession) :
    List RefreshSession :=
  updateWhere (fun r => scope.covers r && !r.isRevoked) (RefreshSession.revoke now) rows

def revokedCount (scope : RevocationScope) (rows : List RefreshSession) : Nat :=
  rows.countP fun r => scope.covers r && !r.isRevoked

def revokeAllForUser (userId : UUID) (now : Timestamp) (rows : List RefreshSession) :
    List RefreshSession := revokeAll (.user userId) now rows

def revokeFamily (familyId : UUID) (now : Timestamp) (rows : List RefreshSession) :
    List RefreshSession := revokeAll (.family familyId) now rows

def updateSession (id : UUID) (change : RefreshSession → RefreshSession)
    (rows : List RefreshSession) : List RefreshSession :=
  updateWhere (fun r => r.id == id) change rows

end Astra.Auth
