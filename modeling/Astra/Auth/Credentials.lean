import Astra.Auth.CurrentUser

/-!
# Credentials

The accounts of a run are what its registrations have left behind.  The user table holds
these and no others, so that a login succeeds for exactly the credentials that open one.
-/

namespace Astra.Auth

open Astra.Foundation Astra.Platform Astra.Persistence

/-! ## Accounts -/

structure Account where
  userId : UUID
  email : String
  username : String
  password : String
  salt : String

structure UserKey where
  id : UUID
  email : String
  username : String
  passwordHash : String

def userKey (u : User) : UserKey where
  id := u.id
  email := u.email
  username := u.username
  passwordHash := u.passwordHash

def Account.key (svc : AuthService) (account : Account) : UserKey where
  id := account.userId
  email := account.email
  username := account.username
  passwordHash := svc.passwordHasher.bcrypt.hashpw account.password account.salt

/-- The credentials open the account. -/
def Account.Opens (svc : AuthService) (account : Account) (request : LoginRequest) : Prop :=
  account.email = normalizeEmail svc.py request.email ∧
    svc.passwordHasher.verify request.password
      (svc.passwordHasher.bcrypt.hashpw account.password account.salt) = true

def DistinctKeys (keys : List UserKey) : Prop :=
  keys.Pairwise fun k k' => k.id ≠ k'.id ∧ k.email ≠ k'.email ∧ k.username ≠ k'.username

section Registration

variable {svc : AuthService} {store store' : AuthStore} {label : AuthLabel} {ids : AuthIds}
  {now : Timestamp} {context : DeviceContext} {response : AuthResponse}

end Registration

section Runs

variable {svc : AuthService} {s t : AuthState} {label : AuthLabel} {labels : List AuthLabel}

end Runs

/-! ## The login -/

section Login

variable {svc : AuthService} {store : AuthStore} {request : LoginRequest} {context : DeviceContext}
  {ids : AuthIds} {now : Timestamp} {user : User}

theorem DistinctKeys.getUserByEmail {users : List User} (h : DistinctKeys (users.map userKey))
    (huser : user ∈ users) : getUserByEmail users user.email = some user := by
  have hemails : (users.map User.email).Nodup := by
    rw [DistinctKeys, List.pairwise_map] at h
    rw [List.Nodup, List.pairwise_map]
    exact h.imp fun hkey => hkey.2.1
  exact find?_key hemails huser

end Login

end Astra.Auth
