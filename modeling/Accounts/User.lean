import Accounts.Calendar.Timestamp
import Accounts.Failure
import Accounts.Json.Record

/-!
# Accounts.User — user records

A `User` has an identifier once a store has assigned one.  `Changes` lists what an update is to set;
what it does not list stays (`User.change`), and a birth date can also be cleared.  The JSON
texts of a user show all of it but the password hash.
-/

namespace Accounts

open Calendar Json

/-- A user of the system. -/
structure User where
  /-- Assigned by the store; a user without one was never stored. -/
  id : Option Int
  username : String
  birthDate : Option Date
  /-- The digest of the password; nothing here computes it. -/
  passwordHash : String
  createdAt : Timestamp
  deriving DecidableEq

/-- A day as it stands in a record, if there is one. -/
def Json.Scalar.ofDate (date : Option Date) : Scalar :=
  date.elim .null fun d => .text (toString d)

/-- The day that a scalar tells, or that there is none. -/
def Json.Scalar.date? : Scalar → Option (Option Date)
  | .null => some none
  | .text s => (Date.read? s.toList).map some
  | .number _ => none

namespace User

/-- A user that was never stored and has no birth date, created at the moment `now`. -/
def fresh (now : Timestamp) (username passwordHash : String) : User :=
  ⟨none, username, none, passwordHash, now⟩

def setId (u : User) (id : Option Int) : User :=
  { u with id }

def setUsername (u : User) (username : String) : User :=
  { u with username }

def setBirthDate (u : User) (birthDate : Option Date) : User :=
  { u with birthDate }

def setPasswordHash (u : User) (passwordHash : String) : User :=
  { u with passwordHash }

def setCreatedAt (u : User) (createdAt : Timestamp) : User :=
  { u with createdAt }

/-- A user that was never stored, created at the moment `now`. -/
def unsaved (now : Timestamp) (username passwordHash : String) (birthDate : Option Date) : User :=
  ⟨none, username, birthDate, passwordHash, now⟩

theorem unsaved_eq (now : Timestamp) (username passwordHash : String) (birthDate : Option Date) :
    unsaved now username passwordHash birthDate =
      (fresh now username passwordHash).setBirthDate birthDate := rfl

/-- A store has assigned an identifier. -/
def isStored (u : User) : Bool :=
  u.id.isSome

/-- The identifier of a stored user. -/
def storedId (u : User) : Except Invalid Int :=
  match u.id with
  | some id => .ok id
  | none => .error ⟨"User has not been persisted"⟩

/-- A user can be stored only with a password hash. -/
def checkStorable (u : User) : Except Invalid Unit :=
  if u.passwordHash = "" then .error ⟨"Password hash must not be empty"⟩ else .ok ()

/-- What is shown of a user: all but the password hash. -/
def record (u : User) : Record :=
  [("id", u.id.elim .null .number), ("username", .text u.username),
    ("birthDate", .ofDate u.birthDate),
    ("createdAt", .text (toString u.createdAt))]

/-- The user on one line. -/
def compactJson (u : User) : String :=
  String.ofList u.record.compact

/-- The user on a line for each field. -/
def prettyJson (u : User) : String :=
  String.ofList u.record.pretty

end User

/-- The changes that an update makes. -/
structure Changes where
  username : Option String := none
  /-- `some none` clears the birth date. -/
  birthDate : Option (Option Date) := none
  passwordHash : Option String := none
  deriving DecidableEq

namespace Changes

/-- Nothing is to be changed. -/
def isEmpty (c : Changes) : Bool :=
  c.username.isNone && c.birthDate.isNone && c.passwordHash.isNone

theorem isEmpty_iff {c : Changes} : c.isEmpty = true ↔ c = {} := by
  obtain ⟨username, birthDate, passwordHash⟩ := c
  cases username <;> cases birthDate <;> cases passwordHash <;> simp [isEmpty]

end Changes

namespace User

/-- The user with each field set that the changes list, and all else as before. -/
def change (u : User) (c : Changes) : User :=
  { u with
    username := c.username.getD u.username
    birthDate := c.birthDate.getD u.birthDate
    passwordHash := c.passwordHash.getD u.passwordHash }

/-- The listed fields are set one after the other. -/
theorem change_eq_set (u : User) (c : Changes) :
    u.change c =
      let u := c.username.elim u u.setUsername
      let u := c.birthDate.elim u u.setBirthDate
      c.passwordHash.elim u u.setPasswordHash := by
  obtain ⟨_ | username, _ | birthDate, _ | passwordHash⟩ := c <;> rfl

@[simp] theorem change_id (u : User) (c : Changes) : (u.change c).id = u.id := rfl

@[simp] theorem change_createdAt (u : User) (c : Changes) :
    (u.change c).createdAt = u.createdAt := rfl

end User

end Accounts
