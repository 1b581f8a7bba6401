import Accounts.Plan

/-!
# Accounts.Service — the life of an account

Accounts are registered, looked up, changed and deleted.  Each operation is a `Plan`, so it works
on every store: the early look at the username in `register` spares the store a refused insert, but
the store has the last word.  Every change of an account is noted once the store has made it.
-/

namespace Accounts.Service

open Calendar

/-- Registers a new account, created at the moment `now`. -/
def register (now : Timestamp) (username passwordHash : String) (birthDate : Option Date) :
    Plan User := do
  let rival ← Plan.request (.byName username)
  if rival.isSome then Plan.fail (.conflict "Username")
  else
    let user ← Plan.request (.add (User.unsaved now username passwordHash birthDate))
    Plan.tell (.userRegistered user.id user.username)
    return user

/-- The account with a given identifier. -/
def find (id : Int) : Plan User := do
  let user ← Plan.request (.byId id)
  Plan.ofExcept (found user)

/-- Changes an account; without any change to make, the store is only read. -/
def change (id : Int) (changes : Changes) : Plan User := do
  let user ← find id
  if changes.isEmpty then return user
  else
    let user ← Plan.request (.save (user.change changes))
    Plan.tell (.userUpdated id)
    return user

/-- Deletes an account for good. -/
def remove (id : Int) : Plan Unit := do
  Plan.request (.remove id)
  Plan.tell (.userDeleted id)

/-- Makes the table of users if it is missing. -/
def ensureTable : Plan Unit := do
  Plan.request .createTable
  Plan.tell .schemaEnsured

/-! ### What each operation asks for -/

/-- What is left of a change once the account was looked up. -/
def changeOf (id : Int) (changes : Changes) (user : User) : Plan User :=
  if changes = {} then .done user
  else .ask (.save (user.change changes)) fun user => .note (.userUpdated id) (.done user)

theorem register_eq (now : Timestamp) (username passwordHash : String) (birthDate : Option Date) :
    register now username passwordHash birthDate =
      .ask (.byName username) fun rival =>
        if rival.isSome then .fail (.conflict "Username")
        else .ask (.add (.unsaved now username passwordHash birthDate)) fun user =>
          .note (.userRegistered user.id user.username) (.done user) := rfl

theorem find_eq (id : Int) :
    find id = .ask (.byId id) fun user => user.elim (.fail .notFound) .done := by
  refine congrArg (Plan.ask (.byId id)) (funext fun user => ?_)
  cases user <;> rfl

theorem change_eq (id : Int) (changes : Changes) :
    change id changes =
      .ask (.byId id) fun user => user.elim (.fail .notFound) (changeOf id changes) := by
  refine congrArg (Plan.ask (.byId id)) (funext fun user => ?_)
  cases user with
  | none => rfl
  | some user =>
    simp only [found_some, Plan.ofExcept, Plan.bind_eq, Plan.done_bind, Changes.isEmpty_iff]
    by_cases hempty : changes = {}
    · simp [changeOf, hempty]
    · simp [changeOf, hempty, Plan.request, Plan.tell]

theorem remove_eq (id : Int) :
    remove id = .ask (.remove id) fun _ => .note (.userDeleted id) (.done ()) := rfl

/-! ### The operations as data -/

/-- One of the four operations on accounts. -/
inductive Operation where
  | register (username passwordHash : String) (birthDate : Option Date)
  | find (id : Int)
  | change (id : Int) (changes : Changes)
  | remove (id : Int)
  deriving DecidableEq

/-- The plan of an operation; a deletion answers with no user. -/
def Operation.plan (now : Timestamp) : Operation → Plan (Option User)
  | .register username passwordHash birthDate => do
    return some (← Service.register now username passwordHash birthDate)
  | .find id => do
    return some (← Service.find id)
  | .change id changes => do
    return some (← Service.change id changes)
  | .remove id => do
    Service.remove id
    return none

end Accounts.Service
