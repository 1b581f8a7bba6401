import Accounts.Request
import Accounts.Schema
import Accounts.Table

/-!
# Accounts.Database — the store of users that is kept in a table

A `Database` may lack the table of users, and then every statement that needs the table fails.
What a request asks is checked first: a user to be created must be new, one to be updated must have
been stored, and both need a password hash.
-/

namespace Accounts

/-- A database, which holds at most the one table. -/
structure Database where
  table : Option Table := none
  deriving DecidableEq

namespace Database

/-- A user that may be stored for the first time. -/
def checkNew (u : User) : Except Failure Unit :=
  if u.isStored then .error (.validation "User is already persisted")
  else u.checkStorable.mapError Invalid.toFailure

/-- The identifier of a user that may be stored again. -/
def checkStored (u : User) : Except Failure Int := do
  let id ← u.storedId.mapError Invalid.toFailure
  u.checkStorable.mapError Invalid.toFailure
  return id

/-- Carries out a statement on the table. -/
def onTable {α : Type} (db : Database) (statement : Table → Except Failure α × Table) :
    Except Failure α × Database :=
  match db.table with
  | none => (.error (.database .noTable), db)
  | some t => ((statement t).1, ⟨some (statement t).2⟩)

/-- Stores a new user. -/
def add (db : Database) (u : User) : Except Failure User × Database :=
  match checkNew u with
  | .error f => (.error f, db)
  | .ok () => db.onTable fun t =>
    (((t.insert u).1.mapError .ofWrite).map Row.toUser, (t.insert u).2)

/-- Looks a user up by its identifier. -/
def byId (db : Database) (id : Int) : Except Failure (Option User) × Database :=
  db.onTable fun t => (.ok ((t.byId id).map Row.toUser), t)

/-- Looks a user up by its username. -/
def byName (db : Database) (username : String) :
    Except Failure (Option User) × Database :=
  db.onTable fun t => (.ok ((t.byName username).map Row.toUser), t)

/-- Writes over the row of a stored user, provided there is one. -/
def save (db : Database) (u : User) : Except Failure User × Database :=
  match checkStored u with
  | .error f => (.error f, db)
  | .ok id => db.onTable fun t =>
    match t.byId id with
    | none => (.error .notFound, t)
    | some _ =>
      (((t.save (Row.ofUser id u)).1.mapError .ofWrite).map Row.toUser,
        (t.save (Row.ofUser id u)).2)

/-- Deletes a stored user. -/
def remove (db : Database) (id : Int) : Except Failure Unit × Database :=
  db.onTable fun t => t.remove id

/-- Makes the table if it is missing; one that is there keeps all it holds. -/
def createTable (db : Database) : Database :=
  ⟨some (db.table.getD {})⟩

/-- Removes the table, and with it its counter and its faults. -/
def dropTable (_ : Database) : Database :=
  {}

/-- Switches a fault of the table on. -/
def raise (db : Database) (fault : Fault) : Except Failure Unit × Database :=
  db.onTable fun t => (.ok (), { t with faults := t.faults.raise fault })

/-- Switches all faults off. -/
def clearFaults (db : Database) : Database :=
  ⟨db.table.map fun t => { t with faults := {} }⟩

/-- The columns of the table, if it is there. -/
def columns (db : Database) : List Schema.Column :=
  match db.table with
  | none => []
  | some _ => Schema.columns

/-- The database as a store of users. -/
def store : Store Database
  | .add u, db => db.add u
  | .byId id, db => db.byId id
  | .byName username, db => db.byName username
  | .save u, db => db.save u
  | .remove id, db => db.remove id
  | .createTable, db => (.ok (), db.createTable)

end Database

end Accounts
