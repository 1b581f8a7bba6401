import Accounts.Database
import Accounts.Location
import Accounts.Settings

/-!
# Accounts.Disk — databases kept in files

Opening a database finds the one that is kept at a location, or an empty one where a new one may be
made.  A file holds all of its database and nothing of another one: `Accounts.Location` says what
this leaves out.
-/

namespace Accounts

/-- The kept databases and the names of their files. -/
abbrev Disk := List (String × Database)

/-- What comes of opening a database. -/
inductive Opening where
  | opened (location : Location) (database : Database)
  /-- There is no such database, or it cannot be reached. -/
  | failed
  /-- The settings allow no connection at all, which nothing is prepared for. -/
  | impossible
  deriving DecidableEq

namespace Disk

/-- The database that is kept under a name. -/
def get? (disk : Disk) (name : String) : Option Database :=
  disk.lookup name

/-- Keeps a database under a name. -/
def set (disk : Disk) (name : String) (db : Database) : Disk :=
  (name, db) :: disk.filter fun entry => entry.1 ≠ name

/-- Opens the database at a location. -/
def openAt (disk : Disk) : Location → Opening
  | .memory => .opened .memory {}
  | .elsewhere | .server => .failed
  | .named name create =>
    match disk.get? name with
    | some db => .opened (.named name create) db
    | none => if create then .opened (.named name create) {} else .failed

/-- Opens the database that settings point to.  An address that names nothing is found out first,
then whether any connection is allowed. -/
def openWith (disk : Disk) (settings : Settings) : Opening :=
  match Location.ofUrl? settings.url with
  | none => .failed
  | some location =>
    if settings.maxConnections = 0 then .impossible else disk.openAt location

/-- Closes a database, which is kept if it has a file. -/
def close (disk : Disk) (location : Location) (db : Database) : Disk :=
  match location with
  | .named name _ => disk.set name db
  | .memory | .elsewhere | .server => disk

end Disk

end Accounts
