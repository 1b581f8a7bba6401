import Accounts.User

/-!
# Accounts.Table — the table of users and its statements

Rows carry distinct identifiers, counted from 1 and never given twice, and distinct usernames,
compared character by character.  A statement that fails leaves the table as it was, its counter
included.  `Faults` switch on what can go wrong from outside: rows that vanish, rivals, and failing
statements.
-/

namespace Accounts

open Calendar

/-- A stored user. -/
structure Row where
  id : Int
  username : String
  birthDate : Option Date
  passwordHash : String
  createdAt : Timestamp
  deriving DecidableEq

/-- The user that a row holds. -/
def Row.toUser (r : Row) : User :=
  ⟨some r.id, r.username, r.birthDate, r.passwordHash, r.createdAt⟩

/-- The user of a row as it is put together at the moment `now`: as a new one at first, which is
then given what else the row holds. -/
def Row.toUserAt (now : Timestamp) (r : Row) : User :=
  let u := User.fresh now r.username r.passwordHash
  let u := u.setId (some r.id)
  let u := u.setBirthDate r.birthDate
  u.setCreatedAt r.createdAt

/-- The moment makes no difference. -/
theorem Row.toUserAt_eq (now : Timestamp) (r : Row) : r.toUserAt now = r.toUser := rfl

/-- The row that holds a user under a given identifier. -/
def Row.ofUser (id : Int) (u : User) : Row :=
  ⟨id, u.username, u.birthDate, u.passwordHash, u.createdAt⟩

@[simp] theorem Row.toUser_ofUser (id : Int) (u : User) :
    (Row.ofUser id u).toUser = { u with id := some id } := rfl

/-- What goes wrong with the table, until it is switched off again. -/
structure Faults where
  /-- A row is deleted just before it is written over. -/
  rowsVanish : Bool := false
  /-- A rival with the same username is inserted in front of every insert. -/
  rivalsAppear : Bool := false
  /-- Every insert fails. -/
  insertsFail : Bool := false
  /-- Every writing over a row fails. -/
  updatesFail : Bool := false
  deriving DecidableEq

/-- The name of a fault. -/
inductive Fault where
  | rowsVanish
  | rivalsAppear
  | insertsFail
  | updatesFail
  deriving DecidableEq

/-- Switches a fault on. -/
def Faults.raise (f : Faults) : Fault → Faults
  | .rowsVanish => { f with rowsVanish := true }
  | .rivalsAppear => { f with rivalsAppear := true }
  | .insertsFail => { f with insertsFail := true }
  | .updatesFail => { f with updatesFail := true }

/-- The table of users. -/
structure Table where
  /-- The rows, in the order of their insertion. -/
  rows : List Row := []
  /-- The identifier that was assigned last, or 0. -/
  lastId : Nat := 0
  faults : Faults := {}
  deriving DecidableEq

namespace Table

/-- The row with a given identifier. -/
def byId (t : Table) (id : Int) : Option Row :=
  t.rows.find? fun r => r.id = id

/-- The row with a given username. -/
def byName (t : Table) (username : String) : Option Row :=
  t.rows.find? fun r => r.username = username

/-- The table without the row of a given identifier. -/
def erase (t : Table) (id : Int) : Table :=
  { t with rows := t.rows.filter fun r => r.id ≠ id }

/-- The table with `row` in the place of the row of the same identifier. -/
def replace (t : Table) (row : Row) : Table :=
  { t with rows := t.rows.map fun r => if r.id = row.id then row else r }

/-- The table with a user added under the next identifier. -/
def append (t : Table) (u : User) : Table :=
  { t with rows := t.rows ++ [Row.ofUser (t.lastId + 1) u], lastId := t.lastId + 1 }

/-- The failure of giving two rows the same username. -/
def clash : Failure := .ofWrite .notUnique

/-- A row other than that of `id` holds the username. -/
def isTaken (t : Table) (id : Int) (username : String) : Bool :=
  t.rows.any fun r => r.id ≠ id && r.username = username

/-- Inserts a user as a new row.  A failing insert fails as such, also where it would have been
refused for its username. -/
def insert (t : Table) (u : User) : Except DriverError Row × Table :=
  if t.faults.insertsFail then (.error .aborted, t)
  else if t.faults.rivalsAppear || (t.byName u.username).isSome then (.error .notUnique, t)
  else (.ok (Row.ofUser (t.lastId + 1) u), t.append u)

/-- Writes over the row that has the identifier of `row`.  A row that vanishes is not found, and
stays away; whether the username is taken is asked only of a row that is still there. -/
def save (t : Table) (row : Row) : Except DriverError Row × Table :=
  if t.faults.updatesFail then (.error .aborted, t)
  else if t.faults.rowsVanish then (.error .notUpdated, t.erase row.id)
  else if t.isTaken row.id row.username then (.error .notUnique, t)
  else (.ok row, t.replace row)

/-- Deletes the row of an identifier. -/
def remove (t : Table) (id : Int) : Except Failure Unit × Table :=
  match t.byId id with
  | some _ => (.ok (), t.erase id)
  | none => (.error .notFound, t)

/-! ### The row of an identifier after a change -/

theorem id_of_byId {t : Table} {id : Int} {r : Row} (h : t.byId id = some r) : r.id = id := by
  simpa using List.find?_some h

theorem mem_of_byId {t : Table} {id : Int} {r : Row} (h : t.byId id = some r) : r ∈ t.rows :=
  List.mem_of_find?_eq_some h

theorem byId_append (t : Table) (u : User) (id : Int) :
    (t.append u).byId id =
      (t.byId id).or (if t.lastId + 1 = id then some (Row.ofUser id u) else none) := by
  by_cases h : (t.lastId : Int) + 1 = id
  · subst h
    simp [byId, append, List.find?_append, Row.ofUser]
  · simp [byId, append, List.find?_append, Row.ofUser, h]

theorem byId_erase (t : Table) (id other : Int) :
    (t.erase id).byId other = if other = id then none else t.byId other := by
  split
  · next h =>
    subst h
    simp [byId, erase, List.find?_eq_none]
  · next h =>
    simp only [byId, erase, List.find?_filter]
    congr 1
    funext r
    by_cases hr : r.id = other
    · simp [hr, h]
    · simp [hr]

theorem byId_replace (t : Table) (row : Row) (id : Int) :
    (t.replace row).byId id =
      if id = row.id then (t.byId id).map fun _ => row else t.byId id := by
  obtain ⟨rows, _, _⟩ := t
  simp only [byId, replace]
  induction rows with
  | nil => simp
  | cons r rows ih =>
    simp only [List.map_cons, List.find?_cons]
    by_cases hr : r.id = row.id
    · by_cases hi : id = row.id
      · simp [hr, hi]
      · have hne : ¬ row.id = id := fun e => hi e.symm
        simpa [hr, hi, hne] using ih
    · by_cases hi : id = row.id
      · subst hi
        simpa [hr] using ih
      · by_cases hid : r.id = id
        · simp [hi, hid]
        · simpa [hr, hi, hid] using ih

end Table

end Accounts
