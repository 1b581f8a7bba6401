import Accounts.Database
import Accounts.Json.Record

/-!
# Accounts.Snapshot — a database as a text

A database without its table is the empty text.  Otherwise the first line tells the identifier that
was assigned last, and each further line is a row as a compact JSON record, in the order of
insertion.  Faults are not kept.
-/

namespace Accounts.Snapshot

open Calendar Json

/-- The record of a row, all of it. -/
def rowRecord (r : Row) : Record :=
  [("id", .number r.id), ("username", .text r.username),
    ("birthDate", .ofDate r.birthDate),
    ("passwordHash", .text r.passwordHash), ("createdAt", .text (toString r.createdAt))]

/-- The row that a record tells. -/
def row? : Record → Option Row
  | [("id", .number id), ("username", .text username), ("birthDate", birthDate),
      ("passwordHash", .text passwordHash), ("createdAt", .text createdAt)] => do
    return ⟨id, username, ← birthDate.date?, passwordHash,
      ← Timestamp.read? createdAt.toList⟩
  | _ => none

/-- The record that opens the text of a table. -/
def headRecord (t : Table) : Record :=
  [("lastId", .number t.lastId)]

/-- The last identifier that the first record tells. -/
def lastId? : Record → Option Nat
  | [("lastId", .number (.ofNat n))] => some n
  | _ => none

/-- A record on a line of its own. -/
def lineOf (r : Record) : List Char :=
  r.compact ++ ['\n']

/-- The text of a database. -/
def write (db : Database) : String :=
  match db.table with
  | none => ""
  | some t => String.ofList ((headRecord t :: t.rows.map rowRecord).flatMap lineOf)

/-- The lines of a text, without those that are empty. -/
def linesOf (cs : List Char) : List (List Char) :=
  (cs.splitOn '\n').filter fun line => !line.isEmpty

/-- The database that a text tells, if it is the text of one. -/
def read? (text : String) : Option Database :=
  match linesOf text.toList with
  | [] => some {}
  | head :: rows => do
    let lastId ← (Record.read? head).bind lastId?
    let rows ← rows.mapM fun line => (Record.read? line).bind row?
    return { table := some { rows, lastId } }

end Accounts.Snapshot
