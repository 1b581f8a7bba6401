/-!
# Accounts.Failure — why a request could not be met

Every operation on accounts ends with a value or a `Failure`.  A failure has a code, a message for
the person who asked, which keeps internal causes to itself, and a description for whoever runs the
program.
-/

namespace Accounts

/-- What the driver of a database can report. -/
inductive DriverError where
  /-- There is no database, or no connection to it. -/
  | unreachable
  /-- The statement works on a table that is missing. -/
  | noTable
  /-- The statement would give two rows the same username. -/
  | notUnique
  /-- The row to write over is not there. -/
  | notUpdated
  /-- The database gave the statement up. -/
  | aborted
  /-- Anything else, in the driver's own words. -/
  | other (words : String)
  deriving DecidableEq

/-- The reason why a request could not be met. -/
inductive Failure where
  /-- There is no such user. -/
  | notFound
  /-- What the request would add is there already. -/
  | conflict (subject : String)
  /-- The request itself is not acceptable. -/
  | validation (reason : String)
  /-- The database could not be reached or refused a statement. -/
  | database (cause : DriverError := .other "")
  /-- Something else went wrong. -/
  | internal (detail : String)
  deriving DecidableEq

namespace Failure

/-- A word for the kind of failure, for programs that read the answer. -/
def code : Failure → String
  | .notFound => "NOT_FOUND"
  | .conflict _ => "CONFLICT"
  | .validation _ => "VALIDATION_ERROR"
  | .database _ => "DATABASE_ERROR"
  | .internal _ => "INTERNAL_ERROR"

/-- The description for whoever runs the program. -/
def description : Failure → String
  | .notFound => "Resource not found"
  | .conflict subject => subject ++ " already exists"
  | .validation reason => reason
  | .database _ => "Database error"
  | .internal _ => "Internal server error"

/-- The text says of something that it already exists. -/
def saysExists (text : String) : Bool :=
  "already exists".toList.isSuffixOf text.toList

/-- The message for the person who asked.  A conflict whose subject already says that it exists is
not told so twice. -/
def message : Failure → String
  | .notFound => "Resource not found"
  | .conflict subject => if saysExists subject then subject else subject ++ " already exists"
  | .validation reason => reason
  | .database _ => "A database error occurred"
  | .internal _ => "An internal error occurred"

/-- The text that the failure carries, if it carries one. -/
def detail? : Failure → Option String
  | .conflict text | .validation text | .internal text => some text
  | .notFound | .database _ => none

/-- The failure of a statement that writes a user.  A row that is gone is a user that is not there,
and only usernames can be given twice; any other cause is kept. -/
def ofWrite : DriverError → Failure
  | .notUpdated => .notFound
  | .notUnique => .conflict "Username"
  | cause => .database cause

theorem ofWrite_eq_database_iff {e cause : DriverError} :
    ofWrite e = .database cause ↔ e = cause ∧ e ≠ .notUpdated ∧ e ≠ .notUnique := by
  cases e <;> simp [ofWrite]

end Failure

/-- The value that was looked for, or the failure of not finding it. -/
def found {α : Type} : Option α → Except Failure α
  | some a => .ok a
  | none => .error .notFound

@[simp] theorem found_some {α : Type} (a : α) : found (some a) = .ok a := rfl

@[simp] theorem found_none {α : Type} : found (none : Option α) = .error .notFound := rfl

/-- A user that breaks a rule for users. -/
structure Invalid where
  reason : String
  deriving DecidableEq

/-- The rule that is broken, in words. -/
def Invalid.description (i : Invalid) : String :=
  "Validation error: " ++ i.reason

/-- A request about an invalid user is not acceptable. -/
def Invalid.toFailure (i : Invalid) : Failure :=
  .validation i.reason

end Accounts
