import Accounts.Failure
import Accounts.Schema
import Accounts.Text.Visible

/-!
# Accounts.Event — what the program notes while it works

An `Event` is a line of the journal: a level, the part of the program that speaks, a message and
named values.  Changes to accounts and failures that are kept from the person who asked are noted.
-/

namespace Accounts

open Text

/-- Something worth noting. -/
inductive Event where
  | databaseConnected
  | schemaEnsured
  /-- The table was asked for and is there. -/
  | tableReady
  /-- A user was added, with the identifier that came back from the store. -/
  | userRegistered (id : Option Int) (username : String)
  | userUpdated (id : Int)
  | userDeleted (id : Int)
  /-- The request to delete a user was carried out. -/
  | deletionDone (id : Int)
  /-- A database failure was reported. -/
  | databaseFailed {cause : DriverError}
  /-- An internal failure was reported. -/
  | internalFailed (detail : String)
  deriving DecidableEq

/-- A value that an event names. -/
inductive Event.Value where
  /-- A text, which stands between quotes in a line. -/
  | text (value : String)
  /-- A number or a word, which stands bare. -/
  | bare (value : String)
  deriving DecidableEq

namespace Event

/-- The value without quotes. -/
def Value.raw : Value → String
  | .text s | .bare s => s

/-- The value as it stands in a line. -/
def Value.shown : Value → String
  | .text s => quoteVisible s
  | .bare s => s

/-- An identifier that may not have been assigned. -/
def idValue : Option Int → Value
  | some id => .bare ("Some(" ++ toString id ++ ")")
  | none => .bare "None"

/-- Failures are errors, all else is information. -/
def level : Event → String
  | .databaseFailed | .internalFailed _ => "ERROR"
  | _ => "INFO"

/-- The part of the program that speaks. -/
def target : Event → String
  | .databaseConnected | .schemaEnsured => "user_service_lib::infra::db"
  | .tableReady | .deletionDone _ => "user_service_lib"
  | .userRegistered _ _ | .userUpdated _ | .userDeleted _ =>
    "user_service_lib::service::user_service"
  | .databaseFailed | .internalFailed _ => "common::error"

/-- What happened, in words. -/
def message : Event → String
  | .databaseConnected => "Database connected"
  | .schemaEnsured => "Schema ensured"
  | .tableReady => "User table ready"
  | .userRegistered _ _ => "User registered"
  | .userUpdated _ => "User updated"
  | .userDeleted _ => "User deleted"
  | .deletionDone _ => "Deleted"
  | .databaseFailed => "Database error:"
  | .internalFailed detail => "Internal error: " ++ detail

/-- What happened, in words, down to the cause of a database failure, for which the driver has its
own words. -/
def text (words : DriverError → String) (e : Event) : String :=
  match e with
  | @databaseFailed cause => e.message ++ " " ++ words cause
  | e => e.message

/-- The message is how the whole text begins. -/
theorem message_prefix_text (words : DriverError → String) (e : Event) :
    e.message.toList <+: (e.text words).toList := by
  unfold text
  split
  · rw [String.toList_append, String.toList_append, List.append_assoc]
    exact List.prefix_append _ _
  · exact List.prefix_refl _

/-- The named values, in the order in which they are noted. -/
def fields : Event → List (String × Value)
  | .databaseConnected => [("backend", .bare "Sqlite")]
  | .schemaEnsured => [("table", .text Schema.tableName)]
  | .userRegistered id username => [("user_id", idValue id), ("username", .text username)]
  | .userUpdated id | .userDeleted id | .deletionDone id => [("user_id", .bare (toString id))]
  | .tableReady | .databaseFailed | .internalFailed _ => []

/-- The event as a line of the journal. -/
def line (e : Event) : String :=
  e.level ++ " " ++ e.target ++ ": " ++ e.message ++
    String.join (e.fields.map fun (name, value) => " " ++ name ++ "=" ++ value.shown)

end Event

/-- What is noted when a failure is reported: the causes that its message leaves out. -/
def Failure.events : Failure → List Event
  | .database cause => [@Event.databaseFailed cause]
  | .internal detail => [.internalFailed detail]
  | .notFound | .conflict _ | .validation _ => []

end Accounts
