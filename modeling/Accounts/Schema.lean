/-!
# Accounts.Schema — how users are laid out in the database

One table with a row per user.  The widths of the text columns are declared but nothing enforces
them: a longer text is stored whole.
-/

namespace Accounts.Schema

/-- The table that holds the users. -/
def tableName : String := "APP_USER"

/-- A column of the table. -/
structure Column where
  name : String
  /-- Every row has a value here. -/
  isRequired : Bool := true
  /-- The value identifies the row. -/
  isKey : Bool := false
  deriving DecidableEq

def idColumn : Column := { name := "id", isKey := true }

/-- No two rows hold the same username. -/
def usernameColumn : Column := { name := "username" }

def birthDateColumn : Column := { name := "birth_date", isRequired := false }

def passwordHashColumn : Column := { name := "PASSWORD" }

def createdAtColumn : Column := { name := "created_at" }

/-- All columns, in order. -/
def columns : List Column :=
  [idColumn, usernameColumn, birthDateColumn, passwordHashColumn, createdAtColumn]

/-- The declared width of a username, in characters. -/
def usernameWidth : Nat := 100

/-- The declared width of a password hash, in characters. -/
def passwordHashWidth : Nat := 255

end Accounts.Schema
