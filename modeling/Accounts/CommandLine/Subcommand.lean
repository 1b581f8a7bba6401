/-!
# Accounts.CommandLine.Subcommand — the subcommands and their options

Five subcommands, of which some take an identifier and some the fields of a user.
-/

namespace Accounts.CommandLine

/-- A subcommand. -/
inductive Subcommand where
  | setUp
  | register
  | view
  | change
  | remove
  deriving DecidableEq

/-- An option with a value. -/
inductive Field where
  | username
  | passwordHash
  | birthDate
  deriving DecidableEq

/-- An option, without its value. -/
inductive Flag where
  | field (field : Field)
  | clearBirthDate
  | help
  deriving DecidableEq

namespace Subcommand

/-- The subcommand of a given name. -/
def ofName? (name : String) : Option Subcommand :=
  if name = "init-schema" then some .setUp
  else if name = "create" then some .register
  else if name = "show" then some .view
  else if name = "update" then some .change
  else if name = "delete" then some .remove
  else none

/-- The subcommand takes an identifier. -/
def takesId : Subcommand → Bool
  | .view | .change | .remove => true
  | .setUp | .register => false

/-- The subcommand writes the fields of a user. -/
def takesFields : Subcommand → Bool
  | .register | .change => true
  | .setUp | .view | .remove => false

/-- The option of a given name that a subcommand has. -/
def flag? (s : Subcommand) (name : String) : Option Flag :=
  if name = "help" then some .help
  else if name = "username" ∧ s.takesFields then some (.field .username)
  else if name = "password-hash" ∧ s.takesFields then some (.field .passwordHash)
  else if name = "birth-date" ∧ s.takesFields then some (.field .birthDate)
  else if name = "clear-birth-date" ∧ s = .change then some .clearBirthDate
  else none

end Subcommand

end Accounts.CommandLine
