/-!
# Accounts.CommandLine.Usage — why a command line is refused

One kind for each way in which a command line can be wrong.  Help that was asked for ends the
reading too, but is no mistake.
-/

namespace Accounts.CommandLine

/-- A mistake in a command line. -/
inductive Usage where
  | missingSubcommand
  | unknownSubcommand
  | unknownArgument
  | missingArgument
  | missingValue
  /-- A value is attached to an option that takes none. -/
  | unexpectedValue
  /-- A value does not read as what the argument stands for. -/
  | invalidValue
  | repeatedArgument
  /-- Two options are given that exclude each other. -/
  | argumentConflict
  | invalidUtf8
  deriving DecidableEq

/-- The name of a kind of mistake. -/
def Usage.name : Usage → String
  | .missingSubcommand => "MissingSubcommand"
  | .unknownSubcommand => "UnknownSubcommand"
  | .unknownArgument => "UnknownArgument"
  | .missingArgument => "MissingArgument"
  | .missingValue => "MissingValue"
  | .unexpectedValue => "UnexpectedValue"
  | .invalidValue => "InvalidValue"
  | .repeatedArgument => "RepeatedArgument"
  | .argumentConflict => "ArgumentConflict"
  | .invalidUtf8 => "InvalidUtf8"

/-- Why a command line leads to no action. -/
inductive Stop where
  | help
  | usage (mistake : Usage)
  deriving DecidableEq

end Accounts.CommandLine
