import Accounts.DotEnv.Assignment
import Accounts.DotEnv.Line
import Accounts.Environment

/-!
# Accounts.DotEnv — variables from an assignment file

A file of assignments fills in the variables that the environment does not set to a text.  The
first line that cannot be read ends the file; what was assigned before stays.
-/

namespace Accounts.DotEnv

/-- The value of a variable: from the environment, or else from the latest earlier assignment. -/
def valueIn (env : Environment) (assigned : List (String × String)) (name : String) : String :=
  ((env.text? name).or (assigned.lookup name)).getD ""

/-- Fills in the variables that the lines assign; `assigned` holds the earlier assignments, whether
or not they had an effect.  There is no result if a line is torn or a value cannot be put into an
environment because it holds a NUL. -/
def fill? (env : Environment) (assigned : List (String × String)) : List Line → Option Environment
  | [] => some env
  | .unfinished :: _ => some env
  | .torn :: _ => none
  | .text line :: rest =>
    match Reading.ofLine (valueIn env assigned) line with
    | .nothing => fill? env assigned rest
    | .unreadable => some env
    | .assignment name value =>
      if (env.text? name).isSome then fill? env ((name, value) :: assigned) rest
      else if '\x00' ∈ value.toList then none
      else fill? (env.set name (.text value)) ((name, value) :: assigned) rest

/-- Fills in the variables that a file assigns. -/
def load? (file : String) (env : Environment) : Option Environment :=
  fill? env [] (lines file)

end Accounts.DotEnv
