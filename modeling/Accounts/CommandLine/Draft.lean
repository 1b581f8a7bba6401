import Accounts.CommandLine.Subcommand
import Accounts.CommandLine.Usage
import Accounts.Text.Decimal
import Accounts.User
import Accounts.Word

/-!
# Accounts.CommandLine.Draft — the arguments of a subcommand

A `Draft` collects the arguments of a subcommand while they are read.  Every argument is given at
most once and is read when it is taken into the draft.
-/

namespace Accounts.CommandLine

open Calendar Text

/-- The identifier of a user, which has 64 bits. -/
def readId? (s : String) : Option Int :=
  readSigned? (-9223372036854775808) 9223372036854775807 s.toList

/-- The arguments of a subcommand as far as they are read. -/
structure Draft where
  id : Option Int := none
  username : Option String := none
  passwordHash : Option String := none
  birthDate : Option Date := none
  clearBirthDate : Bool := false
  deriving DecidableEq

/-- The text of a word. -/
def textOf (w : Word) : Except Usage String :=
  match w with
  | .text s => .ok s
  | .bytes _ => .error .invalidUtf8

/-- A value that a reader made, or the mistake that it made none. -/
def valid {α : Type} : Option α → Except Usage α
  | some a => .ok a
  | none => .error .invalidValue

namespace Draft

/-- The option is in the draft. -/
def has (d : Draft) : Field → Bool
  | .username => d.username.isSome
  | .passwordHash => d.passwordHash.isSome
  | .birthDate => d.birthDate.isSome

/-- Reads the value of an option into the draft. -/
def put (d : Draft) (f : Field) (value : String) : Except Usage Draft :=
  match f with
  | .username => .ok { d with username := some value }
  | .passwordHash => .ok { d with passwordHash := some value }
  | .birthDate => do
    let date ← valid (Date.read? value.toList)
    return { d with birthDate := some date }

/-- Takes an option with its value into the draft. -/
def takeField (d : Draft) (f : Field) (value : Word) : Except Usage Draft :=
  if d.has f then .error .repeatedArgument
  else do
    let value ← textOf value
    d.put f value

/-- Takes the option that clears the birth date into the draft. -/
def takeClear (d : Draft) : Except Usage Draft :=
  if d.clearBirthDate then .error .repeatedArgument else .ok { d with clearBirthDate := true }

/-- Takes an identifier into the draft. -/
def takeId (d : Draft) (value : Word) : Except Usage Draft := do
  let text ← textOf value
  let id ← valid (readId? text)
  return { d with id := some id }

end Draft

end Accounts.CommandLine
