import Accounts.CommandLine.Draft
import Accounts.CommandLine.Token

/-!
# Accounts.CommandLine.Progress — the arguments of a subcommand, one after the other

The words after a subcommand are taken from left to right.  A value is read only when the next
argument of the subcommand, a call for help or the end of the line comes after it, so a word that
is no argument at all is found out before a bad value in front of it.
-/

namespace Accounts.CommandLine

/-- The argument that was begun last and is not yet read. -/
inductive Pending where
  | none
  /-- An option whose value has not come yet. -/
  | option (field : Field)
  | value (field : Field) (word : Word)
  | id (word : Word)
  deriving DecidableEq

/-- The state of reading a subcommand's arguments. -/
structure Progress where
  draft : Draft := {}
  pending : Pending := .none
  /-- An identifier has been given. -/
  hasId : Bool := false
  deriving DecidableEq

namespace Progress

/-- Reads the argument that was begun last. -/
def settle (p : Progress) : Except Usage Draft :=
  match p.pending with
  | .none => .ok p.draft
  | .option _ => .error .missingValue
  | .value f w => p.draft.takeField f w
  | .id w => p.draft.takeId w

/-- Takes a word that is no option and no option's value. -/
def positional (s : Subcommand) (p : Progress) (w : Word) : Except Usage Progress :=
  if !s.takesId || p.hasId then .error .unknownArgument
  else do
    let d ← p.settle
    return { draft := d, pending := .id w, hasId := true }

/-- Takes a word that is no option: the value that an option waits for, or a positional one. -/
def word (s : Subcommand) (p : Progress) (w : Word) : Except Usage Progress :=
  match p.pending with
  | .option f => .ok { p with pending := .value f w }
  | _ => p.positional s w

/-- Takes a field's option, with the value that is attached to it, if any. -/
def field (p : Progress) (f : Field) (value : Option Word) : Except Usage Progress := do
  let d ← p.settle
  match value with
  | some w =>
    let d ← d.takeField f w
    return { p with draft := d, pending := .none }
  | none => return { p with draft := d, pending := .option f }

/-- Takes the option that clears the birth date. -/
def clear (p : Progress) : Except Usage Progress := do
  let d ← p.settle
  let d ← d.takeClear
  return { p with draft := d, pending := .none }

/-- Gives help, unless the argument that was begun last is wrong. -/
def help (p : Progress) : Stop :=
  match p.settle with
  | .ok _ => .help
  | .error u => .usage u

/-- Takes a long option. -/
def long (s : Subcommand) (p : Progress) (name : String) (value : Option Word) :
    Except Stop Progress :=
  match s.flag? name, value with
  | none, _ => .error (.usage .unknownArgument)
  | some (.field f), value => (p.field f value).mapError .usage
  | some .clearBirthDate, none => p.clear.mapError .usage
  | some .help, none => .error p.help
  | some .clearBirthDate, some _ | some .help, some _ => .error (.usage .unexpectedValue)

end Progress

end Accounts.CommandLine
