import Accounts.Action
import Accounts.CommandLine.Progress
import Accounts.Environment

/-!
# Accounts.CommandLine — from words to an action

The first word names a subcommand and the others are its arguments.  The first mistake counts;
arguments that exclude each other and missing ones are looked for at the end.
-/

namespace Accounts.CommandLine

open Calendar

/-- Takes words none of which is an option. -/
def readValues (s : Subcommand) (p : Progress) : List Word → Except Stop Progress
  | [] => .ok p
  | w :: ws => do
    let p ← (p.positional s w).mapError .usage
    readValues s p ws

/-- Takes the words that follow a subcommand. -/
def readWords (s : Subcommand) (p : Progress) : List Word → Except Stop Progress
  | [] => .ok p
  | w :: ws =>
    match Token.ofWord w with
    | .endOfOptions => readValues s p ws
    | .helpLetter => .error p.help
    | .stray => .error (.usage .unknownArgument)
    | .long name value => do
      let p ← p.long s name value
      readWords s p ws
    | .value w => do
      let p ← (p.word s w).mapError .usage
      readWords s p ws

/-- The variable that supplies the password hash of a new user. -/
def passwordHashVariable : String := "USER_PASSWORD_HASH"

/-- A new user's password hash, if it was not given, is looked up in the environment. -/
def fillPasswordHash (env : Environment) (d : Draft) : Except Usage Draft :=
  match d.passwordHash, env.get? passwordHashVariable with
  | none, some w => do
    let hash ← textOf w
    return { d with passwordHash := some hash }
  | _, _ => .ok d

/-- The change of a birth date that an update asks for. -/
def birthDateChange (d : Draft) : Option (Option Date) :=
  if d.clearBirthDate then some none else d.birthDate.map some

/-- An argument that has to be there. -/
def required {α : Type} : Option α → Except Usage α
  | some a => .ok a
  | none => .error .missingArgument

/-- The action that a subcommand and its arguments make. -/
def actionOf (env : Environment) (s : Subcommand) (d : Draft) : Except Usage Action :=
  match s with
  | .setUp => .ok .setUp
  | .register => do
    let d ← fillPasswordHash env d
    return .register (← required d.username) (← required d.passwordHash) d.birthDate
  | .view => return .view (← required d.id)
  | .change =>
    if d.clearBirthDate && d.birthDate.isSome then .error .argumentConflict
    else return .change (← required d.id) ⟨d.username, birthDateChange d, d.passwordHash⟩
  | .remove => return .remove (← required d.id)

/-- The action that a subcommand and the words after it make. -/
def readSubcommand (env : Environment) (s : Subcommand) (ws : List Word) : Except Stop Action := do
  let p ← readWords s {} ws
  let d ← p.settle.mapError Stop.usage
  (actionOf env s d).mapError Stop.usage

/-- The name of the subcommand that gives help. -/
def helpName : String := "help"

/-- Help may be asked for on the whole program, on a subcommand, or on help itself. -/
def readHelp : List Word → Stop
  | [] => .help
  | [.text name] =>
    if (Subcommand.ofName? name).isSome || name = helpName then .help
    else .usage .unknownSubcommand
  | _ => .usage .unknownSubcommand

/-- What a first word stands for that names no subcommand. -/
def readStart (w : Word) (ws : List Word) : Stop :=
  match Token.ofWord w with
  | .endOfOptions =>
    match ws with
    | [] => .usage .missingSubcommand
    | .text name :: _ =>
      if (Subcommand.ofName? name).isSome || name = helpName then .usage .unknownArgument
      else .usage .unknownSubcommand
    | .bytes _ :: _ => .usage .unknownSubcommand
  | .helpLetter => .help
  | .long name value =>
    if name = helpName then (if value.isSome then .usage .unexpectedValue else .help)
    else .usage .unknownArgument
  | .stray => .usage .unknownArgument
  | .value _ => .usage .unknownSubcommand

/-- The action that a command line asks for, or why there is none. -/
def read (env : Environment) : List Word → Except Stop Action
  | [] => .error (.usage .missingSubcommand)
  | w :: ws =>
    match w with
    | .text name =>
      match Subcommand.ofName? name with
      | some s => readSubcommand env s ws
      | none => if name = helpName then .error (readHelp ws) else .error (readStart w ws)
    | .bytes _ => .error (readStart w ws)

end Accounts.CommandLine
