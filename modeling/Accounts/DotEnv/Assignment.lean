import Accounts.Text.Alphanumeric
import Accounts.Text.Blank

/-!
# Accounts.DotEnv.Assignment — a name, an equals sign and a value

Values may be bare or between quotes.  Outside of single quotes a backslash escapes the character
after it, and `$NAME` or `${NAME}` stands for the value of a variable.
-/

namespace Accounts.DotEnv

open Accounts.Text

/-- What a reader of a value expects next. -/
inductive Mode where
  | bare
  | single
  | double
  /-- An escaped character. -/
  | escape (quoted : Bool)
  /-- Nothing but white space or a comment. -/
  | closing
  /-- The name of a variable, of which this much was read, last character first. -/
  | name (quoted : Bool) (read : List Char)
  /-- The same between braces. -/
  | braced (quoted : Bool) (read : List Char)
  deriving DecidableEq

/-- Inside or outside of double quotes. -/
def Mode.around (quoted : Bool) : Mode :=
  if quoted then .double else .bare

/-- The character that an escaped character stands for. -/
def ofEscape? (c : Char) : Option Char :=
  if c = '\\' ∨ c = '\'' ∨ c = '"' ∨ c = '$' ∨ c = ' ' then some c
  else if c = 'n' then some '\n'
  else none

/-- The value of a variable whose name was read backwards. -/
def valueOf (lookup : String → String) (read : List Char) : List Char :=
  (lookup (String.ofList read.reverse)).toList

/-- Reads a value.  The name of a variable ends at the first character that is neither a letter nor
a digit, and that character stands for itself, unless it starts the next variable. -/
def value? (lookup : String → String) : Mode → List Char → Option (List Char)
  | .bare, [] | .closing, [] | .escape false, [] => some []
  | .name false read, [] => some (valueOf lookup read)
  | .single, [] | .double, [] | .escape true, [] | .name true _, [] | .braced _ _, [] => none
  | .closing, c :: cs =>
    if c = ' ' ∨ c = '\t' then value? lookup .closing cs
    else if c = '#' then some []
    else none
  | .escape quoted, c :: cs => do
    let e ← ofEscape? c
    (value? lookup (.around quoted) cs).map (e :: ·)
  | .single, c :: cs =>
    if c = '\'' then value? lookup .bare cs else (value? lookup .single cs).map (c :: ·)
  | .name quoted read, c :: cs =>
    if isAlphanumeric c then value? lookup (.name quoted (c :: read)) cs
    else if c = '\x7b' ∧ read = [] then value? lookup (.braced quoted []) cs
    else if c = '$' then (value? lookup (.name quoted []) cs).map (valueOf lookup read ++ ·)
    else (value? lookup (.around quoted) cs).map (valueOf lookup read ++ c :: ·)
  | .braced quoted read, c :: cs =>
    if c = '\x7d' then (value? lookup (.around quoted) cs).map (valueOf lookup read ++ ·)
    else value? lookup (.braced quoted (c :: read)) cs
  | .double, c :: cs =>
    if c = '$' then value? lookup (.name true []) cs
    else if c = '"' then value? lookup .bare cs
    else if c = '\\' then value? lookup (.escape true) cs
    else (value? lookup .double cs).map (c :: ·)
  | .bare, c :: cs =>
    if c = '$' then value? lookup (.name false []) cs
    else if c = '\'' then value? lookup .single cs
    else if c = '"' then value? lookup .double cs
    else if c = '\\' then value? lookup (.escape false) cs
    else if c = ' ' ∨ c = '\t' then value? lookup .closing cs
    else (value? lookup .bare cs).map (c :: ·)

/-- A character that may start a name. -/
def startsName (c : Char) : Bool :=
  c.isAlpha || c = '_'

/-- A character that may go on a name. -/
def continuesName (c : Char) : Bool :=
  c.isAlphanum || c = '_' || c = '.'

/-- Splits off a name and the white space after it. -/
def takeName? (cs : List Char) : Option (List Char × List Char) :=
  match cs with
  | c :: _ =>
    if startsName c then some (cs.takeWhile continuesName, skipBlanks (cs.dropWhile continuesName))
    else none
  | [] => none

/-- Splits off an equals sign. -/
def takeEquals? : List Char → Option (List Char)
  | '=' :: cs => some cs
  | _ => none

/-- Splits off the name that is assigned to and its equals sign.  The word `export` may stand in
front of the name. -/
def takeTarget? (cs : List Char) : Option (List Char × List Char) := do
  let (name, rest) ← takeName? cs
  match takeEquals? rest with
  | some value => return (name, value)
  | none =>
    if name = "export".toList then
      let (name, rest) ← takeName? rest
      let value ← takeEquals? rest
      return (name, value)
    else none

/-- What a line says. -/
inductive Reading where
  | nothing
  | assignment (name value : String)
  | unreadable
  deriving DecidableEq

/-- The text holds nothing, or nothing but a comment. -/
def isVoid (cs : List Char) : Bool :=
  cs.head?.all (· = '#')

/-- Reads a line, given the values of the variables so far. -/
def Reading.ofLine (lookup : String → String) (line : List Char) : Reading :=
  let cs := skipBlanks (dropTrailingBlanks line)
  if isVoid cs then .nothing
  else
    match takeTarget? cs with
    | none => .unreadable
    | some (name, rest) =>
      let rest := skipBlanks rest
      if isVoid rest then .assignment (String.ofList name) ""
      else
        match value? lookup .bare rest with
        | some value => .assignment (String.ofList name) (String.ofList value)
        | none => .unreadable

end Accounts.DotEnv
