import Accounts.Json.Quoted
import Accounts.Text.Decimal

/-!
# Accounts.Json.Record — flat JSON objects

A `Record` is a list of keys with scalar values, in the order in which they are written.  The same
record has a compact text and a pretty one, with a line for each key; `read?` takes both, and any
other spacing of the same tokens.
-/

namespace Accounts.Json

open Accounts.Text

/-- A value without parts. -/
inductive Scalar where
  | null
  | number (value : Int)
  | text (value : String)
  deriving DecidableEq

/-- A scalar as JSON. -/
def Scalar.toChars : Scalar → List Char
  | .null => ['n', 'u', 'l', 'l']
  | .number n => signedDigits n
  | .text s => quote s.toList

/-- Keys and their values, in order. -/
abbrev Record := List (String × Scalar)

namespace Record

/-- A key and its value with `colon` between them. -/
def memberChars (colon : List Char) (member : String × Scalar) : List Char :=
  quote member.1.toList ++ colon ++ member.2.toChars

/-- The record on one line, without white space outside the strings. -/
def compact (r : Record) : List Char :=
  '\x7b' :: [','].intercalate (r.map (memberChars [':'])) ++ ['\x7d']

/-- The record with each member on a line of its own, indented by two spaces. -/
def pretty (r : Record) : List Char :=
  match r with
  | [] => ['\x7b', '\x7d']
  | r =>
    ['\x7b', '\n', ' ', ' '] ++
      [',', '\n', ' ', ' '].intercalate (r.map (memberChars [':', ' '])) ++ ['\n', '\x7d']

end Record

/-! ### Reading -/

/-- What a JSON text of this kind is made of. -/
inductive Token where
  | openBrace
  | closeBrace
  | colon
  | comma
  | scalar (value : Scalar)
  deriving DecidableEq

/-- White space that may stand between tokens. -/
def isSpace (c : Char) : Bool :=
  c = ' ' || c = '\n' || c = '\r' || c = '\t'

/-- The token that a single character makes. -/
def punctuation? : Char → Option Token
  | '\x7b' => some .openBrace
  | '\x7d' => some .closeBrace
  | ':' => some .colon
  | ',' => some .comma
  | _ => none

/-- Splits a text into tokens; `none` if some part of it makes no token. -/
def tokens? (cs : List Char) : Option (List Token) :=
  match cs with
  | [] => some []
  | c :: rest =>
    if isSpace c then tokens? rest
    else if let some token := punctuation? c then (tokens? rest).map (token :: ·)
    else if c = '"' then
      match h : unquote? rest with
      | some (text, after) =>
        have : after.length < rest.length := length_of_unquote? h
        (tokens? after).map (.scalar (.text (String.ofList text)) :: ·)
      | none => none
    else if c = 'n' then
      match rest with
      | 'u' :: 'l' :: 'l' :: after => (tokens? after).map (.scalar .null :: ·)
      | _ => none
    else if c = '-' then do
      let n ← readDigits? (rest.takeWhile Char.isDigit)
      have : (rest.dropWhile Char.isDigit).length ≤ rest.length :=
        (List.dropWhile_suffix _).length_le
      (tokens? (rest.dropWhile Char.isDigit)).map (.scalar (.number (-(n : Int))) :: ·)
    else if c.isDigit then do
      let n ← readDigits? (c :: rest.takeWhile Char.isDigit)
      have : (rest.dropWhile Char.isDigit).length ≤ rest.length :=
        (List.dropWhile_suffix _).length_le
      (tokens? (rest.dropWhile Char.isDigit)).map (.scalar (.number n) :: ·)
    else none
termination_by cs.length
decreasing_by all_goals grind

namespace Record

/-- Reads the members of a record and its closing brace. -/
def members? : List Token → Option Record
  | [.scalar (.text key), .colon, .scalar value, .closeBrace] => some [(key, value)]
  | .scalar (.text key) :: .colon :: .scalar value :: .comma :: rest =>
    (members? rest).map ((key, value) :: ·)
  | _ => none

/-- Reads a record, however its tokens are spaced. -/
def read? (cs : List Char) : Option Record :=
  match tokens? cs with
  | some [.openBrace, .closeBrace] => some []
  | some (.openBrace :: rest) => members? rest
  | _ => none

end Record

end Accounts.Json
