import Accounts.Json.Quoted
import Accounts.Word

/-!
# Accounts.Location — where a database is kept

An address names a database that lasts as long as it is open, a file, or a server.  Files are those
of one directory, which holds no directories and may be written to: `ofPath` drops what leads
nowhere from a path and refuses what leads out of the directory.  The name of a file may hide behind
per cent signs.

Two things that a path can do are left out.  It is never followed upwards, not even back to the same
directory, and a file that is kept beside another one under its name and an ending, as journals are,
counts as a file like all others.  Of the ways to open a file only those below are read.
-/

namespace Accounts

/-- Where a database is kept. -/
inductive Location where
  /-- Nowhere: it starts empty and is gone when it is closed. -/
  | memory
  /-- In a file of the directory; one that is missing is made only if `create` is set. -/
  | named (name : String) (create : Bool)
  /-- On a path that leads to no file of the directory. -/
  | elsewhere
  /-- On a server. -/
  | server
  deriving DecidableEq

namespace Location

/-- What follows a given beginning of a text. -/
def afterStart? (start cs : List Char) : Option (List Char) :=
  if start.isPrefixOf cs then some (cs.drop start.length) else none

/-- Two slashes may stand in front of a name, which then holds no colon. -/
def dropSlashes? : List Char → Option (List Char)
  | '/' :: '/' :: cs => if ':' ∈ cs then none else some cs
  | cs => some cs

/-- The bytes of a text in which a per cent sign and two hexadecimal digits stand for a byte. -/
def percentDecode : List Char → List UInt8
  | '%' :: a :: b :: cs =>
    match Json.hexValue? a, Json.hexValue? b with
    | some m, some n => UInt8.ofNat (16 * m + n) :: percentDecode cs
    | _, _ => String.utf8EncodeChar '%' ++ percentDecode (a :: b :: cs)
  | c :: cs => String.utf8EncodeChar c ++ percentDecode cs
  | [] => []

/-- The parts of a path that lead on: neither an empty part nor a dot does. -/
def parts (path : List Char) : List (List Char) :=
  (path.splitOn '/').filter fun part => part ≠ [] ∧ part ≠ ['.']

/-- The greatest number of bytes in the name of a database: names of files have at most 255, and a
journal with eight more must find a place beside it. -/
def nameBound : Nat := 247

/-- A part of a path that can be the name of a file with a database. -/
def canName (part : List Char) : Bool :=
  part ≠ ['.', '.'] && '\x00' ∉ part && (bytesOf (String.ofList part)).length ≤ nameBound

/-- The location that a path leads to; no path, or `:memory:`, leads nowhere. -/
def ofPath (path : String) (create : Bool) : Location :=
  if path = "" ∨ path = ":memory:" then .memory
  else if path.toList.head? = some '/' then .elsewhere
  else
    match parts path.toList with
    | [name] => if canName name then .named (String.ofList name) create else .elsewhere
    | _ => .elsewhere

/-- The location of a path as it stands in an address, provided that its bytes make a text. -/
def ofName? (name : List Char) (create : Bool) : Option Location :=
  (Word.ofBytes (percentDecode name)).text?.map fun path => ofPath path create

/-- The location that follows the scheme of a kept database: a path and a way to open it. -/
def ofFile? (file : List Char) : Option Location :=
  let name := file.takeWhile (· ≠ '?')
  match file.dropWhile (· ≠ '?') with
  | [] => ofName? name false
  | _ :: mode =>
    if mode = "mode=rwc".toList then ofName? name true
    else if mode = "mode=rw".toList then ofName? name false
    else none

/-- The location that an address names, if it names one. -/
def ofUrl? (url : String) : Option Location :=
  match afterStart? "sqlite:".toList url.toList with
  | some file => (dropSlashes? file).bind ofFile?
  | none =>
    if (afterStart? "postgres://".toList url.toList).isSome ||
        (afterStart? "postgresql://".toList url.toList).isSome then some .server
    else none

end Location

end Accounts
