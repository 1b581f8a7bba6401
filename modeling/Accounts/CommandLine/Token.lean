import Accounts.Word

/-!
# Accounts.CommandLine.Token — the parts of a command line

A word that begins with a hyphen is an option, unless it is a lone hyphen.  Two hyphens alone end
the options; what follows an equals sign in a long option is its value.
-/

namespace Accounts.CommandLine

/-- What a word is, as long as options are looked for. -/
inductive Token where
  /-- Two hyphens: only values follow. -/
  | endOfOptions
  /-- Two hyphens and a name, which may have a value attached. -/
  | long (name : String) (value : Option Word)
  /-- A hyphen and the letter that asks for help. -/
  | helpLetter
  /-- An option that no program has. -/
  | stray
  | value (word : Word)
  deriving DecidableEq

namespace Token

/-- The long option that follows two hyphens in a text. -/
def longOfChars (cs : List Char) : Token :=
  let name := String.ofList (cs.takeWhile (· ≠ '='))
  match cs.dropWhile (· ≠ '=') with
  | [] => .long name none
  | _ :: rest => .long name (some (.text (String.ofList rest)))

/-- The long option that follows two hyphens in bytes.  A name that is not ASCII is the name of no
option. -/
def longOfBytes (bytes : List UInt8) : Token :=
  let name := bytes.takeWhile (· ≠ 0x3d)
  if name.all (· < 0x80) then
    match bytes.dropWhile (· ≠ 0x3d) with
    | [] => .stray
    | _ :: rest =>
      .long (String.ofList (name.map fun b => Char.ofNat b.toNat)) (some (.bytes rest))
  else .stray

/-- The token that a text makes. -/
def ofChars (cs : List Char) : Token :=
  match cs with
  | ['-', '-'] => .endOfOptions
  | '-' :: '-' :: rest => longOfChars rest
  | '-' :: 'h' :: _ => .helpLetter
  | '-' :: _ :: _ => .stray
  | cs => .value (.text (String.ofList cs))

/-- The token that bytes make which are not a text. -/
def ofBytes (bytes : List UInt8) : Token :=
  match bytes with
  | 0x2d :: 0x2d :: rest => longOfBytes rest
  | 0x2d :: 0x68 :: _ => .helpLetter
  | 0x2d :: _ :: _ => .stray
  | bytes => .value (.bytes bytes)

/-- The token that a word makes. -/
def ofWord : Word → Token
  | .text s => ofChars s.toList
  | .bytes bs => ofBytes bs

end Token

end Accounts.CommandLine
