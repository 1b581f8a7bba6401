import Accounts.Text.Blank

/-!
# Accounts.DotEnv.Line — the lines of an assignment file

A line of the file goes on over the end of a line of text while a quote is open, or after a
backslash.  A comment runs from a `#` after white space to the end of its line of text, and a line
that starts with `#` holds nothing.
-/

namespace Accounts.DotEnv

open Accounts.Text

/-- Where in a line a reader stands. -/
inductive Position where
  /-- Outside of quotes. -/
  | outside
  /-- Outside of quotes, after white space. -/
  | blank
  /-- After a backslash outside of quotes. -/
  | escape
  | single
  | singleEscape
  | double
  | doubleEscape
  deriving DecidableEq

/-- The position after a character that starts a quote or an escape, or any other one. -/
def Position.enter : Char → Position
  | '\\' => .escape
  | '"' => .double
  | '\'' => .single
  | _ => .outside

/-- The position after a character. -/
def Position.next (p : Position) (c : Char) : Position :=
  match p with
  | .blank => enter c
  | .outside => if isBlank c && c ≠ '\n' && c ≠ '\r' then .blank else enter c
  | .escape => .outside
  | .single => if c = '\\' then .singleEscape else if c = '\'' then .outside else .single
  | .singleEscape => .single
  | .double => if c = '\\' then .doubleEscape else if c = '"' then .outside else .double
  | .doubleEscape => .double

/-- How a line of text ends. -/
inductive LineEnd where
  /-- At this position. -/
  | reached (position : Position)
  /-- In a comment that starts after this many bytes of the line of text. -/
  | comment (offset : Nat)

/-- Walks over a line of text of which `offset` bytes are behind. -/
def lineEnd (p : Position) (offset : Nat) : List Char → LineEnd
  | [] => .reached p
  | c :: cs =>
    if p = .blank ∧ c = '#' then .comment offset else lineEnd (p.next c) (offset + c.utf8Size) cs

/-- The first `n` bytes of a text, or `none` if they end inside a character. -/
def takeBytes? (n : Nat) : List Char → Option (List Char)
  | [] => some []
  | c :: cs =>
    if n = 0 then some []
    else if c.utf8Size ≤ n then (takeBytes? (n - c.utf8Size) cs).map (c :: ·)
    else none

/-- A text without the line break at its end. -/
def dropLineBreak (cs : List Char) : List Char :=
  match cs.reverse with
  | '\n' :: '\r' :: r => r.reverse
  | '\n' :: r => r.reverse
  | _ => cs

/-- The lines of a text, each with its line break. -/
def textLines : List Char → List (List Char)
  | [] => []
  | '\n' :: cs => ['\n'] :: textLines cs
  | c :: cs =>
    match textLines cs with
    | [] => [[c]]
    | line :: rest => (c :: line) :: rest

/-- What an assignment file is made of. -/
inductive Line where
  | text (chars : List Char)
  /-- The file ends within quotes, or after white space or a backslash: its last line is not
  readable. -/
  | unfinished
  /-- A comment whose start, counted from the start of a line that began on an earlier line of
  text, falls into the middle of a character. -/
  | torn
  deriving DecidableEq

/-- The text starts with `#`, apart from white space. -/
def isComment (cs : List Char) : Bool :=
  (skipBlanks cs).head? = some '#'

/-- Joins lines of text; `p` and `before` come from lines of text that belong to the same line.  A
comment is cut off by counting its offset from the start of the whole line. -/
def joinLines (p : Position) (before : List Char) : List (List Char) → List Line
  | [] => if p = .outside then [] else [.unfinished]
  | line :: rest =>
    let whole := before ++ line
    if isComment whole then .text [] :: joinLines .outside [] rest
    else
      match lineEnd p 0 line with
      | .comment offset =>
        match takeBytes? offset whole with
        | some cs => .text cs :: joinLines .outside [] rest
        | none => [.torn]
      | .reached .outside => .text (dropLineBreak whole) :: joinLines .outside [] rest
      | .reached p => joinLines p whole rest

/-- The lines of an assignment file, without a byte order mark. -/
def lines (file : String) : List Line :=
  match file.toList with
  | '\ufeff' :: cs => joinLines .outside [] (textLines cs)
  | cs => joinLines .outside [] (textLines cs)

end Accounts.DotEnv
