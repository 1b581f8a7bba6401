/-!
# Accounts.Json.Quoted — texts between double quotes

`quote` writes a text as a JSON string: a quote, a backslash and every character below U+0020 are
escaped, in the short form where JSON has one, and all other characters stand for themselves.
`unquote?` reads a string up to its closing quote.
-/

namespace Accounts.Json

/-- The letter that follows the backslash in the short escape of a character. -/
def shortEscape? : Char → Option Char
  | '"' => some '"'
  | '\\' => some '\\'
  | '\x08' => some 'b'
  | '\x0c' => some 'f'
  | '\n' => some 'n'
  | '\r' => some 'r'
  | '\t' => some 't'
  | _ => none

/-- The character whose short escape has this letter; a slash may be escaped too. -/
def ofShortEscape? : Char → Option Char
  | '"' => some '"'
  | '\\' => some '\\'
  | '/' => some '/'
  | 'b' => some '\x08'
  | 'f' => some '\x0c'
  | 'n' => some '\n'
  | 'r' => some '\r'
  | 't' => some '\t'
  | _ => none

/-- A character as it stands inside a string. -/
def escape (c : Char) : List Char :=
  match shortEscape? c with
  | some letter => ['\\', letter]
  | none =>
    if c.toNat < 0x20 then
      ['\\', 'u', '0', '0', Nat.digitChar (c.toNat / 16), Nat.digitChar (c.toNat % 16)]
    else [c]

/-- A text as a JSON string, with its quotes. -/
def quote (cs : List Char) : List Char :=
  '"' :: cs.flatMap escape ++ ['"']

/-- The value of a hexadecimal digit of either case. -/
def hexValue? (c : Char) : Option Nat :=
  if c.isDigit then some (c.toNat - '0'.toNat)
  else if 'a' ≤ c ∧ c ≤ 'f' then some (c.toNat - 'a'.toNat + 10)
  else if 'A' ≤ c ∧ c ≤ 'F' then some (c.toNat - 'A'.toNat + 10)
  else none

/-- The character that four hexadecimal digits number; half of a surrogate pair is none. -/
def ofHex? (a b c d : Char) : Option Char := do
  let n := 4096 * (← hexValue? a) + 256 * (← hexValue? b) + 16 * (← hexValue? c) + (← hexValue? d)
  if n.isValidChar then some (Char.ofNat n) else none

/-- Puts a character in front of a text that was read. -/
def consRead (c : Char) (read : List Char × List Char) : List Char × List Char :=
  (c :: read.1, read.2)

/-- Reads a string whose opening quote is already taken: its text, and what follows its closing
quote. -/
def unquote? : List Char → Option (List Char × List Char)
  | [] => none
  | '"' :: rest => some ([], rest)
  | '\\' :: 'u' :: a :: b :: c :: d :: rest => do
    let x ← ofHex? a b c d
    (unquote? rest).map (consRead x)
  | '\\' :: c :: rest => do
    let x ← ofShortEscape? c
    (unquote? rest).map (consRead x)
  | c :: rest => if c.toNat < 0x20 ∨ c = '\\' then none else (unquote? rest).map (consRead c)

theorem length_of_unquote? {cs text rest : List Char} (h : unquote? cs = some (text, rest)) :
    rest.length < cs.length := by
  fun_induction unquote? cs generalizing text with
  | case1 => simp at h
  | case2 => simp_all
  | case3 a b c d cs ih =>
    simp only [Option.bind_eq_bind, Option.bind_eq_some_iff, Option.map_eq_some_iff, consRead,
      Prod.mk.injEq] at h
    obtain ⟨_, _, ⟨t, r⟩, hr, -, rfl⟩ := h
    exact Nat.lt_of_lt_of_le (ih hr) (by simp only [List.length_cons]; omega)
  | case4 c cs _ ih =>
    simp only [Option.bind_eq_bind, Option.bind_eq_some_iff, Option.map_eq_some_iff, consRead,
      Prod.mk.injEq] at h
    obtain ⟨_, _, ⟨t, r⟩, hr, -, rfl⟩ := h
    exact Nat.lt_of_lt_of_le (ih hr) (by simp only [List.length_cons]; omega)
  | case5 => simp at h
  | case6 c cs _ _ _ _ ih =>
    simp only [Option.map_eq_some_iff, consRead, Prod.mk.injEq] at h
    obtain ⟨⟨t, r⟩, hr, -, rfl⟩ := h
    exact Nat.lt_of_lt_of_le (ih hr) (by simp only [List.length_cons]; omega)

end Accounts.Json
