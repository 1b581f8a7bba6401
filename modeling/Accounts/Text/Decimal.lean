/-!
# Accounts.Text.Decimal — whole numbers in decimal digits

Writing with a least width and reading under a bound.  A reader takes the whole text or nothing: a
number is an optional sign followed by one or more ASCII digits, with any number of leading zeros.
-/

namespace Accounts.Text

/-- The decimal digits of `n`, without a sign and without leading zeros. -/
def digits (n : Nat) : List Char :=
  Nat.toDigits 10 n

/-- The decimal digits of `n`, filled up with zeros on the left to at least `width` digits. -/
def paddedDigits (width n : Nat) : List Char :=
  (digits n).leftpad width '0'

/-- A whole number, with a minus sign if it is negative. -/
def signedDigits : Int → List Char
  | .ofNat n => digits n
  | .negSucc n => '-' :: digits (n + 1)

/-- The number that a nonempty run of ASCII digits denotes. -/
def readDigits? (cs : List Char) : Option Nat :=
  if cs ≠ [] ∧ cs.all Char.isDigit then some (Nat.ofDigitChars 10 cs 0) else none

/-- Reads an optional `+` and digits that denote a number of at most `bound`. -/
def readUnsigned? (bound : Nat) (cs : List Char) : Option Nat :=
  let number := match cs with
    | '+' :: ds => readDigits? ds
    | ds => readDigits? ds
  number.filter (· ≤ bound)

/-- Reads an optional sign and digits that denote a number from `least` to `greatest`. -/
def readSigned? (least greatest : Int) (cs : List Char) : Option Int :=
  let number : Option Int := match cs with
    | '-' :: ds => (readDigits? ds).map fun n => -(n : Int)
    | '+' :: ds => (readDigits? ds).map Int.ofNat
    | ds => (readDigits? ds).map Int.ofNat
  number.filter fun n => least ≤ n && n ≤ greatest

theorem digits_ne_nil (n : Nat) : digits n ≠ [] :=
  Nat.toDigits_ne_nil

theorem isDigit_of_mem_digits {n : Nat} {c : Char} (h : c ∈ digits n) : c.isDigit = true :=
  Nat.isDigit_of_mem_toDigits (by decide) (by decide) h

theorem readDigits?_digits (n : Nat) : readDigits? (digits n) = some n := by
  have h : (digits n).all Char.isDigit = true := List.all_eq_true.2 fun _ => isDigit_of_mem_digits
  rw [readDigits?, if_pos ⟨digits_ne_nil n, h⟩, digits, Nat.ofDigitChars_ten_toDigits]

end Accounts.Text
