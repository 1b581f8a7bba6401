import Accounts.Text.Blank
import Accounts.Text.Decimal

/-!
# Accounts.Calendar.Date — days of the proleptic Gregorian calendar

A `Date` is a real day of a supported year; the calendar has a year 0, before which years are
negative.  `Date.toChars` writes a day, `Date.read?` reads one from free-hand input: short months
and days, and white space around each number, are accepted.
-/

namespace Accounts.Calendar

open Accounts.Text

/-- Every fourth year is a leap year, but of the full centuries only every fourth. -/
def isLeapYear (year : Int) : Bool :=
  year % 4 = 0 && (year % 100 ≠ 0 || year % 400 = 0)

/-- The number of days of a month; no month outside 1 to 12 has any. -/
def daysInMonth (year : Int) (month : Nat) : Nat :=
  match month with
  | 1 | 3 | 5 | 7 | 8 | 10 | 12 => 31
  | 4 | 6 | 9 | 11 => 30
  | 2 => if isLeapYear year then 29 else 28
  | _ => 0

/-- The first supported year. -/
def firstYear : Int := -262143

/-- The last supported year. -/
def lastYear : Int := 262142

/-- The three numbers name a day of a supported year. -/
structure IsDate (year : Int) (month day : Nat) : Prop where
  firstYear_le : firstYear ≤ year
  le_lastYear : year ≤ lastYear
  one_le_day : 1 ≤ day
  le_daysInMonth : day ≤ daysInMonth year month

instance (year : Int) (month day : Nat) : Decidable (IsDate year month day) :=
  decidable_of_iff
    (firstYear ≤ year ∧ year ≤ lastYear ∧ 1 ≤ day ∧ day ≤ daysInMonth year month)
    ⟨fun ⟨a, b, c, d⟩ => ⟨a, b, c, d⟩, fun ⟨a, b, c, d⟩ => ⟨a, b, c, d⟩⟩

/-- A day of the calendar. -/
structure Date where
  year : Int
  month : Nat
  day : Nat
  isDate : IsDate year month day
  deriving DecidableEq

namespace Date

/-- The day that three numbers name, if they name one. -/
def of? (year : Int) (month day : Nat) : Option Date :=
  if h : IsDate year month day then some ⟨year, month, day, h⟩ else none

/-- A year of four digits is written bare; all others carry a sign and at least four digits. -/
def yearChars (year : Int) : List Char :=
  if 0 ≤ year ∧ year ≤ 9999 then paddedDigits 4 year.natAbs
  else (if year < 0 then '-' else '+') :: paddedDigits 4 year.natAbs

/-- Year, month and day with hyphens between them. -/
def toChars (d : Date) : List Char :=
  yearChars d.year ++ '-' :: paddedDigits 2 d.month ++ '-' :: paddedDigits 2 d.day

/-- Splits off the digits at the front, at most `most` of them, and reads them. -/
def takeNumber? (most : Nat) (cs : List Char) : Option (Nat × List Char) :=
  let front := (cs.take most).takeWhile Char.isDigit
  (readDigits? front).map fun n => (n, cs.drop front.length)

/-- Splits off a year: a sign and any number of digits, or one to four digits. -/
def takeYear? : List Char → Option (Int × List Char)
  | '-' :: cs => (takeNumber? cs.length cs).map fun (n, rest) => (-(n : Int), rest)
  | '+' :: cs => (takeNumber? cs.length cs).map fun (n, rest) => ((n : Int), rest)
  | cs => (takeNumber? 4 cs).map fun (n, rest) => ((n : Int), rest)

/-- Splits off a hyphen, with any white space before it. -/
def takeHyphen? (cs : List Char) : Option (List Char) :=
  match skipBlanks cs with
  | '-' :: rest => some rest
  | _ => none

/-- Reads year, month and day, separated by hyphens, whether or not they name a day.  White space
may stand before and after each number, but not between a sign and its digits. -/
def readNumbers? (cs : List Char) : Option (Int × Nat × Nat) := do
  let (year, cs) ← takeYear? (skipBlanks cs)
  let cs ← takeHyphen? cs
  let (month, cs) ← takeNumber? 2 (skipBlanks cs)
  let cs ← takeHyphen? cs
  let (day, cs) ← takeNumber? 2 (skipBlanks cs)
  if skipBlanks cs = [] then some (year, month, day) else none

/-- Reads a day: the three numbers of a text have to name one. -/
def read? (cs : List Char) : Option Date :=
  (readNumbers? cs).bind fun (year, month, day) => of? year month day

instance : ToString Date := ⟨fun d => String.ofList d.toChars⟩

theorem of?_eq_some {d : Date} : of? d.year d.month d.day = some d := by
  simp [of?, d.isDate]

end Date

theorem IsDate.month_mem {year : Int} {month day : Nat} (h : IsDate year month day) :
    1 ≤ month ∧ month ≤ 12 := by
  have h1 := h.one_le_day
  have h2 := h.le_daysInMonth
  by_cases hm : 1 ≤ month ∧ month ≤ 12
  · exact hm
  · have : daysInMonth year month = 0 := by
      unfold daysInMonth
      split <;> first | rfl | omega
    omega

end Accounts.Calendar
