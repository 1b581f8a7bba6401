import Accounts.Calendar.Date

/-!
# Accounts.Calendar.Timestamp — a day and a time of day, to the nanosecond

A `Timestamp` carries no time zone.  The last second of a minute may last two seconds: the
nanoseconds past the first of them count on from one billion, and the written second is then 60.
Only the last second is stretched here (`IsTime`).  A moment that is put together from its parts
could be stretched in any other one too, and would then be written like one in the second after it.
-/

namespace Accounts.Calendar

open Accounts.Text

/-- The number of nanoseconds in a second. -/
def nanosPerSecond : Nat := 1000000000

/-- The four numbers name a time of day, which may lie in a leap second, but only in the last second
of a minute. -/
structure IsTime (hour minute second nano : Nat) : Prop where
  hour_lt : hour < 24
  minute_lt : minute < 60
  second_lt : second < 60
  nano_lt : nano < if second = 59 then 2 * nanosPerSecond else nanosPerSecond

instance (hour minute second nano : Nat) : Decidable (IsTime hour minute second nano) :=
  decidable_of_iff
    (hour < 24 ∧ minute < 60 ∧ second < 60 ∧
      nano < if second = 59 then 2 * nanosPerSecond else nanosPerSecond)
    ⟨fun ⟨a, b, c, d⟩ => ⟨a, b, c, d⟩, fun ⟨a, b, c, d⟩ => ⟨a, b, c, d⟩⟩

/-- A moment of a day. -/
structure Timestamp where
  date : Date
  hour : Nat
  minute : Nat
  second : Nat
  nano : Nat
  isTime : IsTime hour minute second nano
  deriving DecidableEq

namespace Timestamp

/-- The moment that a day and four numbers name, if they name one. -/
def of? (date : Date) (hour minute second nano : Nat) : Option Timestamp :=
  if h : IsTime hour minute second nano then some ⟨date, hour, minute, second, nano, h⟩ else none

/-- A fraction of a second has no digits, three, six or nine: the fewest that are exact. -/
def fractionChars (nano : Nat) : List Char :=
  if nano = 0 then []
  else if nano % 1000000 = 0 then '.' :: paddedDigits 3 (nano / 1000000)
  else if nano % 1000 = 0 then '.' :: paddedDigits 6 (nano / 1000)
  else '.' :: paddedDigits 9 nano

/-- The second of the minute that is written: 60 within a leap second. -/
def shownSecond (t : Timestamp) : Nat :=
  t.second + t.nano / nanosPerSecond

/-- The time of day: two digits each for hour, minute and second, then the fraction. -/
def timeChars (t : Timestamp) : List Char :=
  paddedDigits 2 t.hour ++ ':' :: paddedDigits 2 t.minute ++ ':' :: paddedDigits 2 t.shownSecond ++
    fractionChars (t.nano % nanosPerSecond)

/-- The day, a `T`, and the time of day. -/
def toChars (t : Timestamp) : List Char :=
  t.date.toChars ++ 'T' :: t.timeChars

/-- Reads a fraction as `fractionChars` writes it. -/
def readFraction? : List Char → Option Nat
  | [] => some 0
  | '.' :: ds =>
    if ds.length = 3 then (readDigits? ds).map (· * 1000000)
    else if ds.length = 6 then (readDigits? ds).map (· * 1000)
    else if ds.length = 9 then readDigits? ds
    else none
  | _ => none

/-- Reads a time of day as `timeChars` writes it, on a given day. -/
def readTime? (date : Date) : List Char → Option Timestamp
  | h₁ :: h₂ :: ':' :: m₁ :: m₂ :: ':' :: s₁ :: s₂ :: fraction => do
    let hour ← readDigits? [h₁, h₂]
    let minute ← readDigits? [m₁, m₂]
    let second ← readDigits? [s₁, s₂]
    let nano ← readFraction? fraction
    if second = 60 then of? date hour minute 59 (nano + nanosPerSecond)
    else of? date hour minute second nano
  | _ => none

/-- Reads a moment as `toChars` writes it. -/
def read? (cs : List Char) : Option Timestamp := do
  let date ← Date.read? (cs.takeWhile (· ≠ 'T'))
  match cs.dropWhile (· ≠ 'T') with
  | 'T' :: time => readTime? date time
  | _ => none

instance : ToString Timestamp := ⟨fun t => String.ofList t.toChars⟩

theorem of?_eq_some {t : Timestamp} : of? t.date t.hour t.minute t.second t.nano = some t := by
  simp [of?, t.isTime]

end Timestamp

end Accounts.Calendar
