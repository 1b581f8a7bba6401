import Accounts.Calendar.Timestamp
import Mathlib.Data.List.Basic
import Mathlib.Tactic.NormNum

/-!
# Accounts.Proofs.WrittenDates — numbers, days and moments read back as written

A reader of a number stops where the digits do (`Calendar.Date.takeNumber?_append`), and leading
zeros do not count (`Text.readDigits?_paddedDigits`).  So every day of the supported years reads
back from its text, in all three forms of a year (`Calendar.Date.read?_toChars`), and every moment
does, with any fraction and within a leap second (`Calendar.Timestamp.read?_toChars`).
-/

namespace Accounts

/-! ### Numbers -/

namespace Text

/-- The text does not go on with a digit. -/
def Stops (cs : List Char) : Prop :=
  ∀ c ∈ cs.head?, c.isDigit = false

theorem Stops.nil : Stops [] := by
  intro c hc
  cases hc

theorem Stops.cons {c : Char} (h : c.isDigit = false) (cs : List Char) : Stops (c :: cs) := by
  intro c' hc'
  cases hc'
  exact h

theorem isDigit_of_mem_paddedDigits {width n : Nat} {c : Char} (h : c ∈ paddedDigits width n) :
    c.isDigit = true := by
  rw [paddedDigits, List.leftpad, List.mem_append] at h
  rcases h with h | h
  · rw [List.eq_of_mem_replicate h]
    rfl
  · exact isDigit_of_mem_digits h

theorem paddedDigits_ne_nil (width n : Nat) : paddedDigits width n ≠ [] := by
  intro h
  rw [paddedDigits, List.leftpad] at h
  exact digits_ne_nil n (List.append_eq_nil_iff.1 h).2

/-- A number that fits takes up its width and no more. -/
theorem length_paddedDigits {width n : Nat} (hwidth : 0 < width) (h : n < 10 ^ width) :
    (paddedDigits width n).length = width := by
  have hlength : (digits n).length ≤ width :=
    (Nat.length_toDigits_le_iff (by norm_num) hwidth).2 h
  rw [paddedDigits, List.length_leftpad]
  omega

/-- Leading zeros do not count. -/
theorem readDigits?_paddedDigits (width n : Nat) : readDigits? (paddedDigits width n) = some n := by
  have hall : (paddedDigits width n).all Char.isDigit = true :=
    List.all_eq_true.2 fun _ => isDigit_of_mem_paddedDigits
  rw [readDigits?, if_pos ⟨paddedDigits_ne_nil width n, hall⟩, paddedDigits, List.leftpad,
    Nat.ofDigitChars_append, Nat.ofDigitChars_replicate_zero, Nat.mul_zero, digits,
    Nat.ofDigitChars_ten_toDigits]

/-- The digits at the front of a text, if it stops after them. -/
theorem takeWhile_isDigit_append {ds rest : List Char} (hds : ∀ c ∈ ds, c.isDigit = true)
    (hrest : Stops rest) : (ds ++ rest).takeWhile Char.isDigit = ds := by
  rw [List.takeWhile_append_of_pos hds]
  cases rest with
  | nil => simp
  | cons c cs =>
    have hc : c.isDigit = false := hrest c rfl
    simp [hc]

theorem dropWhile_isDigit_append {ds rest : List Char} (hds : ∀ c ∈ ds, c.isDigit = true)
    (hrest : Stops rest) : (ds ++ rest).dropWhile Char.isDigit = rest := by
  rw [List.dropWhile_append_of_pos hds]
  cases rest with
  | nil => rfl
  | cons c cs =>
    have hc : c.isDigit = false := hrest c rfl
    simp [hc]

theorem isBlank_of_isDigit {c : Char} (h : c.isDigit = true) : isBlank c = false := by
  obtain ⟨hlow, hhigh⟩ := Char.isDigit_iff_toNat.1 h
  have hlow : 48 ≤ c.toNat := hlow
  have hhigh : c.toNat ≤ 57 := hhigh
  exact isBlank_eq_false (by omega) (by omega)

end Text

namespace Calendar

open Accounts.Text

/-! ### Days -/

namespace Date

/-- A number of at most `most` digits is split off where the text stops. -/
theorem takeNumber?_append {most n : Nat} {ds rest : List Char} (hds : ∀ c ∈ ds, c.isDigit = true)
    (hlength : ds.length ≤ most) (hread : readDigits? ds = some n) (hrest : Stops rest) :
    takeNumber? most (ds ++ rest) = some (n, rest) := by
  have hfront : ((ds ++ rest).take most).takeWhile Char.isDigit = ds := by
    rw [List.take_append, List.take_of_length_le hlength]
    refine takeWhile_isDigit_append hds fun c hc => hrest c ?_
    rw [List.head?_take] at hc
    split_ifs at hc
    · cases hc
    · exact hc
  simp only [takeNumber?, hfront, hread, Option.map_some, List.drop_left]

theorem takeNumber?_paddedDigits {width n : Nat} (hwidth : 0 < width) (h : n < 10 ^ width)
    {rest : List Char} (hrest : Stops rest) :
    takeNumber? width (paddedDigits width n ++ rest) = some (n, rest) :=
  takeNumber?_append (fun _ => isDigit_of_mem_paddedDigits) (length_paddedDigits hwidth h).le
    (readDigits?_paddedDigits width n) hrest

/-- A number of two digits, after which the text stops, has no blanks before it. -/
theorem takeNumber?_two {n : Nat} (h : n < 100) {rest : List Char} (hrest : Stops rest) :
    takeNumber? 2 (skipBlanks (paddedDigits 2 n ++ rest)) = some (n, rest) := by
  have hskip : skipBlanks (paddedDigits 2 n ++ rest) = paddedDigits 2 n ++ rest := by
    obtain ⟨d, ds, hds⟩ := List.exists_cons_of_ne_nil (paddedDigits_ne_nil 2 n)
    have hd : d.isDigit = true := isDigit_of_mem_paddedDigits (hds ▸ List.mem_cons_self)
    rw [hds]
    exact skipBlanks_cons_of_not (isBlank_of_isDigit hd) _
  rw [hskip]
  exact takeNumber?_paddedDigits (by norm_num) h hrest

theorem takeHyphen?_cons (rest : List Char) : takeHyphen? ('-' :: rest) = some rest := by
  simp only [takeHyphen?, skipBlanks_cons_of_not (by decide : isBlank '-' = false)]

/-- Each of the three forms of a year reads back. -/
theorem takeYear?_yearChars (year : Int) {rest : List Char} (hrest : Stops rest) :
    takeYear? (skipBlanks (yearChars year ++ rest)) = some (year, rest) := by
  have hds : ∀ c ∈ paddedDigits 4 year.natAbs, c.isDigit = true :=
    fun _ => isDigit_of_mem_paddedDigits
  have hread := readDigits?_paddedDigits 4 year.natAbs
  have hsigned : takeNumber? (paddedDigits 4 year.natAbs ++ rest).length
      (paddedDigits 4 year.natAbs ++ rest) = some (year.natAbs, rest) :=
    takeNumber?_append hds (by rw [List.length_append]; omega) hread hrest
  rw [yearChars]
  split_ifs with hbare hneg
  · -- four digits without a sign
    obtain ⟨d, ds, hcons⟩ := List.exists_cons_of_ne_nil (paddedDigits_ne_nil 4 year.natAbs)
    have hd : d.isDigit = true := hds d (hcons ▸ List.mem_cons_self)
    have hfour : takeNumber? 4 (paddedDigits 4 year.natAbs ++ rest) = some (year.natAbs, rest) :=
      takeNumber?_paddedDigits (by norm_num) (by omega) hrest
    have hminus : d ≠ '-' := by
      rintro rfl
      exact absurd hd (by decide)
    have hplus : d ≠ '+' := by
      rintro rfl
      exact absurd hd (by decide)
    have hyear : takeYear? (d :: (ds ++ rest)) =
        (takeNumber? 4 (d :: (ds ++ rest))).map fun p => ((p.1 : Int), p.2) := by
      rw [takeYear?]
      · rintro cs ⟨⟩
        exact hminus rfl
      · rintro cs ⟨⟩
        exact hplus rfl
    rw [hcons, List.cons_append] at hfour ⊢
    rw [skipBlanks_cons_of_not (isBlank_of_isDigit hd), hyear, hfour, Option.map_some]
    dsimp only
    rw [Int.natAbs_of_nonneg hbare.1]
  · have hyear : -(year.natAbs : Int) = year := by omega
    rw [List.cons_append, skipBlanks_cons_of_not (by decide), takeYear?, hsigned, Option.map_some]
    dsimp only
    rw [hyear]
  · have hyear : (year.natAbs : Int) = year := by omega
    rw [List.cons_append, skipBlanks_cons_of_not (by decide), takeYear?, hsigned, Option.map_some]
    dsimp only
    rw [hyear]

theorem month_lt (d : Date) : d.month < 100 := by
  have := d.isDate.month_mem
  omega

theorem day_lt (d : Date) : d.day < 100 := by
  have hday := d.isDate.le_daysInMonth
  have hmonth : daysInMonth d.year d.month ≤ 31 := by
    unfold daysInMonth
    split <;> first | omega | split_ifs <;> omega
  omega

/-- The numbers of a day read back as written. -/
theorem readNumbers?_toChars (d : Date) :
    readNumbers? d.toChars = some (d.year, d.month, d.day) := by
  have hmonth := takeNumber?_two d.month_lt (Stops.cons (c := '-') (by decide)
    (paddedDigits 2 d.day))
  have hday := takeNumber?_two d.day_lt Stops.nil
  rw [List.append_nil] at hday
  rw [readNumbers?, toChars, List.append_assoc]
  simp only [List.cons_append, Option.bind_eq_bind]
  rw [takeYear?_yearChars d.year (Stops.cons (by decide) _), Option.bind_some]
  dsimp only
  rw [takeHyphen?_cons, Option.bind_some, hmonth, Option.bind_some]
  dsimp only
  rw [takeHyphen?_cons, Option.bind_some, hday, Option.bind_some]
  rfl

/-- Every day reads back as written. -/
theorem read?_toChars (d : Date) : read? d.toChars = some d := by
  rw [read?, readNumbers?_toChars, Option.bind_some]
  exact of?_eq_some

theorem read?_toString (d : Date) : read? (toString d).toList = some d := by
  have htext : toString d = String.ofList d.toChars := rfl
  rw [htext, String.toList_ofList, read?_toChars]

end Date

/-! ### Moments -/

namespace Timestamp

/-- A day is written without the letter that parts it from the time. -/
theorem ne_of_mem_date {d : Date} {c : Char} (h : c ∈ d.toChars) : c ≠ 'T' := by
  have hdigit : ∀ {width n : Nat}, c ∈ paddedDigits width n → c ≠ 'T' := by
    rintro width n hc rfl
    exact absurd (isDigit_of_mem_paddedDigits hc) (by decide)
  simp only [Date.toChars, Date.yearChars, List.mem_append, List.mem_cons] at h
  rcases h with (h | rfl | h) | rfl | h
  · split_ifs at h
    · exact hdigit h
    · rcases List.mem_cons.1 h with rfl | h
      · decide
      · exact hdigit h
    · rcases List.mem_cons.1 h with rfl | h
      · decide
      · exact hdigit h
  · decide
  · exact hdigit h
  · decide
  · exact hdigit h

/-- Two digits, and what they read back as. -/
theorem paddedDigits_two {n : Nat} (h : n < 100) :
    ∃ a b, paddedDigits 2 n = [a, b] ∧ readDigits? [a, b] = some n := by
  obtain ⟨a, b, hab⟩ := List.length_eq_two.1 (length_paddedDigits (by norm_num) h)
  exact ⟨a, b, hab, hab ▸ readDigits?_paddedDigits 2 n⟩

/-- A fraction of each width reads back. -/
theorem readFraction?_fractionChars {nano : Nat} (h : nano < nanosPerSecond) :
    readFraction? (fractionChars nano) = some nano := by
  have hnano : nano < 1000000000 := h
  rw [fractionChars]
  split_ifs with hzero hmilli hmicro
  · rw [readFraction?, hzero]
  · have hlength : (paddedDigits 3 (nano / 1000000)).length = 3 :=
      length_paddedDigits (by norm_num) (by omega)
    rw [readFraction?, if_pos hlength, readDigits?_paddedDigits, Option.map_some,
      Nat.div_mul_cancel (Nat.dvd_of_mod_eq_zero hmilli)]
  · have hlength : (paddedDigits 6 (nano / 1000)).length = 6 :=
      length_paddedDigits (by norm_num) (by omega)
    rw [readFraction?, if_neg (by omega), if_pos hlength, readDigits?_paddedDigits, Option.map_some,
      Nat.div_mul_cancel (Nat.dvd_of_mod_eq_zero hmicro)]
  · have hlength : (paddedDigits 9 nano).length = 9 :=
      length_paddedDigits (by norm_num) (by omega)
    rw [readFraction?, if_neg (by omega), if_neg (by omega), if_pos hlength,
      readDigits?_paddedDigits]

/-- A second is written as 60 exactly within a leap second. -/
theorem shownSecond_cases (t : Timestamp) :
    (t.nano < nanosPerSecond ∧ t.shownSecond = t.second ∧ t.second ≠ 60) ∨
      (t.nano = t.nano % nanosPerSecond + nanosPerSecond ∧ t.shownSecond = 60 ∧
        t.second = 59) := by
  have hsecond := t.isTime.second_lt
  have hnano := t.isTime.nano_lt
  rw [shownSecond]
  simp only [nanosPerSecond] at hnano ⊢
  split_ifs at hnano <;> omega

/-- Every time of day reads back as written. -/
theorem readTime?_timeChars (t : Timestamp) : readTime? t.date t.timeChars = some t := by
  have hhour := t.isTime.hour_lt
  have hminute := t.isTime.minute_lt
  have hshown : t.shownSecond < 100 := by
    rcases t.shownSecond_cases with ⟨-, hs, -⟩ | ⟨-, hs, -⟩
    · have := t.isTime.second_lt
      omega
    · omega
  obtain ⟨h₁, h₂, hh, hhread⟩ := paddedDigits_two (n := t.hour) (by omega)
  obtain ⟨m₁, m₂, hm, hmread⟩ := paddedDigits_two (n := t.minute) (by omega)
  obtain ⟨s₁, s₂, hs, hsread⟩ := paddedDigits_two hshown
  have hfraction := readFraction?_fractionChars
    (Nat.mod_lt t.nano (by decide : 0 < nanosPerSecond))
  rw [timeChars, hh, hm, hs]
  simp only [List.cons_append, List.nil_append, readTime?, hhread, hmread, hsread, hfraction,
    Option.bind_eq_bind, Option.bind_some]
  rcases t.shownSecond_cases with ⟨hnano, hs, hne⟩ | ⟨hnano, hs, hlast⟩
  · rw [hs, if_neg hne, Nat.mod_eq_of_lt hnano]
    exact of?_eq_some
  · rw [if_pos hs, ← hnano, ← hlast]
    exact of?_eq_some

/-- Every moment reads back as written. -/
theorem read?_toChars (t : Timestamp) : read? t.toChars = some t := by
  have hdate : ∀ c ∈ t.date.toChars, decide (c ≠ 'T') = true :=
    fun c hc => decide_eq_true (ne_of_mem_date hc)
  have hfront : t.toChars.takeWhile (· ≠ 'T') = t.date.toChars := by
    rw [toChars, List.takeWhile_append_of_pos hdate]
    simp
  have hback : t.toChars.dropWhile (· ≠ 'T') = 'T' :: t.timeChars := by
    rw [toChars, List.dropWhile_append_of_pos hdate]
    simp
  rw [read?, hfront, Date.read?_toChars]
  simp only [Option.bind_eq_bind, Option.bind_some, hback]
  exact readTime?_timeChars t

theorem read?_toString (t : Timestamp) : read? (toString t).toList = some t := by
  have htext : toString t = String.ofList t.toChars := rfl
  rw [htext, String.toList_ofList, read?_toChars]

end Timestamp

end Calendar

end Accounts
