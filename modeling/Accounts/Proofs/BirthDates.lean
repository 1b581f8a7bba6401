import Accounts.Proofs.CommandLines
import Accounts.Proofs.JsonTexts
import Accounts.Proofs.Processes
import Accounts.Proofs.SingleRow

/-!
# Accounts.Proofs.BirthDates — birth dates on the way out and back in

`Calendar.IsGregorian` says which days there are, by the lengths of the months and the leap years.
Every day of the supported years reads back as written, and a text that is read as a birth date
names such a day.  So an update that sets the birth date as it was printed leaves the row as it was
(`birth_dates_return`), and a run of the program that makes it leaves every kept database as it
was, since no fault meets a database that only the program works on (`Disk.Calm`).
-/

namespace Accounts

open Calendar

/-! ### The calendar -/

namespace Calendar

/-- The year has a 29th of February. -/
def IsLeap (year : Int) : Prop :=
  4 ∣ year ∧ (100 ∣ year → 400 ∣ year)

/-- The three numbers name a day of the Gregorian calendar, which is carried back to the year 0 and
further. -/
structure IsGregorian (year : Int) (month day : Nat) : Prop where
  month_range : 1 ≤ month ∧ month ≤ 12
  one_le_day : 1 ≤ day
  le_31 : day ≤ 31
  le_30 : month = 4 ∨ month = 6 ∨ month = 9 ∨ month = 11 → day ≤ 30
  february : month = 2 → day ≤ 28 ∨ day = 29 ∧ IsLeap year

theorem isLeapYear_iff (year : Int) : isLeapYear year = true ↔ IsLeap year := by
  simp only [isLeapYear, IsLeap, Bool.and_eq_true, Bool.or_eq_true, decide_eq_true_eq,
    Int.dvd_iff_emod_eq_zero]
  tauto

theorem le_daysInMonth_iff {year : Int} {month day : Nat} (h : 1 ≤ month ∧ month ≤ 12) :
    day ≤ daysInMonth year month ↔
      day ≤ 31 ∧ (month = 4 ∨ month = 6 ∨ month = 9 ∨ month = 11 → day ≤ 30) ∧
        (month = 2 → day ≤ 28 ∨ day = 29 ∧ IsLeap year) := by
  have hfebruary : day ≤ daysInMonth year 2 ↔ day ≤ 28 ∨ day = 29 ∧ IsLeap year := by
    rw [← isLeapYear_iff]
    cases hleap : isLeapYear year with
    | false => simp [daysInMonth, hleap]
    | true =>
      simp only [daysInMonth, hleap, if_true, and_true]
      omega
  by_cases htwo : month = 2
  · subst htwo
    rw [hfebruary]
    constructor
    · intro hday
      exact ⟨by omega, by omega, fun _ => hday⟩
    · rintro ⟨-, -, hday⟩
      exact hday rfl
  · simp only [htwo, false_implies, and_true]
    unfold daysInMonth
    split <;> grind

/-- The days of the supported years are those of the calendar. -/
theorem isDate_iff {year : Int} {month day : Nat} :
    IsDate year month day ↔ (-262143 ≤ year ∧ year ≤ 262142) ∧ IsGregorian year month day := by
  constructor
  · intro h
    obtain ⟨h31, h30, hfebruary⟩ := (le_daysInMonth_iff h.month_mem).1 h.le_daysInMonth
    exact ⟨⟨h.firstYear_le, h.le_lastYear⟩, h.month_mem, h.one_le_day, h31, h30, hfebruary⟩
  · rintro ⟨⟨hfirst, hlast⟩, h⟩
    have hlength := (le_daysInMonth_iff h.month_range).2 ⟨h.le_31, h.le_30, h.february⟩
    exact ⟨hfirst, hlast, h.one_le_day, hlength⟩

namespace Date

theorem of?_isSome_iff {year : Int} {month day : Nat} :
    (of? year month day).isSome = true ↔ IsDate year month day := by
  unfold of?
  split_ifs with h <;> simp [h]

/-- A text that has the form of a day is read exactly if its numbers name one. -/
theorem read?_isSome_iff {cs : List Char} {year : Int} {month day : Nat}
    (h : readNumbers? cs = some (year, month, day)) :
    (read? cs).isSome = true ↔
      (-262143 ≤ year ∧ year ≤ 262142) ∧ IsGregorian year month day := by
  rw [read?, h, Option.bind_some, of?_isSome_iff, isDate_iff]

theorem readNumbers?_of_read? {cs : List Char} {d : Date} (h : read? cs = some d) :
    readNumbers? cs = some (d.year, d.month, d.day) := by
  rw [read?] at h
  obtain ⟨⟨year, month, day⟩, hnumbers, hdate⟩ := Option.bind_eq_some_iff.1 h
  simp only [of?] at hdate
  split_ifs at hdate
  cases hdate
  exact hnumbers

end Date

end Calendar

/-! ### From the printed user to the command line -/

/-- The text that a printed user has for its birth date. -/
def shownBirthDate (printed : String) : Option String :=
  ((Json.Record.read? printed.toList).bind (·.lookup "birthDate")).bind ShownUser.textOf?

theorem shownBirthDate_prettyJson (u : User) :
    shownBirthDate u.prettyJson = u.birthDate.map toString := by
  have hread : Json.Record.read? u.prettyJson.toList = some u.record := by
    rw [User.prettyJson, String.toList_ofList, Json.pretty_eq u.record_ne_nil,
      Json.prettyLayout_sound.read?_chars u.record_ne_nil]
  have hmember : u.record.lookup "birthDate" =
      some (.ofDate u.birthDate) := rfl
  rw [shownBirthDate, hread, Option.bind_some, hmember, Option.bind_some]
  cases u.birthDate <;> rfl

namespace CommandLine

/-- The command line of an update that sets the birth date of `id` to what `text` says. -/
def birthDateUpdate (id : Int) (text : String) : List Word :=
  [.text "update", .text (String.ofList (Text.signedDigits id)), .text ("--birth-date=" ++ text)]

theorem isPlain_signedDigits {id : Int} (h : 0 ≤ id) :
    IsPlain (String.ofList (Text.signedDigits id)) := by
  obtain ⟨n, rfl⟩ := Int.eq_ofNat_of_zero_le h
  rw [IsPlain, String.toList_ofList]
  intro hhead
  have hdigit := Text.isDigit_of_mem_digits (n := n) (List.mem_of_head? hhead)
  exact absurd hdigit (by decide)

/-- The update is read as the change that the text of a birth date asks for. -/
theorem read_birthDateUpdate {id : Int} (hid : IsId id) (hpos : 0 ≤ id) {text : String} {d : Date}
    (h : Date.read? text.toList = some d) (env : Environment) :
    read env (birthDateUpdate id text) = .ok (.change id { birthDate := some (some d) }) := by
  have hspelled : Spelled
      [.id (String.ofList (Text.signedDigits id)), .field .birthDate text]
      [.text (String.ofList (Text.signedDigits id)), .text ("--birth-date=" ++ text)] :=
    .cons (.id (isPlain_signedDigits hpos)) (.cons (.attached .birthDate text) .nil)
  have hasks : Asks env .change
      [.id (String.ofList (Text.signedDigits id)), .field .birthDate text]
      (.change id { birthDate := some (some d) }) :=
    @Asks.change env _ id _ { birthDate := some (some d) } (readId?_signedDigits hid) (.set h)
  exact read_eq_ok_iff_spells.2 ⟨.change, _, _, _, rfl, hspelled, .refl _, hasks⟩

end CommandLine

/-! ### Updates that change nothing -/

/-- A change of a row that would leave its user as it is leaves the row, unless it vanishes. -/
theorem Changes.onRow_of_same {c : Changes} {row : Row} (h : row.toUser.change c = row.toUser)
    {faults : Faults} (hstays : faults.rowsVanish = false) (taken : String → Bool) :
    (c.onRow faults taken (some row)).state = some row := by
  simp only [onRow, h, hstays]
  split_ifs
  · rfl
  · rfl
  · rfl
  · contradiction
  · rfl
  · rfl

theorem User.change_birthDate {u : User} {d : Date} (h : u.birthDate = some d) :
    u.change { birthDate := some (some d) } = u := by
  obtain ⟨id, username, birthDate, passwordHash, createdAt⟩ := u
  cases h
  rfl

/-- A change that would leave its user as it is leaves the database, unless rows vanish. -/
theorem Service.change_state_of_same {db : Database} (hs : db.Sound)
    (hstays : db.faults.rowsVanish = false) {id : Int} {u : User} (hu : db.stored id = some u)
    {c : Changes} (h : u.change c = u) :
    ((change id c).run Database.store db).state = db := by
  obtain ⟨_ | t⟩ := db
  · cases hu
  · obtain ⟨row, hrow, rfl⟩ := Option.map_eq_some_iff.1 hu
    have hstate := Changes.onRow_of_same h hstays (t.isTaken id)
    rw [change_run (hs t rfl), hrow, Outcome.inTable]
    simp only [Database.faults] at hstate
    rw [hstate, ← hrow, (hs t rfl).put_byId]

/-! ### Databases that only the program works on -/

/-- Requests leave the faults as they are. -/
theorem Database.faults_store (r : Request) (db : Database) :
    (Database.store r db).2.faults = db.faults := by
  cases r with
  | add u =>
    rcases db.add_cases u with ⟨f, hf⟩ | ⟨t, rfl, -, ha⟩
    · rw [store, hf]
    · rw [store, ha]
      rfl
  | byId id => rw [store, byId_state]
  | byName name => rw [store, byName_state]
  | save u =>
    rcases db.save_cases u with ⟨f, hf, -⟩ | ⟨t, id, row, rfl, -, -, hl⟩ |
      ⟨t, id, row, rfl, -, -, -, hs⟩
    · rw [store, hf]
    · rw [store, hl]
      rfl
    · rw [store, hs]
      rfl
  | remove id =>
    rcases db.remove_cases id with ⟨f, hf⟩ | ⟨t, row, rfl, -, hr⟩
    · rw [store, hf]
    · rw [store, hr]
      rfl
  | createTable => obtain ⟨_ | t⟩ := db <;> rfl

theorem Database.faults_run {α : Type} (p : Plan α) (db : Database) :
    (p.run Database.store db).state.faults = db.faults := by
  induction p generalizing db with
  | done a => rfl
  | fail f => rfl
  | note e rest ih => exact ih db
  | ask r next ih =>
    have hstore := faults_store r db
    simp only [Plan.run]
    rcases hr : Database.store r db with ⟨f | reply, db'⟩ <;> rw [hr] at hstore
    · exact hstore
    · exact (ih reply db').trans hstore

/-- The kept databases are sound, and nothing goes wrong with them. -/
def Disk.Calm (disk : Disk) : Prop :=
  ∀ name db, disk.get? name = some db → db.Sound ∧ db.faults = {}

theorem Disk.calm_nil : Disk.Calm [] := by
  intro name db h
  cases h

theorem Disk.Calm.found {disk : Disk} (h : disk.Calm) (location : Location) :
    (disk.found location).Sound ∧ (disk.found location).faults = {} := by
  have hempty : ({} : Database).Sound ∧ ({} : Database).faults = {} := ⟨sound_empty, rfl⟩
  cases location with
  | memory | elsewhere | server => exact hempty
  | named name create =>
    rw [Disk.found]
    cases hget : disk.get? name with
    | none => exact hempty
    | some db => exact h name db hget

theorem Disk.eq_found_of_openWith {disk : Disk} {settings : Settings} {location : Location}
    {db : Database} (h : disk.openWith settings = .opened location db) :
    db = disk.found location := by
  rw [openWith] at h
  split at h
  · cases h
  · next place _ =>
    split_ifs at h
    cases place with
    | memory =>
      cases h
      rfl
    | elsewhere | server => cases h
    | named name create =>
      rw [openAt] at h
      rw [found.eq_def]
      split at h
      · next other hget =>
        cases h
        simp [hget]
      · next hget =>
        split_ifs at h
        cases h
        simp [hget]

namespace Invocation

variable {i : Invocation} {disk : Disk}

/-- A run leaves the kept databases as they were, or carries out its action on one of them. -/
theorem run_cases_disk (i : Invocation) (disk : Disk) :
    (i.run disk).2 = disk ∨ ∃ settings action location, i.start = .ok (settings, action) ∧
      (i.run disk).2 = disk.close location
        ((action.plan i.now).run Database.store (disk.found location)).state := by
  rw [run]
  split
  · exact .inl rfl
  · next settings action hstart =>
    split
    · exact .inl rfl
    · exact .inl rfl
    · next location db hopen =>
      refine .inr ⟨settings, action, location, hstart, ?_⟩
      rw [Disk.eq_found_of_openWith hopen, ← Action.report_state none]
      rfl

theorem run_calm (h : disk.Calm) (i : Invocation) : (i.run disk).2.Calm := by
  rcases i.run_cases_disk disk with hsame | ⟨settings, action, location, -, hclose⟩
  · rwa [hsame]
  · rw [hclose]
    cases location with
    | memory | elsewhere | server => exact h
    | named name create =>
      obtain ⟨hs, hfaults⟩ := h.found (.named name create)
      intro other db hget
      rw [Disk.close, Disk.get?_set] at hget
      split_ifs at hget
      · cases hget
        exact ⟨hs.run _, (Database.faults_run _ _).trans hfaults⟩
      · exact h other db hget

theorem diskAfter_calm (h : disk.Calm) (runs : List Invocation) : (diskAfter disk runs).Calm := by
  induction runs generalizing disk with
  | nil => exact h
  | cons i rest ih => exact ih (run_calm h i)

/-- The action of a run is what its arguments are read as. -/
theorem action_of_start {settings : Settings} {action other : Action}
    (h : i.start = .ok (settings, action))
    (hread : ∀ env, CommandLine.read env i.args = .ok other) :
    action = other := by
  rw [start] at h
  cases henv : i.environment? with
  | none =>
    rw [henv] at h
    cases h
  | some env =>
    simp only [henv, hread] at h
    cases h
    rfl

/-- A run whose action would leave the database of a name as it is leaves it so. -/
theorem get?_run_of_same {name : String} {db : Database} (hget : disk.get? name = some db)
    (h : ∀ settings action, i.start = .ok (settings, action) →
      ((action.plan i.now).run Database.store db).state = db) :
    (i.run disk).2.get? name = some db := by
  rcases i.run_cases_disk disk with hsame | ⟨settings, action, location, hstart, hclose⟩
  · rw [hsame, hget]
  · rw [hclose]
    cases location with
    | memory | elsewhere | server => exact hget
    | named other create =>
      rw [Disk.close, Disk.get?_set]
      split_ifs with hname
      · subst hname
        rw [Disk.found, hget, Option.getD_some, h settings action hstart]
      · exact hget

end Invocation

/-! ### The same birth date once more -/

section SameBirthDate

variable {db : Database} {id : Int} {u : User} {d : Date}

/-- Setting the birth date that an account has leaves the database as it is, unless rows vanish. -/
theorem Action.state_of_same_birthDate (hs : db.Sound) (hstays : db.faults.rowsVanish = false)
    (hu : db.stored id = some u) (hd : u.birthDate = some d) (now : Timestamp) :
    (((Action.change id { birthDate := some (some d) }).plan now).run Database.store db).state =
      db :=
  (congrArg Outcome.state (Plan.run_map _ _ _ _)).trans
    (Service.change_state_of_same hs hstays hu (User.change_birthDate hd))

/-- It is done, and the account is printed as before, unless updates fail. -/
theorem Action.report_of_same_birthDate (hs : db.Sound) (hstays : db.faults.rowsVanish = false)
    (hfail : db.faults.updatesFail = false) (hu : db.stored id = some u)
    (hd : u.birthDate = some d) (now : Timestamp) :
    let r := (Action.change id { birthDate := some (some d) }).perform Database.store now none db
    r.result = .ok () ∧ r.output = Action.printed u := by
  have hchange : ((Service.change id { birthDate := some (some d) }).run Database.store db).result =
      .ok u := by
    rw [Service.change_to_own_name hs hfail hstays hu rfl (by simp), User.change_birthDate hd]
  have hplan : (((Action.change id { birthDate := some (some d) }).plan now).run
      Database.store db).result = .ok (some u) := by
    refine (congrArg Outcome.result (Plan.run_map _ _ _ _)).trans ?_
    rw [Outcome.map, hchange]
    rfl
  simp only [Action.perform, Action.report, hplan]
  exact ⟨rfl, rfl⟩

end SameBirthDate

/-- The text that is printed for a birth date is read as that birth date. -/
theorem read?_of_shownBirthDate {u : User} {text : String}
    (h : shownBirthDate u.prettyJson = some text) :
    ∃ d, u.birthDate = some d ∧ Date.read? text.toList = some d := by
  rw [shownBirthDate_prettyJson] at h
  obtain ⟨d, hd, rfl⟩ := Option.map_eq_some_iff.1 h
  exact ⟨d, hd, Date.read?_toString d⟩

/-- Identifiers of rows are not negative, so they do not look like options. -/
theorem Database.Sound.id_nonneg {db : Database} (hs : db.Sound) {id : Int} {u : User}
    (h : db.stored id = some u) : 0 ≤ id := by
  obtain ⟨t, row, rfl, here, -⟩ := Database.stored_eq_some h
  have hrange := ((hs t rfl).id_range row (Table.mem_of_byId here)).1
  rw [Table.id_of_byId here] at hrange
  omega

/-- **Birth dates come back as they were shown.**  Every day of the supported years reads back from
its text.  A text that has the form of a day is read exactly if its numbers name a day of these
years, and this day reads back in turn.  A printed user shows its birth date, if it has one, and an
update that sets the birth date to the printed text leaves the database as it was and prints the
user as before, unless rows vanish or updates fail.  After any runs on plain files, a run on a plain
file that makes this update leaves the file of the user as it was. -/
theorem birth_dates_return :
    (∀ year month day, -262143 ≤ year ∧ year ≤ 262142 → IsGregorian year month day →
      ∃ d : Date, (d.year = year ∧ d.month = month ∧ d.day = day) ∧
        Date.read? (toString d).toList = some d) ∧
    (∀ (text : String) (d : Date), Date.read? text.toList = some d →
      Date.readNumbers? text.toList = some (d.year, d.month, d.day) ∧
      (-262143 ≤ d.year ∧ d.year ≤ 262142) ∧ IsGregorian d.year d.month d.day ∧
      Date.read? (toString d).toList = some d) ∧
    (∀ (text : String) year month day,
      Date.readNumbers? text.toList = some (year, month, day) →
      ((Date.read? text.toList).isSome = true ↔
        (-262143 ≤ year ∧ year ≤ 262142) ∧ IsGregorian year month day)) ∧
    (∀ u : User, shownBirthDate u.prettyJson = u.birthDate.map toString) ∧
    (∀ db : Database, db.Reachable → db.faults.rowsVanish = false →
      ∀ id u text, db.stored id = some u → shownBirthDate u.prettyJson = some text →
      CommandLine.IsId id → ∀ env now, ∃ action,
        CommandLine.read env (CommandLine.birthDateUpdate id text) = .ok action ∧
        (∀ capacity, (action.perform Database.store now capacity db).state = db) ∧
        (db.faults.updatesFail = false →
          (action.perform Database.store now none db).result = .ok () ∧
          (action.perform Database.store now none db).output = Action.printed u)) ∧
    ∀ (runs : List Invocation), (∀ j ∈ runs, j.Opens) → ∀ name db id u text,
      (Invocation.diskAfter [] runs).get? name = some db → db.stored id = some u →
      shownBirthDate u.prettyJson = some text → CommandLine.IsId id →
      ∀ i : Invocation, i.Opens → i.args = CommandLine.birthDateUpdate id text →
        (i.run (Invocation.diskAfter [] runs)).2.get? name = some db := by
  refine ⟨?_, ?_, fun text year month day => Date.read?_isSome_iff, shownBirthDate_prettyJson,
    ?_, ?_⟩
  · intro year month day hyear hday
    have hdate : IsDate year month day := isDate_iff.2 ⟨hyear, hday⟩
    exact ⟨⟨year, month, day, hdate⟩, ⟨rfl, rfl, rfl⟩, Date.read?_toString _⟩
  · intro text d hread
    have hnumbers := Date.readNumbers?_of_read? hread
    obtain ⟨hyear, hday⟩ := (Date.read?_isSome_iff hnumbers).1 (by rw [hread]; rfl)
    exact ⟨hnumbers, hyear, hday, Date.read?_toString d⟩
  · intro db hdb hstays id u text hu htext hid env now
    obtain ⟨d, hd, hread⟩ := read?_of_shownBirthDate htext
    refine ⟨_, CommandLine.read_birthDateUpdate hid (hdb.sound.id_nonneg hu) hread env, ?_, ?_⟩
    · intro capacity
      exact (Action.report_state capacity _).trans
        (Action.state_of_same_birthDate hdb.sound hstays hu hd now)
    · intro hfail
      exact Action.report_of_same_birthDate hdb.sound hstays hfail hu hd now
  · intro runs _ name db id u text hget hu htext hid i _ hargs
    obtain ⟨hs, hfaults⟩ := Invocation.diskAfter_calm Disk.calm_nil runs name db hget
    obtain ⟨d, hd, hread⟩ := read?_of_shownBirthDate htext
    have hupdate := CommandLine.read_birthDateUpdate hid (hs.id_nonneg hu) hread
    refine Invocation.get?_run_of_same hget fun settings action hstart => ?_
    obtain rfl : action = .change id { birthDate := some (some d) } :=
      Invocation.action_of_start hstart fun env => hargs ▸ hupdate env
    exact Action.state_of_same_birthDate hs (by rw [hfaults]) hu hd i.now

/-- A leap day of the year -4 is stored. -/
def leapDayRuns : List Invocation :=
  [runAt (Location.addressOf "a") ["init-schema"],
    runAt (Location.addressOf "a") ["create", "--username=alice", "--password-hash=first",
      "--birth-date", " -4 - 2-29 "]]

/-- The database that the runs leave. -/
def leapDayDatabase : Database :=
  ⟨some { rows := [⟨1, "alice", some ⟨-4, 2, 29, by decide⟩, "first", noon⟩], lastId := 1 }⟩

/-- The run that sets the birth date as it was printed. -/
def leapDayUpdate : Invocation :=
  runAt (Location.addressOf "a") ["update", "1", "--birth-date=-0004-02-29"]

theorem birth_date_of_leapDayRuns :
    (∀ j ∈ leapDayRuns, j.Opens) ∧ leapDayUpdate.Opens ∧
    (Invocation.diskAfter [] leapDayRuns).get? "a" = some leapDayDatabase ∧
    (leapDayUpdate.run (Invocation.diskAfter [] leapDayRuns)).2.get? "a" =
      some leapDayDatabase := by
  obtain ⟨-, -, -, hshown, -, hruns⟩ := birth_dates_return
  have hopens : ∀ j ∈ leapDayRuns, j.Opens := by decide +kernel
  have hupdate : leapDayUpdate.Opens := by decide +kernel
  have hget : (Invocation.diskAfter [] leapDayRuns).get? "a" = some leapDayDatabase := by
    decide +kernel
  have htext := hshown ⟨some 1, "alice", some ⟨-4, 2, 29, by decide⟩, "first", noon⟩
  have hdate : toString (⟨-4, 2, 29, by decide⟩ : Date) = "-0004-02-29" := by decide +kernel
  rw [Option.map_some, hdate] at htext
  exact ⟨hopens, hupdate, hget, hruns _ hopens "a" leapDayDatabase 1 _ _ hget rfl htext
    ⟨by decide, by decide⟩ _ hupdate (by decide +kernel)⟩

end Accounts
