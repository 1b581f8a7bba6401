import Accounts.Proofs.PlainFiles
import Accounts.Proofs.Processes

/-!
# Accounts.Proofs.Endings — how a run of the program can end

A run ends well, with a failure that it reports, or with a mistake on the command line, unless it
breaks off.  It does so in two cases (`endings_of_run`): the assignment file cannot be taken in,
which does not happen with a plain one, or the settings allow no connection at all.  The latter
takes a greatest number of connections that is written with zeros only; every other value of the two
limits is a number that can be worked with or counts as not set.  All of this is about addresses
that mean what they say and about numbers of connections that there is room for
(`Settings.IsPlain`).
-/

namespace Accounts

open Calendar

/-! ### Zero in digits -/

namespace Text

variable {cs : List Char}

/-- The text denotes zero. -/
def IsZero (cs : List Char) : Prop :=
  ∃ n, cs = List.replicate (n + 1) '0' ∨ cs = '+' :: List.replicate (n + 1) '0'

theorem ofDigitChars_eq_zero_iff (h : ∀ c ∈ cs, c.isDigit = true) (n : Nat) :
    Nat.ofDigitChars 10 cs n = 0 ↔ n = 0 ∧ ∀ c ∈ cs, c = '0' := by
  induction cs generalizing n with
  | nil => simp
  | cons c cs ih =>
    obtain ⟨hc, hcs⟩ := List.forall_mem_cons.1 h
    have hdigit : c.toNat - '0'.toNat = 0 ↔ c = '0' := by
      have hle := (Char.isDigit_iff_toNat.1 hc).1
      rw [← Char.toNat_inj]
      omega
    have hvalue : 10 * n + (c.toNat - '0'.toNat) = 0 ↔ n = 0 ∧ c = '0' := by
      rw [← hdigit]
      omega
    rw [Nat.ofDigitChars_cons, ih hcs, hvalue, List.forall_mem_cons, and_assoc]

theorem readDigits?_eq_zero_iff :
    readDigits? cs = some 0 ↔ ∃ n, cs = List.replicate (n + 1) '0' := by
  simp only [List.eq_replicate_iff]
  constructor
  · intro h
    unfold readDigits? at h
    split_ifs at h with hcs
    obtain ⟨hne, hdigits⟩ := hcs
    have hzeros := (ofDigitChars_eq_zero_iff (List.all_eq_true.1 hdigits) 0).1 (Option.some.inj h)
    exact ⟨cs.length - 1, (Nat.succ_pred (mt List.length_eq_zero_iff.1 hne)).symm, hzeros.2⟩
  · rintro ⟨n, hlength, hzeros⟩
    have hne : cs ≠ [] := List.ne_nil_of_length_eq_add_one hlength
    have hdigits : ∀ c ∈ cs, c.isDigit = true := fun c hc => by rw [hzeros c hc]; rfl
    rw [readDigits?, if_pos ⟨hne, List.all_eq_true.2 hdigits⟩,
      (ofDigitChars_eq_zero_iff hdigits 0).2 ⟨rfl, hzeros⟩]

theorem readUnsigned?_eq_zero_iff {bound : Nat} :
    readUnsigned? bound cs = some 0 ↔ IsZero cs := by
  have hfilter : ∀ number : Option Nat,
      number.filter (· ≤ bound) = some 0 ↔ number = some 0 := by
    intro number
    simp [Option.filter_eq_some_iff]
  unfold readUnsigned? IsZero
  dsimp only
  rw [hfilter]
  split
  · next ds =>
    simp [readDigits?_eq_zero_iff, List.replicate_succ]
  · next hplus =>
    rw [readDigits?_eq_zero_iff]
    exact exists_congr fun n => (or_iff_left (hplus _)).symm

end Text

/-! ### Limits on connections -/

namespace Settings

open Text

variable {env : Environment} {name : String} {standard : Nat}

/-- A limit is the standard one, or the number that a text of the environment denotes. -/
theorem connections_cases (env : Environment) (name : String) (standard : Nat) :
    connections env name standard = standard ∨
      ∃ s, env.text? name = some s ∧
        readUnsigned? connectionBound s.toList = some (connections env name standard) := by
  cases hread : (env.text? name).bind fun s => readUnsigned? connectionBound s.toList with
  | none => exact .inl (by rw [connections, hread]; rfl)
  | some n =>
    obtain ⟨s, hs, hn⟩ := Option.bind_eq_some_iff.1 hread
    exact .inr ⟨s, hs, by rw [hn, connections, hread]; rfl⟩

theorem connections_eq_zero_iff (h : standard ≠ 0) :
    connections env name standard = 0 ↔ ∃ s, env.text? name = some s ∧ IsZero s.toList := by
  constructor
  · intro hzero
    rcases connections_cases env name standard with hstandard | ⟨s, hs, hn⟩
    · exact absurd (hstandard.symm.trans hzero) h
    · rw [hzero] at hn
      exact ⟨s, hs, readUnsigned?_eq_zero_iff.1 hn⟩
  · rintro ⟨s, hs, hn⟩
    rw [connections, hs, Option.bind_some, readUnsigned?_eq_zero_iff.2 hn]
    rfl

end Settings

/-- A text sets the greatest number of connections to zero. -/
def Environment.AllowsNone (env : Environment) : Prop :=
  ∃ s, env.text? "DATABASE_MAX_CONNECTIONS" = some s ∧ Text.IsZero s.toList

/-- Room is set aside for all connections at once, which succeeds for this many at least. -/
def Settings.roomBound : Nat := 65535

/-- The address means what it says, and there is room for all connections. -/
structure Settings.IsPlain (s : Settings) : Prop where
  address : Location.IsPlain s.url
  room : s.maxConnections ≤ roomBound

namespace Disk

variable {disk : Disk}

theorem openAt_ne_impossible (location : Location) : disk.openAt location ≠ .impossible := by
  cases location with
  | memory | elsewhere | server => exact fun h => by cases h
  | named name create =>
    simp only [openAt]
    split
    · exact fun h => by cases h
    · split_ifs <;> exact fun h => by cases h

/-- Of all plain settings that an environment makes, only those that allow no connection are not
worked with. -/
theorem openWith_eq_impossible_iff {env : Environment} (h : (Settings.ofEnvironment env).IsPlain) :
    disk.openWith (.ofEnvironment env) = .impossible ↔ env.AllowsNone := by
  have hzero : (Settings.ofEnvironment env).maxConnections = 0 ↔ env.AllowsNone :=
    Settings.connections_eq_zero_iff (by decide)
  obtain ⟨location, hlocation⟩ := Option.isSome_iff_exists.1 h.address.isSome_ofUrl?
  simp only [openWith, hlocation, ← hzero]
  by_cases hmax : (Settings.ofEnvironment env).maxConnections = 0
  · simp [hmax]
  · simp [hmax, openAt_ne_impossible]

end Disk

/-! ### Endings -/

/-- The run ends well and reports no failure, or with a failure that it reports and no output, or
with a mistake on the command line. -/
def Ending.IsOrderly (e : Ending) : Prop :=
  (e.exitCode = 0 ∧ e.stderr = "") ∨
    (e.exitCode = 1 ∧ e.stdout = [] ∧
      ∃ f : Failure, e.stderr = "error [" ++ f.code ++ "]: " ++ f.message ++ "\n") ∨
    (e.exitCode = 2 ∧ ∃ mistake, e = .usage mistake)

namespace Invocation

variable {i : Invocation} {disk : Disk}

/-- The run comes to an action, with settings that allow no connection. -/
def IsStarved (i : Invocation) : Prop :=
  ∃ env action, i.environment? = some env ∧ CommandLine.read env i.args = .ok action ∧
    env.AllowsNone

/-- An action that fails has nothing to print, and one with a user to print has room for it. -/
theorem act_isOrderly (now : Timestamp) (action : Action) (db : Database) :
    (act now action db).1.IsOrderly := by
  simp only [act, Action.perform]
  rcases (action.plan now).run Database.store db with ⟨f | _ | u, events, db'⟩
  · exact .inr (.inl ⟨rfl, rfl, f, rfl⟩)
  · exact .inl ⟨rfl, rfl⟩
  · exact .inl ⟨rfl, rfl⟩

theorem isOrderly_ofStop (stop : CommandLine.Stop) : (Ending.ofStop stop).IsOrderly := by
  cases stop with
  | help => exact .inl ⟨rfl, rfl⟩
  | usage mistake => exact .inr (.inr ⟨rfl, mistake, rfl⟩)

/-- The run has a reason to break off: its assignment file or its settings. -/
def BreaksOff (i : Invocation) : Prop :=
  i.environment? = none ∨ i.IsStarved

theorem not_breaksOff_of_stop {env : Environment} {stop : CommandLine.Stop}
    (henv : i.environment? = some env) (hread : CommandLine.read env i.args = .error stop) :
    ¬ i.BreaksOff := by
  simp [BreaksOff, IsStarved, henv, hread]

theorem breaksOff_iff_allowsNone {env : Environment} {action : Action}
    (henv : i.environment? = some env) (hread : CommandLine.read env i.args = .ok action) :
    i.BreaksOff ↔ env.AllowsNone := by
  simp [BreaksOff, IsStarved, henv, hread]

/-- A run with a reason to break off does so, with all databases as they were, and a run without
one ends in order. -/
theorem run_cases (hplain : ∀ p ∈ i.accepted?, p.1.IsPlain) (disk : Disk) :
    (i.BreaksOff ∧ i.run disk = (.crash, disk)) ∨
      (¬ i.BreaksOff ∧ (i.run disk).1.IsOrderly) := by
  cases henv : i.environment? with
  | none => exact .inl ⟨.inl henv, by simp only [run, start, henv]⟩
  | some env =>
    cases hread : CommandLine.read env i.args with
    | error stop =>
      have hrun : i.run disk = (.ofStop stop, disk) := by simp only [run, start, henv, hread]
      rw [hrun]
      exact .inr ⟨not_breaksOff_of_stop henv hread, isOrderly_ofStop stop⟩
    | ok action =>
      have hstart : i.start = .ok (.ofEnvironment env, action) := by
        simp only [start, henv, hread]
      have hsettings : (Settings.ofEnvironment env).IsPlain :=
        hplain _ (accepted?_eq_some_iff.2 hstart)
      have hreason : i.BreaksOff ↔ disk.openWith (.ofEnvironment env) = .impossible :=
        (breaksOff_iff_allowsNone henv hread).trans
          (Disk.openWith_eq_impossible_iff hsettings).symm
      simp only [run, hstart, hreason]
      cases disk.openWith (.ofEnvironment env) with
      | impossible => exact .inl ⟨rfl, rfl⟩
      | failed =>
        refine .inr ⟨?_, .inr (.inl ⟨rfl, rfl, .database .unreachable, rfl⟩)⟩
        rintro ⟨⟩
      | opened location db =>
        refine .inr ⟨?_, act_isOrderly i.now action db⟩
        rintro ⟨⟩

end Invocation

theorem Ending.IsOrderly.exitCode_ne {e : Ending} (h : e.IsOrderly) : e.exitCode ≠ 101 := by
  rcases h with ⟨h, -⟩ | ⟨h, -, -⟩ | ⟨h, -⟩ <;> rw [h] <;> decide

/-- **How a run ends.**  Let a run that comes to an action have an address that means what it says,
and room for all of its connections.  It breaks off if its assignment file cannot be taken in or its
settings allow no connection, and then leaves all databases alone; in every other case it ends in
order.  A plain assignment file, or none, is always taken in, and plain settings are only of no use
if the greatest number of connections is written as zero. -/
theorem endings_of_run {i : Invocation} (hplain : ∀ p ∈ i.accepted?, p.1.IsPlain) (disk : Disk) :
    ((i.run disk).1.exitCode = 101 ↔ i.environment? = none ∨ i.IsStarved) ∧
    ((i.run disk).1.exitCode = 101 → i.run disk = (.crash, disk)) ∧
    ((i.run disk).1.exitCode ≠ 101 → (i.run disk).1.IsOrderly) ∧
    (i.env.NulFree → (∀ file ∈ i.dotEnv, DotEnv.Plain file.toList) → i.environment? ≠ none) ∧
    ∀ env : Environment, (Settings.ofEnvironment env).IsPlain →
      (disk.openWith (.ofEnvironment env) = .impossible ↔ env.AllowsNone) := by
  refine ⟨?_, ?_, ?_, ?_, fun env => Disk.openWith_eq_impossible_iff⟩
  · rcases Invocation.run_cases hplain disk with ⟨hoff, hrun⟩ | ⟨hoff, horderly⟩
    · rw [hrun]
      exact iff_of_true rfl hoff
    · exact iff_of_false horderly.exitCode_ne hoff
  · intro hcode
    rcases Invocation.run_cases hplain disk with ⟨-, hrun⟩ | ⟨-, horderly⟩
    · exact hrun
    · exact absurd hcode horderly.exitCode_ne
  · intro hcode
    rcases Invocation.run_cases hplain disk with ⟨-, hrun⟩ | ⟨-, horderly⟩
    · rw [hrun] at hcode
      exact absurd rfl hcode
    · exact horderly
  · intro henv hfile
    unfold Invocation.environment?
    cases hdotEnv : i.dotEnv with
    | none => exact Option.some_ne_none _
    | some file =>
      exact Option.isSome_iff_ne_none.1 (DotEnv.load?_of_plain (hfile file hdotEnv) henv)

/-- A run that is allowed no connection. -/
def starvedRun : Invocation :=
  ⟨[.text "init-schema"],
    [("DATABASE_URL", .text (Location.addressOf "store")), ("DATABASE_MAX_CONNECTIONS", .text "0")],
    none, noon⟩

/-- It has a plain address, and breaks off because of the zero. -/
theorem ending_of_starvedRun :
    (∀ p ∈ starvedRun.accepted?, p.1.IsPlain) ∧ starvedRun.IsStarved ∧
      (starvedRun.run []).1.exitCode = 101 ∧ starvedRun.run [] = (.crash, []) := by
  have haccepted : starvedRun.accepted? =
      some (⟨Location.addressOf "store", 0, 1, false⟩, .setUp) := by decide +kernel
  have hplain : ∀ p ∈ starvedRun.accepted?, p.1.IsPlain := by
    intro p hp
    rw [haccepted] at hp
    cases hp
    exact ⟨.file (by decide) .create, by decide⟩
  have hstarved : starvedRun.IsStarved :=
    ⟨_, .setUp, rfl, by decide +kernel, "0", rfl, 0, .inl rfl⟩
  obtain ⟨hcode, hcrash, -⟩ := endings_of_run hplain []
  exact ⟨hplain, hstarved, hcode.2 (.inr hstarved), hcrash (hcode.2 (.inr hstarved))⟩

/-- Not every run ends with success, a failure or a mistake on the command line. -/
theorem some_run_breaks_off :
    ¬ ∀ (i : Invocation) (disk : Disk), (i.run disk).1.exitCode = 0 ∨
      (i.run disk).1.exitCode = 1 ∨ (i.run disk).1.exitCode = 2 := by
  intro h
  have hcode : (starvedRun.run []).1.exitCode = 101 := by decide +kernel
  have horderly := h starvedRun []
  rw [hcode] at horderly
  revert horderly
  decide

end Accounts
