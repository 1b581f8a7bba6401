import Accounts.Invocation
import Accounts.Proofs.Addresses
import Accounts.Proofs.Soundness

/-!
# Accounts.Proofs.Processes — many runs of the program are one session for each database

Every run of the program opens a database and closes it again.  For the runs that work on the same
file this comes to the same as if its database had stayed open: they leave the statuses and outputs
of a session that carries out their actions on one database (`processes_as_session`).  The other
runs neither change that database nor see it.  All of this is about plain files, whose addresses
differ if the files do.
-/

namespace Accounts

open Calendar

/-! ### Kept databases -/

namespace Disk

theorem get?_cons (entry : String × Database) (disk : Disk) (name : String) :
    get? (entry :: disk) name = if name = entry.1 then some entry.2 else get? disk name := by
  by_cases h : name = entry.1
  · rw [if_pos h, get?, h, List.lookup_cons_self]
  · rw [if_neg h, get?, List.lookup_cons, beq_false_of_ne h]
    rfl

theorem get?_filter_of_ne (disk : Disk) {name other : String} (h : other ≠ name) :
    get? (disk.filter fun entry => entry.1 ≠ name) other = get? disk other := by
  induction disk with
  | nil => rfl
  | cons entry disk ih =>
    by_cases hentry : entry.1 = name
    · have hne : other ≠ entry.1 := fun e => h (e.trans hentry)
      rw [List.filter_cons_of_neg (by simp [hentry]), ih, get?_cons, if_neg hne]
    · rw [List.filter_cons_of_pos (by simp [hentry]), get?_cons, get?_cons, ih]

theorem get?_set (disk : Disk) (name other : String) (db : Database) :
    (disk.set name db).get? other = if other = name then some db else disk.get? other := by
  rw [set, get?_cons]
  by_cases h : other = name
  · rw [if_pos h, if_pos h]
  · rw [if_neg h, if_neg h, get?_filter_of_ne disk h]

/-- The database that is found at a location, or made there. -/
def found (disk : Disk) : Location → Database
  | .named name _ => (disk.get? name).getD {}
  | .memory | .elsewhere | .server => {}

end Disk

/-! ### What a process leaves behind -/

/-- The status of a process and what it wrote, log lines aside. -/
structure Trace where
  exitCode : UInt8
  stdout : List UInt8
  stderr : String
  deriving DecidableEq

/-- What a run of the program leaves behind. -/
def Ending.trace (e : Ending) : Trace :=
  ⟨e.exitCode, e.stdout, e.stderr⟩

/-- What a process would leave behind that shows the effect of a step. -/
def Step.Effect.trace (e : Step.Effect) : Trace :=
  match e.result with
  | .ok _ => ⟨0, e.output, ""⟩
  | .error f => ⟨1, [], "error [" ++ f.code ++ "]: " ++ f.message ++ "\n"⟩

namespace Invocation

variable {i : Invocation} {settings : Settings} {action : Action}

/-- The settings and the action of a run that comes to an action. -/
def accepted? (i : Invocation) : Option (Settings × Action) :=
  i.start.toOption

theorem accepted?_eq_some_iff : i.accepted? = some (settings, action) ↔
    i.start = .ok (settings, action) := by
  unfold accepted?
  cases i.start <;> simp [Except.toOption]

/-- The run, if it comes to an action, keeps to the standard limits on connections, and works on a
database that is kept nowhere or on a plain file that is made if it is missing. -/
def Opens (i : Invocation) : Prop :=
  ∀ p ∈ i.accepted?, p.1.HasStandardLimits ∧ Location.IsKept p.1.url

instance (i : Invocation) : Decidable i.Opens :=
  inferInstanceAs (Decidable (∀ p ∈ i.accepted?, _))

/-- The run works on the database that is kept under the name. -/
def worksOn (name : String) (i : Invocation) : Bool :=
  i.accepted?.any fun p => Location.ofUrl? p.1.url = some (.named name true)

/-- The run works on a database that is kept nowhere. -/
def isMemory (i : Invocation) : Bool :=
  i.accepted?.any fun p => Location.ofUrl? p.1.url = some .memory

/-- The action of the run, with room for all of its output. -/
def step? (i : Invocation) : Option (Timestamp × Step) :=
  i.accepted?.map fun p => (i.now, .action p.2 none)

/-- The actions of the runs that work on the database of a name, one after the other. -/
def stepsOn (name : String) (runs : List Invocation) : List (Timestamp × Step) :=
  (runs.filter (worksOn name)).filterMap step?

/-- What the runs that work on the database of a name leave behind, one after the other. -/
def tracesOn (name : String) (disk : Disk) (runs : List Invocation) : List Trace :=
  ((runs.zip (runAll disk runs)).filter fun r => r.1.worksOn name).map fun r => r.2.trace

/-- The kept databases after several runs. -/
def diskAfter (disk : Disk) (runs : List Invocation) : Disk :=
  runs.foldl (fun disk i => (i.run disk).2) disk

/-- The run allows connections and opens a database that is found or made. -/
theorem Opens.location (hopens : i.Opens) (h : i.accepted? = some (settings, action)) :
    settings.maxConnections ≠ 0 ∧
      ∃ location, Location.ofUrl? settings.url = some location ∧ location.opens = true := by
  obtain ⟨⟨hmax, -⟩, hkept⟩ := hopens _ h
  exact ⟨by rw [hmax]; decide, hkept.location⟩

/-- A run works on a plain file if its address says so, and in no other case. -/
theorem worksOn_iff {name : String} (hname : Location.IsFile name) (hopens : i.Opens)
    (h : i.accepted? = some (settings, action)) :
    i.worksOn name = true ↔ settings.url = Location.addressOf name := by
  obtain ⟨-, hkept⟩ := hopens _ h
  rw [worksOn, h, Option.any_some, decide_eq_true_iff]
  rcases hkept with hurl | ⟨other, hother, hurl⟩
  · rw [hurl, Location.ofUrl?_memory]
    refine iff_of_false (fun hl => by cases hl) fun he => ?_
    have hsame := congrArg Location.ofUrl? he
    rw [Location.ofUrl?_memory, Location.ofUrl?_addressOf hname] at hsame
    cases hsame
  · rw [hurl, Location.ofUrl?_addressOf hother]
    constructor
    · rintro ⟨⟩
      rfl
    · intro he
      rw [Location.addressOf_inj hother hname he]

/-- A run works on a database that is kept nowhere if its address says so, and in no other case. -/
theorem isMemory_iff (hopens : i.Opens) (h : i.accepted? = some (settings, action)) :
    i.isMemory = true ↔ settings.url = "sqlite::memory:" := by
  obtain ⟨-, hkept⟩ := hopens _ h
  rw [isMemory, h, Option.any_some, decide_eq_true_iff]
  constructor
  · intro hl
    rcases hkept with hurl | ⟨other, hother, hurl⟩
    · exact hurl
    · rw [hurl, Location.ofUrl?_addressOf hother] at hl
      cases hl
  · intro hurl
    rw [hurl, Location.ofUrl?_memory]

/-! ### One run -/

/-- An action leaves behind what its step does: with room for all of its output, it fails only
before it prints. -/
theorem act_eq (now : Timestamp) (action : Action) (db : Database) :
    (act now action db).1.trace = (Step.perform now db (.action action none)).trace ∧
      (act now action db).2 = (Step.perform now db (.action action none)).database := by
  refine ⟨?_, rfl⟩
  simp only [act, Step.perform, Action.perform]
  rcases (action.plan now).run Database.store db with ⟨_ | _ | u, es, db'⟩ <;> rfl

/-- A run that comes to no action leaves all databases alone. -/
theorem run_of_stopped {ending : Ending} (h : i.start = .error ending) (disk : Disk) :
    i.run disk = (ending, disk) := by
  simp only [run, h]

theorem openWith_of_opens {location : Location} (hmax : settings.maxConnections ≠ 0)
    (hl : Location.ofUrl? settings.url = some location) (hopens : location.opens = true)
    (disk : Disk) : disk.openWith settings = .opened location (disk.found location) := by
  simp only [Disk.openWith, hl, if_neg hmax]
  cases location with
  | memory => rfl
  | named name create =>
    obtain rfl : create = true := hopens
    simp only [Disk.openAt, Disk.found]
    cases disk.get? name <;> rfl
  | elsewhere | server => cases hopens

/-- A run that opens a database carries out the step of its action there. -/
theorem run_of_opens {location : Location} (h : i.accepted? = some (settings, action))
    (hopens : i.Opens) (hl : Location.ofUrl? settings.url = some location) (disk : Disk) :
    (i.run disk).1.trace =
      (Step.perform i.now (disk.found location) (.action action none)).trace ∧
    (i.run disk).2 = disk.close location
      (Step.perform i.now (disk.found location) (.action action none)).database := by
  obtain ⟨hmax, l, hl', hopen⟩ := hopens.location h
  obtain rfl : location = l := Option.some.inj (hl.symm.trans hl')
  obtain ⟨htrace, hdb⟩ := act_eq i.now action (disk.found location)
  have hrun : i.run disk = ((act i.now action (disk.found location)).1,
      disk.close location (act i.now action (disk.found location)).2) := by
    simp only [run, accepted?_eq_some_iff.1 h, openWith_of_opens hmax hl hopen]
  rw [hrun]
  exact ⟨htrace, by rw [hdb]⟩

/-- A run on the kept database of a name does there what its step does. -/
theorem run_of_worksOn {name : String} (hopens : i.Opens) (h : i.worksOn name = true)
    (disk : Disk) :
    ∃ step, i.step? = some (i.now, step) ∧
      (i.run disk).1.trace = (step.perform i.now ((disk.get? name).getD {})).trace ∧
      (i.run disk).2.get? name =
        some (step.perform i.now ((disk.get? name).getD {})).database := by
  obtain ⟨⟨settings, action⟩, hacc, hl⟩ := (Option.any_eq_true _ _).1 h
  obtain ⟨htrace, hdisk⟩ := run_of_opens hacc hopens (of_decide_eq_true hl) disk
  refine ⟨.action action none, by rw [step?, hacc]; rfl, htrace, ?_⟩
  rw [hdisk, Disk.close, Disk.get?_set, if_pos rfl]
  rfl

theorem get?_of_not_worksOn {name : String} (hopens : i.Opens) (h : i.worksOn name = false)
    (disk : Disk) : (i.run disk).2.get? name = disk.get? name := by
  cases hacc : i.accepted? with
  | none =>
    cases hstart : i.start with
    | error ending => rw [run_of_stopped hstart]
    | ok p => simp [accepted?, hstart, Except.toOption] at hacc
  | some p =>
    obtain ⟨-, location, hl, hopen⟩ := hopens.location hacc
    obtain ⟨-, hdisk⟩ := run_of_opens hacc hopens hl disk
    rw [hdisk]
    cases location with
    | memory | elsewhere | server => rfl
    | named other create =>
      obtain rfl : create = true := hopen
      have hne : name ≠ other := by
        rintro rfl
        rw [worksOn, hacc] at h
        exact of_decide_eq_false h hl
      rw [Disk.close, Disk.get?_set, if_neg hne]

/-- A run on a database that is kept nowhere works on an empty one and keeps nothing of it. -/
theorem run_of_isMemory (hopens : i.Opens) (h : i.isMemory = true) (disk : Disk) :
    ∃ step, i.step? = some (i.now, step) ∧
      (i.run disk).1.trace = (step.perform i.now {}).trace ∧ (i.run disk).2 = disk := by
  obtain ⟨⟨settings, action⟩, hacc, hl⟩ := (Option.any_eq_true _ _).1 h
  obtain ⟨htrace, hdisk⟩ := run_of_opens hacc hopens (of_decide_eq_true hl) disk
  exact ⟨.action action none, by rw [step?, hacc]; rfl, htrace, hdisk⟩

/-! ### Many runs -/

theorem stepsOn_cons (name : String) (i : Invocation) (rest : List Invocation) :
    stepsOn name (i :: rest) =
      (if i.worksOn name then i.step?.toList else []) ++ stepsOn name rest := by
  cases hon : i.worksOn name with
  | true =>
    rw [stepsOn, List.filter_cons_of_pos hon, List.filterMap_cons, if_pos rfl, stepsOn]
    cases i.step? <;> rfl
  | false =>
    rw [stepsOn, List.filter_cons_of_neg (Bool.eq_false_iff.1 hon), stepsOn]
    rfl

theorem tracesOn_cons (name : String) (disk : Disk) (i : Invocation) (rest : List Invocation) :
    tracesOn name disk (i :: rest) =
      (if i.worksOn name then [(i.run disk).1.trace] else []) ++
        tracesOn name (i.run disk).2 rest := by
  simp only [tracesOn, runAll, List.zip_cons_cons, List.filter_cons]
  cases i.worksOn name <;> rfl

theorem diskAfter_cons (disk : Disk) (i : Invocation) (rest : List Invocation) :
    diskAfter disk (i :: rest) = diskAfter (i.run disk).2 rest := rfl

/-- The runs that work on the kept database of a name leave behind what one session does that
carries out their actions on this database. -/
theorem tracesOn_eq {runs : List Invocation} (hopens : ∀ i ∈ runs, i.Opens) (name : String)
    (disk : Disk) :
    tracesOn name disk runs =
      (Session.effects ((disk.get? name).getD {}) (stepsOn name runs)).map Step.Effect.trace ∧
    ((diskAfter disk runs).get? name).getD {} =
      Session.run ((disk.get? name).getD {}) (stepsOn name runs) := by
  induction runs generalizing disk with
  | nil => exact ⟨rfl, rfl⟩
  | cons i rest ih =>
    obtain ⟨hi, hrest⟩ := List.forall_mem_cons.1 hopens
    obtain ⟨htraces, hdisk⟩ := ih hrest (i.run disk).2
    rw [stepsOn_cons, tracesOn_cons, diskAfter_cons, htraces, hdisk]
    cases hon : i.worksOn name with
    | true =>
      obtain ⟨step, hstep, htrace, hget⟩ := run_of_worksOn hi hon disk
      rw [hget, hstep, htrace]
      exact ⟨rfl, rfl⟩
    | false =>
      rw [get?_of_not_worksOn hi hon]
      exact ⟨rfl, rfl⟩

end Invocation

/-- **Many runs are one session for each file.**  Let every run that comes to an action keep to the
standard limits on connections and open a database that is kept nowhere, or in a plain file that is
made if it is missing.  Then those whose address is that of the file leave behind what one session
does that starts with an empty database, and the file ends as this session does.  A run that does
not work on the file leaves it alone; one that comes to no action changes no database, and one on a
database that is kept nowhere finds it empty. -/
theorem processes_as_session {runs : List Invocation} (hopens : ∀ i ∈ runs, i.Opens)
    {name : String} (hname : Location.IsFile name) :
    Invocation.tracesOn name [] runs =
      (Session.effects {} (Invocation.stepsOn name runs)).map Step.Effect.trace ∧
    ((Invocation.diskAfter [] runs).get? name).getD {} =
      Session.run {} (Invocation.stepsOn name runs) ∧
    (∀ i ∈ runs, ∀ settings action, i.accepted? = some (settings, action) →
      (i.worksOn name = true ↔ settings.url = Location.addressOf name) ∧
      (i.isMemory = true ↔ settings.url = "sqlite::memory:")) ∧
    ∀ i ∈ runs, ∀ disk : Disk,
      (i.worksOn name = false → (i.run disk).2.get? name = disk.get? name) ∧
      (∀ ending, i.start = .error ending → i.run disk = (ending, disk)) ∧
      (i.isMemory = true → ∃ step, i.step? = some (i.now, step) ∧
        (i.run disk).1.trace = (step.perform i.now {}).trace ∧ (i.run disk).2 = disk) := by
  obtain ⟨htraces, hdisk⟩ := Invocation.tracesOn_eq hopens name []
  refine ⟨htraces, hdisk, ?_, fun i hi disk => ⟨?_, ?_, ?_⟩⟩
  · intro i hi settings action hacc
    exact ⟨Invocation.worksOn_iff hname (hopens i hi) hacc,
      Invocation.isMemory_iff (hopens i hi) hacc⟩
  · intro hoff
    exact Invocation.get?_of_not_worksOn (hopens i hi) hoff disk
  · intro ending hstart
    exact Invocation.run_of_stopped hstart disk
  · intro hmem
    exact Invocation.run_of_isMemory (hopens i hi) hmem disk

/-- A run with the given address and arguments. -/
def runAt (url : String) (args : List String) : Invocation :=
  ⟨args.map .text, [("DATABASE_URL", .text url)], none, noon⟩

/-- Runs on two files and on a database that is kept nowhere, with a mistake and a request for help
in between. -/
def mixedRuns : List Invocation :=
  [runAt (Location.addressOf "a") ["init-schema"],
    runAt (Location.addressOf "b") ["show", "1"],
    runAt (Location.addressOf "a") ["create", "--username=alice", "--password-hash=first"],
    runAt "sqlite::memory:" ["init-schema"],
    runAt (Location.addressOf "a") ["create"],
    runAt (Location.addressOf "b") ["init-schema"],
    runAt (Location.addressOf "b") ["create", "--username=alice", "--password-hash=second"],
    runAt (Location.addressOf "a") ["help"],
    runAt (Location.addressOf "a") ["create", "--username=alice", "--password-hash=third"],
    runAt (Location.addressOf "a") ["show", "1"]]

theorem session_of_mixedRuns :
    (∀ i ∈ mixedRuns, i.Opens) ∧
    Invocation.stepsOn "a" mixedRuns = [(noon, .action .setUp none),
      (noon, .action (.register "alice" "first" none) none),
      (noon, .action (.register "alice" "third" none) none), (noon, .action (.view 1) none)] ∧
    Invocation.tracesOn "a" [] mixedRuns =
      (Session.effects {} (Invocation.stepsOn "a" mixedRuns)).map Step.Effect.trace ∧
    (Invocation.tracesOn "a" [] mixedRuns).map Trace.stderr =
      ["", "", "error [CONFLICT]: Username already exists\n", ""] := by
  have hopens : ∀ i ∈ mixedRuns, i.Opens := by decide +kernel
  have hsteps : Invocation.stepsOn "a" mixedRuns = [(noon, .action .setUp none),
      (noon, .action (.register "alice" "first" none) none),
      (noon, .action (.register "alice" "third" none) none), (noon, .action (.view 1) none)] := by
    decide +kernel
  have hname : Location.IsFile "a" := by decide
  obtain ⟨htraces, -⟩ := processes_as_session hopens hname
  refine ⟨hopens, hsteps, htraces, ?_⟩
  rw [htraces, hsteps]
  decide +kernel

end Accounts
