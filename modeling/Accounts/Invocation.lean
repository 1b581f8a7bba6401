import Accounts.CommandLine
import Accounts.Disk
import Accounts.DotEnv

/-!
# Accounts.Invocation — one run of the program

An `Invocation` is all that a run sees: its arguments, its environment, the assignment file beside
it and the clock.  The run fills in the environment, reads the command line, opens the database and
carries out the action; `Ending` says how it ends and what it leaves on its outputs.
-/

namespace Accounts

open Calendar

/-- What a run of the program sees. -/
structure Invocation where
  args : List Word
  env : Environment
  /-- The assignment file, if there is one. -/
  dotEnv : Option String
  now : Timestamp

/-- How a run of the program ends. -/
inductive Ending where
  | help
  | usage (mistake : CommandLine.Usage)
  /-- The program breaks off in the middle. -/
  | crash
  /-- The action succeeded or failed, after these events and with this output. -/
  | finished (result : Except Failure Unit) (events : List Event) (output : List UInt8)

namespace Ending

/-- The ending of a run whose database cannot be opened. -/
def notOpened : Ending :=
  .finished (.error (.database .unreachable)) [] []

/-- The ending of a run that leads to no action. -/
def ofStop : CommandLine.Stop → Ending
  | .help => .help
  | .usage u => .usage u

/-- The status that the run leaves behind. -/
def exitCode : Ending → UInt8
  | .help | .finished (.ok _) _ _ => 0
  | .finished (.error _) _ _ => 1
  | .usage _ => 2
  | .crash => 101

/-- What an action that failed says on the error output. -/
def stderr : Ending → String
  | .finished (.error f) _ _ => "error [" ++ f.code ++ "]: " ++ f.message ++ "\n"
  | _ => ""

/-- What an action wrote to the standard output. -/
def stdout : Ending → List UInt8
  | .finished _ _ output => output
  | _ => []

/-- The events of a run and those of reporting its failure. -/
def journal : Ending → List Event
  | .finished (.ok _) events _ => events
  | .finished (.error f) events _ => events ++ f.events
  | _ => []

end Ending

namespace Invocation

/-- The environment with the assignment file's variables filled in. -/
def environment? (i : Invocation) : Option Environment :=
  match i.dotEnv with
  | none => some i.env
  | some file => DotEnv.load? file i.env

/-- The settings and the action of a run, or the ending of a run that does not come to them. -/
def start (i : Invocation) : Except Ending (Settings × Action) :=
  match i.environment? with
  | none => .error .crash
  | some env =>
    match CommandLine.read env i.args with
    | .error stop => .error (.ofStop stop)
    | .ok action => .ok (.ofEnvironment env, action)

/-- Carries out an action on an open database. -/
def act (now : Timestamp) (action : Action) (db : Database) : Ending × Database :=
  let r := action.perform Database.store now none db
  (.finished r.result (.databaseConnected :: r.events) r.output, r.state)

/-- Runs the program on the kept databases. -/
def run (i : Invocation) (disk : Disk) : Ending × Disk :=
  match i.start with
  | .error ending => (ending, disk)
  | .ok (settings, action) =>
    match disk.openWith settings with
    | .failed => (.notOpened, disk)
    | .impossible => (.crash, disk)
    | .opened location db =>
      ((act i.now action db).1, disk.close location (act i.now action db).2)

/-- Runs the program several times, one run after the other. -/
def runAll (disk : Disk) : List Invocation → List Ending
  | [] => []
  | i :: rest => (i.run disk).1 :: runAll (i.run disk).2 rest

end Invocation

end Accounts
