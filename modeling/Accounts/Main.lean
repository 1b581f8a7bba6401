import Accounts.Invocation
import Accounts.Snapshot
import Std.Time.Zoned

/-!
# Accounts.Main — the program `user-admin`

Gathers what a run sees, carries it out on the one database file that the run opens, and writes the
outputs.  All decisions are made in `Accounts.Invocation`.
-/

namespace Accounts.UserAdmin

open Calendar

/-- The local time, in whole microseconds. -/
def now : IO Timestamp := do
  let t ← Std.Time.PlainDateTime.now
  let date := Date.of? t.date.year.toInt t.date.month.val.toNat t.date.day.val.toNat
  let nano := t.time.nanosecond.val.toNat / 1000 * 1000
  match date.bind fun d => Timestamp.of? d t.time.hour.val.toNat t.time.minute.val.toNat
      (min t.time.second.val.toNat 59) nano with
  | some t => return t
  | none => throw (IO.userError "the clock is out of range")

/-- The text of a file, if there is such a file and it holds a text. -/
def readFile? (path : String) : IO (Option String) := do
  try
    return some (← IO.FS.readFile path)
  catch _ =>
    return none

/-- The assignment file of the working directory, or else of the nearest directory above it. -/
def findDotEnv : IO (Option String) := do
  let mut path := ".env"
  for _ in (← IO.currentDir).components do
    if let some file ← readFile? path then return some file
    path := "../" ++ path
  return none

/-- Names of variables that may matter to a run: those of the settings and all that the assignment
file could mention. -/
def relevantNames (dotEnv : Option String) : List String :=
  let file := (dotEnv.getD "").toList
  let runs := fun (inName : Char → Bool) => (file.splitBy fun a b => inName a == inName b).map
    String.ofList
  [CommandLine.passwordHashVariable, "USER_SERVICE_DATABASE_URL", "DATABASE_URL",
      "DATABASE_MAX_CONNECTIONS", "DATABASE_MIN_CONNECTIONS", "DATABASE_SQL_LOGGING"] ++
    runs DotEnv.continuesName ++ runs Text.isAlphanumeric ++
    runs fun c => c ≠ '\x7b' && c ≠ '\x7d'

/-- The variables of the given names that are set. -/
def environment (names : List String) : IO Environment := do
  let entries ← names.mapM fun name => do
    return (← IO.getEnv name).map fun value => (name, Word.text value)
  return entries.filterMap fun entry => entry

/-- The kept databases that a run may open; `none` if its file holds something else. -/
def loadDisk (url : String) : IO (Option Disk) := do
  match Location.ofUrl? url with
  | some (.named name _) =>
    match ← readFile? name with
    | some file => return (Snapshot.read? file).map fun db => [(name, db)]
    | none => return some []
  | _ => return some []

/-- Writes all databases of a disk to their files. -/
def saveDisk (disk : Disk) : IO Unit :=
  disk.forM fun (name, db) => IO.FS.writeFile name (Snapshot.write db)

/-- Writes what a run leaves on its outputs. -/
def report (ending : Ending) : IO Unit := do
  let out ← IO.getStdout
  for event in ending.journal do
    out.putStrLn event.line
  out.write ⟨ending.stdout.toArray⟩
  match ending with
  | .help => out.putStrLn "Usage: user-admin <COMMAND>"
  | .usage u => (← IO.getStderr).putStrLn ("error: " ++ u.name)
  | ending => (← IO.getStderr).putStr ending.stderr

/-- Runs the program with the given arguments. -/
def run (args : List String) : IO UInt8 := do
  let dotEnv ← findDotEnv
  let i : Invocation :=
    ⟨args.map .text, ← environment (relevantNames dotEnv), dotEnv, ← now⟩
  let ending ← match i.start with
    | .error ending => pure ending
    | .ok (settings, _) =>
      match ← loadDisk settings.url with
      | none => pure Ending.notOpened
      | some disk =>
        let (ending, disk) := i.run disk
        saveDisk disk
        pure ending
  report ending
  return ending.exitCode

end Accounts.UserAdmin

/-- The program `user-admin`. -/
def main (args : List String) : IO UInt32 := do
  return (← Accounts.UserAdmin.run args).toUInt32
