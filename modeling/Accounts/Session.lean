import Accounts.Step

/-!
# Accounts.Session — a run of steps on one database

The steps of a session follow each other on one database, each at its own moment.
-/

namespace Accounts

open Calendar

namespace Session

/-- The effects of a list of steps, each at its own moment, from a given database on. -/
def effects (db : Database) : List (Timestamp × Step) → List Step.Effect
  | [] => []
  | (now, step) :: rest =>
    let e := step.perform now db
    e :: effects e.database rest

/-- The database that a list of steps ends with. -/
def run (db : Database) (steps : List (Timestamp × Step)) : Database :=
  steps.foldl (fun db s => (s.2.perform s.1 db).database) db

@[simp] theorem run_nil (db : Database) : run db [] = db := rfl

@[simp] theorem run_cons (db : Database) (s : Timestamp × Step) (rest : List (Timestamp × Step)) :
    run db (s :: rest) = run (s.2.perform s.1 db).database rest := rfl

theorem run_append (db : Database) (steps rest : List (Timestamp × Step)) :
    run db (steps ++ rest) = run (run db steps) rest := by
  simp [run]

end Session

end Accounts
