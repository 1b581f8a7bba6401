import Accounts.Action
import Accounts.Database

/-!
# Accounts.Step — what can happen to an open database

A `Step` is anything that happens to a database while it is open: requests made directly, service
operations, administrator's actions, and what is done to the database from outside.
-/

namespace Accounts

open Calendar

/-- Something that happens to an open database. -/
inductive Step where
  | request (request : Request)
  | operation (operation : Service.Operation)
  | action (action : Action) (capacity : Capacity)
  /-- Makes the table if it is missing. -/
  | ensureTable
  /-- Asks whether the database answers at all. -/
  | ping
  | columns
  | dropTable
  | raise (fault : Fault)
  | clearFaults
  deriving DecidableEq

namespace Step

/-- What a step answers with. -/
inductive Answer where
  | nothing
  | user (user : User)
  | lookup (user : Option User)
  | columns (columns : List Schema.Column)
  deriving DecidableEq

/-- The answer that a reply to a request makes. -/
def Answer.ofReply : (request : Request) → request.Reply → Answer
  | .add _, u | .save _, u => .user u
  | .byId _, u | .byName _, u => .lookup u
  | .remove _, _ | .createTable, _ => .nothing

/-- The answer of an operation that ends with a user or with none. -/
def Answer.ofUser? : Option User → Answer
  | some u => .user u
  | none => .nothing

/-- What a step leads to. -/
structure Effect where
  result : Except Failure Answer
  events : List Event := []
  /-- The bytes that the output of an action kept. -/
  output : List UInt8 := []
  database : Database

/-- Carries out a step at the moment `now`. -/
def perform (now : Timestamp) (db : Database) : Step → Effect
  | .request r =>
    { result := (db.store r).1.map (Answer.ofReply r), database := (db.store r).2 }
  | .operation op =>
    let o := (op.plan now).run Database.store db
    { result := o.result.map Answer.ofUser?, events := o.events, database := o.state }
  | .action a capacity =>
    let r := a.perform Database.store now capacity db
    { result := r.result.map fun _ => .nothing, events := r.events, output := r.output,
      database := r.state }
  | .ensureTable =>
    let o := Service.ensureTable.run Database.store db
    { result := o.result.map fun _ => .nothing, events := o.events, database := o.state }
  | .ping => { result := .ok .nothing, database := db }
  | .columns => { result := .ok (.columns db.columns), database := db }
  | .dropTable => { result := .ok .nothing, database := db.dropTable }
  | .raise fault =>
    { result := (db.raise fault).1.map fun _ => .nothing, database := (db.raise fault).2 }
  | .clearFaults => { result := .ok .nothing, database := db.clearFaults }

/-- The events of a step and those of reporting its failure. -/
def Effect.journal (e : Effect) : List Event :=
  match e.result with
  | .ok _ => e.events
  | .error f => e.events ++ f.events

end Step

end Accounts
