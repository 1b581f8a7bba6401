import Accounts.Capacity
import Accounts.Service

/-!
# Accounts.Action — what an administrator can have done

An `Action` works on a store and prints the user it ends with, pretty, followed by a line break.
Printing comes last: if the output is full, the action fails but what it changed stays changed.
-/

namespace Accounts

open Calendar

/-- Something that an administrator can have done. -/
inductive Action where
  | setUp
  | register (username passwordHash : String) (birthDate : Option Date)
  | view (id : Int)
  | change (id : Int) (changes : Changes)
  | remove (id : Int)
  deriving DecidableEq

/-- What an action leads to. -/
structure Report (σ : Type) where
  result : Except Failure Unit
  events : List Event
  /-- The bytes that the output kept. -/
  output : List UInt8
  state : σ

namespace Action

/-- The work of an action on the store, which ends with the user to print, if any. -/
def plan (now : Timestamp) : Action → Plan (Option User)
  | .setUp => do
    Service.ensureTable
    Plan.tell .tableReady
    return none
  | .register username passwordHash birthDate => do
    return some (← Service.register now username passwordHash birthDate)
  | .view id => do
    return some (← Service.find id)
  | .change id changes => do
    return some (← Service.change id changes)
  | .remove id => do
    Service.remove id
    Plan.tell (.deletionDone id)
    return none

/-- What is printed for a user. -/
def printed (u : User) : List UInt8 :=
  bytesOf (u.prettyJson ++ "\n")

/-- The failure of an output that has no more room. -/
def outputFull : Failure :=
  .internal "Failed to write output: out full"

/-- Prints a user, and tells whether all of it found room. -/
def print (capacity : Capacity) (u : User) : Except Failure Unit × List UInt8 :=
  (if capacity.fits (printed u) then .ok () else .error outputFull, capacity.keep (printed u))

/-- Prints the user that the work on the store ends with, if it ends with one. -/
def report {σ : Type} (capacity : Capacity) (o : Outcome σ (Option User)) : Report σ :=
  match o.result with
  | .error f => ⟨.error f, o.events, [], o.state⟩
  | .ok none => ⟨.ok (), o.events, [], o.state⟩
  | .ok (some u) => ⟨(print capacity u).1, o.events, (print capacity u).2, o.state⟩

/-- Carries out an action on a store, at the moment `now`, and prints to an output. -/
def perform {σ : Type} (store : Store σ) (now : Timestamp) (capacity : Capacity) (action : Action)
    (s : σ) : Report σ :=
  report capacity ((action.plan now).run store s)

@[simp] theorem report_events {σ : Type} (capacity : Capacity) (o : Outcome σ (Option User)) :
    (report capacity o).events = o.events := by
  rcases o with ⟨_ | _ | _, _, _⟩ <;> rfl

@[simp] theorem report_state {σ : Type} (capacity : Capacity) (o : Outcome σ (Option User)) :
    (report capacity o).state = o.state := by
  rcases o with ⟨_ | _ | _, _, _⟩ <;> rfl

end Action

end Accounts
