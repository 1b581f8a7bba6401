import Accounts.Proofs.Decisions
import Accounts.Script

/-!
# Accounts.Proofs.ScriptedStores — the service on a store that may reply anything

A script stands for any store whatever: it may find a user that nobody asked for, claim to have
written another one than was sent, or fail at any point.  `service_on_script` lists, for every
script, what each operation asks for and how it ends.  All that an operation relies on is the reply
to its last request.
-/

namespace Accounts

open Calendar

namespace Script

/-- The line that the `k`-th request meets, counted from 0. -/
def line (lines : List Line) (k : Nat) : Line :=
  lines.getD k (.failure (.internal "script exhausted"))

/-- The end of a run that made these requests, each of which took a line. -/
def ended {α : Type} (lines : List Line) (requests : List Request) (result : Except Failure α)
    (events : List Event) : Outcome Script α :=
  ⟨result, events, lines.drop requests.length, requests⟩

/-- The reply that a line makes to a request. -/
def Line.reply (line : Line) : (r : Request) → Except Failure r.Reply
  | .add u => line.written u
  | .save u => line.written u
  | .byId _ => line.lookup
  | .byName _ => line.lookup
  | .remove _ => line.deletion
  | .createTable => .ok ()

theorem next_eq (lines : List Line) (requests : List Request) (k : Nat) :
    (⟨lines.drop k, requests⟩ : Script).next = line lines k := by
  rw [next, line, List.headD_eq_head?_getD, List.head?_drop, List.getD_eq_getElem?_getD, exhausted]

/-- Every request but that for the table takes the next line. -/
theorem store_eq {r : Request} (h : r ≠ .createTable) (lines : List Line)
    (requests : List Request) (k : Nat) :
    store r ⟨lines.drop k, requests⟩ =
      ((line lines k).reply r, ⟨lines.drop (k + 1), requests ++ [r]⟩) := by
  cases r with
  | createTable => exact absurd rfl h
  | add | byId | byName | save | remove =>
    simp only [store, next_eq, after, List.tail_drop, Line.reply]

variable {α : Type} {r : Request} {next : r.Reply → Plan α} {lines : List Line}

/-- A plan goes on with the first line's reply to its first request. -/
theorem run_of_reply {reply : r.Reply} (h : r ≠ .createTable)
    (hreply : (line lines 0).reply r = .ok reply) :
    (Plan.ask r next).run store ⟨lines, []⟩ = (next reply).run store ⟨lines.drop 1, [r]⟩ := by
  have hstore : store r ⟨lines, []⟩ = ((line lines 0).reply r, ⟨lines.drop 1, [r]⟩) :=
    store_eq h lines [] 0
  rw [hreply] at hstore
  exact Plan.run_ask_of_ok hstore

/-- A plan ends with the first line's refusal of its first request. -/
theorem run_of_failure {f : Failure} (h : r ≠ .createTable)
    (hreply : (line lines 0).reply r = .error f) :
    (Plan.ask r next).run store ⟨lines, []⟩ = ended lines [r] (.error f) [] := by
  have hstore : store r ⟨lines, []⟩ = ((line lines 0).reply r, ⟨lines.drop 1, [r]⟩) :=
    store_eq h lines [] 0
  rw [hreply] at hstore
  exact Plan.run_ask_of_error hstore

/-- A last request whose success is noted: what it replies is the result. -/
theorem run_last (h : r ≠ .createTable) (requests : List Request) (e : r.Reply → Event) :
    (Plan.ask r fun reply => .note (e reply) (.done reply)).run store
        ⟨lines.drop requests.length, requests⟩ =
      ended lines (requests ++ [r]) ((line lines requests.length).reply r)
        (((line lines requests.length).reply r).toOption.map e).toList := by
  rw [Service.run_noted, store_eq h, ended, List.length_append, List.length_singleton]

end Script

open Script in
/-- **The service on any script.**  A registration looks for the name and adds the new user exactly
if no user is found; a change looks for the account and saves it, changed, exactly if it is found
and there is something to change; the other two make one request.  The reply to the last request is
the result, and its success is noted, unless a look-up ends the operation. -/
theorem service_on_script (lines : List Script.Line) (now : Timestamp) :
    (∀ username passwordHash birthDate,
      let sent : User := ⟨none, username, birthDate, passwordHash, now⟩
      let reply := (line lines 1).written sent
      (Service.register now username passwordHash birthDate).run store ⟨lines, []⟩ =
        match (line lines 0).lookup with
        | .ok none => ended lines [.byName username, .add sent] reply
            (reply.toOption.map fun u => .userRegistered u.id u.username).toList
        | .ok (some _) => ended lines [.byName username] (.error (.conflict "Username")) []
        | .error f => ended lines [.byName username] (.error f) []) ∧
    (∀ id, (Service.find id).run store ⟨lines, []⟩ =
      match (line lines 0).lookup with
      | .ok none => ended lines [.byId id] (.error .notFound) []
      | .ok (some found) => ended lines [.byId id] (.ok found) []
      | .error f => ended lines [.byId id] (.error f) []) ∧
    (∀ id (changes : Changes), (Service.change id changes).run store ⟨lines, []⟩ =
      match (line lines 0).lookup with
      | .ok none => ended lines [.byId id] (.error .notFound) []
      | .ok (some found) =>
        let sent : User := ⟨found.id, changes.username.getD found.username,
          changes.birthDate.getD found.birthDate, changes.passwordHash.getD found.passwordHash,
          found.createdAt⟩
        let reply := (line lines 1).written sent
        if changes = ⟨none, none, none⟩ then ended lines [.byId id] (.ok found) []
        else ended lines [.byId id, .save sent] reply
          (reply.toOption.map fun _ => .userUpdated id).toList
      | .error f => ended lines [.byId id] (.error f) []) ∧
    ∀ id,
      let reply := (line lines 0).deletion
      (Service.remove id).run store ⟨lines, []⟩ =
        ended lines [.remove id] reply (reply.toOption.map fun _ => .userDeleted id).toList := by
  refine ⟨?_, ?_, ?_, ?_⟩
  · intro username passwordHash birthDate sent reply
    have hname : Request.byName username ≠ .createTable := by simp
    rw [Service.register_eq]
    rcases hlook : (line lines 0).lookup with f | _ | found
    · exact run_of_failure hname hlook
    · rw [run_of_reply hname hlook]
      exact run_last (r := .add sent) (by simp) [.byName username] _
    · rw [run_of_reply hname hlook]
      rfl
  · intro id
    have hid : Request.byId id ≠ .createTable := by simp
    rw [Service.find_eq]
    rcases hlook : (line lines 0).lookup with f | _ | found
    · exact run_of_failure hid hlook
    · exact run_of_reply hid hlook
    · exact run_of_reply hid hlook
  · intro id changes
    have hid : Request.byId id ≠ .createTable := by simp
    rw [Service.change_eq]
    rcases hlook : (line lines 0).lookup with f | _ | found
    · exact run_of_failure hid hlook
    · exact run_of_reply hid hlook
    · rw [run_of_reply hid hlook, Option.elim_some, Service.changeOf]
      by_cases hempty : changes = {}
      · rw [if_pos hempty]
        simp only [if_pos hempty]
        rfl
      · rw [if_neg hempty]
        simp only [if_neg hempty]
        exact run_last (r := .save (found.change changes)) (by simp) [.byId id]
          fun _ => .userUpdated id
  · intro id reply
    rw [Service.remove_eq]
    exact run_last (r := .remove id) (by simp) [] fun _ => .userDeleted id

end Accounts
