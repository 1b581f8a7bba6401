import Accounts.Proofs.Soundness
import Mathlib.Logic.Function.Basic

/-!
# Accounts.Proofs.Interleaving — several plans on one database

Clients carry out a plan each, all on the same database.  A schedule says whose turn it is: a
client makes the next request of its plan, or something else is done to the database.  A request is
a single step of the store, so no turn is cut in two.  Turn by turn or at one go, a plan leads to
the same (`Plan.run_turn`), and no schedule spoils a sound database (`Clients.run_sound`).
-/

namespace Accounts

open Calendar

namespace Plan

variable {σ α : Type} {store : Store σ} {p : Plan α} {m : Nat}

/-- What is left of a plan, and of the contents, after its next request or event.  A plan that has
ended stays as it is. -/
def turn (store : Store σ) : Plan α → σ → Plan α × σ
  | .done a, s => (.done a, s)
  | .fail f, s => (.fail f, s)
  | .note _ rest, s => (rest, s)
  | .ask r next, s =>
    match store r s with
    | (.ok reply, s') => (next reply, s')
    | (.error f, s') => (.fail f, s')

/-- How a plan has ended, if it has. -/
def result? : Plan α → Option (Except Failure α)
  | .done a => some (.ok a)
  | .fail f => some (.error f)
  | .note _ _ | .ask _ _ => none

/-- After a turn, the rest of a plan leads where the whole plan leads. -/
theorem run_turn (store : Store σ) (p : Plan α) (s : σ) :
    ((p.turn store s).1.run store (p.turn store s).2).result = (p.run store s).result ∧
      ((p.turn store s).1.run store (p.turn store s).2).state = (p.run store s).state := by
  cases p with
  | done a => exact ⟨rfl, rfl⟩
  | fail f => exact ⟨rfl, rfl⟩
  | note e rest => exact ⟨rfl, rfl⟩
  | ask r next =>
    simp only [turn, run]
    rcases store r s with ⟨f | reply, s'⟩ <;> exact ⟨rfl, rfl⟩

/-- Whatever the replies are, the plan ends within `m` turns. -/
inductive EndsWithin : Nat → Plan α → Prop
  | done (m : Nat) (a : α) : EndsWithin m (.done a)
  | fail (m : Nat) (f : Failure) : EndsWithin m (.fail f)
  | note {m : Nat} (e : Event) {rest : Plan α} (h : EndsWithin m rest) :
    EndsWithin (m + 1) (.note e rest)
  | ask {m : Nat} {r : Request} {next : r.Reply → Plan α}
      (h : ∀ reply, EndsWithin m (next reply)) : EndsWithin (m + 1) (.ask r next)

theorem EndsWithin.turn (h : p.EndsWithin m) (s : σ) :
    (p.turn store s).1.EndsWithin (m - 1) := by
  cases h with
  | done => exact .done _ _
  | fail => exact .fail _ _
  | note e h => exact h
  | @ask m r next h =>
    simp only [Plan.turn]
    rcases store r s with ⟨f | reply, s'⟩
    · exact .fail _ f
    · exact h reply

theorem EndsWithin.result? (h : p.EndsWithin 0) : p.result?.isSome := by
  cases h <;> rfl

/-- A turn of a plan moves the database. -/
theorem turn_moves (p : Plan α) (db : Database) :
    ∃ ws, Moves db ws (p.turn Database.store db).2 := by
  cases p with
  | done a => exact ⟨_, .nil db⟩
  | fail f => exact ⟨_, .nil db⟩
  | note e rest => exact ⟨_, .nil db⟩
  | ask r next =>
    have hmove := (store_move db r).moves
    refine ⟨db.writes r, ?_⟩
    simp only [turn]
    rcases hr : Database.store r db with ⟨f | reply, db'⟩ <;> rwa [hr] at hmove

end Plan

/-- `n` clients on one database, each with what is left of its plan. -/
structure Clients (n : Nat) (α : Type) where
  plans : Fin n → Plan α
  database : Database

/-- What happens next: a client has its turn, or some other step is carried out. -/
inductive Turn (n : Nat) where
  | client (k : Fin n)
  | step (now : Timestamp) (step : Step)
  deriving DecidableEq

namespace Clients

variable {n : Nat} {α : Type}

/-- Carries out a turn. -/
def turn (s : Clients n α) : Turn n → Clients n α
  | .client k =>
    let next := (s.plans k).turn Database.store s.database
    ⟨Function.update s.plans k next.1, next.2⟩
  | .step now step => { s with database := (step.perform now s.database).database }

/-- Carries out a schedule. -/
def run (s : Clients n α) (schedule : List (Turn n)) : Clients n α :=
  schedule.foldl turn s

/-- How the plan of a client has ended, if it has. -/
def result? (s : Clients n α) (k : Fin n) : Option (Except Failure α) :=
  (s.plans k).result?

@[simp] theorem run_nil (s : Clients n α) : s.run [] = s := rfl

@[simp] theorem run_cons (s : Clients n α) (x : Turn n) (rest : List (Turn n)) :
    s.run (x :: rest) = (s.turn x).run rest := rfl

theorem turn_moves (s : Clients n α) (x : Turn n) :
    ∃ ws, Moves s.database ws (s.turn x).database := by
  cases x with
  | client k => exact (s.plans k).turn_moves s.database
  | step now step => exact ⟨_, step_moves now s.database step⟩

/-- Whatever the clients do and however they take turns, a sound database stays sound. -/
theorem run_sound (schedule : List (Turn n)) {s : Clients n α} (h : s.database.Sound) :
    (s.run schedule).database.Sound := by
  induction schedule generalizing s with
  | nil => exact h
  | cons x rest ih =>
    obtain ⟨ws, hmoves⟩ := s.turn_moves x
    exact ih (hmoves.sound h)

/-- A client that gets as many turns as its plan may need has ended. -/
theorem run_ends (schedule : List (Turn n)) {s : Clients n α} {k : Fin n} {m : Nat}
    (h : (s.plans k).EndsWithin m) (hm : m ≤ schedule.count (.client k)) :
    ((s.run schedule).result? k).isSome := by
  induction schedule generalizing s m with
  | nil =>
    obtain rfl : m = 0 := by simpa using hm
    exact h.result?
  | cons x rest ih =>
    by_cases hx : x = .client k
    · subst hx
      rw [List.count_cons_self] at hm
      refine ih (m := m - 1) ?_ (by omega)
      simpa [turn] using h.turn s.database
    · rw [List.count_cons_of_ne hx] at hm
      refine ih (m := m) ?_ hm
      cases x with
      | step now step => exact h
      | client j =>
        have hj : k ≠ j := fun e => hx (e ▸ rfl)
        simpa [turn, hj] using h

end Clients

end Accounts
