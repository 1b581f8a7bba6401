import Accounts.Event
import Accounts.Request

/-!
# Accounts.Plan — requests to a store, one after the other

A `Plan` says which requests to make, how to go on from each reply and which events to note.  A
reply that is a failure ends the plan with that failure.  Plans are data: `Plan.run` carries one
out on a store from beginning to end, and other runs can interleave the requests of several plans.
-/

namespace Accounts

/-- Requests to a store that lead to an `α`. -/
inductive Plan (α : Type) where
  | done (value : α)
  | fail (failure : Failure)
  /-- Notes an event and goes on. -/
  | note (event : Event) (rest : Plan α)
  /-- Makes a request and goes on with its reply. -/
  | ask (request : Request) (next : request.Reply → Plan α)

/-- What a plan leads to on some store. -/
structure Outcome (σ α : Type) where
  result : Except Failure α
  events : List Event
  state : σ

/-- The outcome with another value in the place of its own. -/
def Outcome.map {σ α β : Type} (f : α → β) (o : Outcome σ α) : Outcome σ β :=
  ⟨o.result.map f, o.events, o.state⟩

namespace Plan

variable {α β σ : Type}

/-- One plan after the other. -/
def bind : Plan α → (α → Plan β) → Plan β
  | .done a, k => k a
  | .fail f, _ => .fail f
  | .note e rest, k => .note e (rest.bind k)
  | .ask r next, k => .ask r fun reply => (next reply).bind k

instance : Monad Plan where
  pure := .done
  bind := bind

/-- The plan of a single request. -/
def request (r : Request) : Plan r.Reply :=
  .ask r .done

/-- The plan of a single event. -/
def tell (e : Event) : Plan Unit :=
  .note e (.done ())

/-- The plan of a value that is there or a failure. -/
def ofExcept : Except Failure α → Plan α
  | .ok a => .done a
  | .error f => .fail f

/-- Carries out a plan on a store. -/
def run (store : Store σ) : Plan α → σ → Outcome σ α
  | .done a, s => ⟨.ok a, [], s⟩
  | .fail f, s => ⟨.error f, [], s⟩
  | .note e rest, s =>
    let o := rest.run store s
    { o with events := e :: o.events }
  | .ask r next, s =>
    match store r s with
    | (.ok reply, s') => (next reply).run store s'
    | (.error f, s') => ⟨.error f, [], s'⟩

@[simp] theorem pure_eq (a : α) : (pure a : Plan α) = .done a := rfl

@[simp] theorem bind_eq (p : Plan α) (k : α → Plan β) : p >>= k = p.bind k := rfl

@[simp] theorem done_bind (a : α) (k : α → Plan β) : (done a).bind k = k a := rfl

@[simp] theorem fail_bind (f : Failure) (k : α → Plan β) : (fail f).bind k = fail f := rfl

@[simp] theorem note_bind (e : Event) (p : Plan α) (k : α → Plan β) :
    (note e p).bind k = note e (p.bind k) := rfl

@[simp] theorem ask_bind (r : Request) (next : r.Reply → Plan α) (k : α → Plan β) :
    (ask r next).bind k = ask r fun reply => (next reply).bind k := rfl

theorem run_ask_of_ok {store : Store σ} {r : Request} {next : r.Reply → Plan α} {s s' : σ}
    {reply : r.Reply} (h : store r s = (.ok reply, s')) :
    (ask r next).run store s = (next reply).run store s' := by
  simp only [run, h]

theorem run_ask_of_error {store : Store σ} {r : Request} {next : r.Reply → Plan α} {s s' : σ}
    {f : Failure} (h : store r s = (.error f, s')) :
    (ask r next).run store s = ⟨.error f, [], s'⟩ := by
  simp only [run, h]

/-- Running one plan after the other runs the second where the first ended, if it ended well. -/
theorem run_bind (store : Store σ) (p : Plan α) (k : α → Plan β) (s : σ) :
    (p.bind k).run store s =
      match p.run store s with
      | ⟨.ok a, es, s'⟩ =>
        ⟨((k a).run store s').result, es ++ ((k a).run store s').events,
          ((k a).run store s').state⟩
      | ⟨.error f, es, s'⟩ => ⟨.error f, es, s'⟩ := by
  induction p generalizing s with
  | done a => rfl
  | fail f => rfl
  | note e rest ih =>
    simp only [note_bind, run, ih]
    rcases rest.run store s with ⟨_ | _, _, _⟩ <;> rfl
  | ask r next ih =>
    simp only [ask_bind, run]
    rcases store r s with ⟨_ | reply, s'⟩
    · rfl
    · exact ih reply s'

/-- What is done to the value at the end of a plan is done to its outcome. -/
theorem run_map (store : Store σ) (p : Plan α) (f : α → β) (s : σ) :
    (p.bind fun a => .done (f a)).run store s = (p.run store s).map f := by
  rw [run_bind]
  rcases p.run store s with ⟨_ | _, es, _⟩
  · rfl
  · simp only [run, Outcome.map, Except.map, List.append_nil]

end Plan

end Accounts
