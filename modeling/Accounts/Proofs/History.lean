import Accounts.Proofs.Requests
import Accounts.Session

/-!
# Accounts.Proofs.History — what a run writes

The history of a run lists every row that was inserted, updated, deleted or lost, and every dropped
table, in order.  It is read off from the requests that are made and their replies, never from the
table (`Database.writes`, `Session.history`).

All that can happen to a database is a `Move`, and `run_moves` says that a run is a chain of moves
which writes its history: what every move keeps, every run keeps.
-/

namespace Accounts

open Calendar

/-- An entry of the history of a database. -/
inductive Write where
  | inserted (id : Int) (user : User)
  | updated (id : Int) (user : User)
  | deleted (id : Int)
  /-- The row vanished when it was to be written over. -/
  | lost (id : Int)
  /-- The table was dropped with all its rows. -/
  | dropped
  deriving DecidableEq

/-! ### Histories -/

/-- What a request writes.  An insert and an update count with the user that was sent, the former
under the identifier of the reply; a row that was there, but is not found when it is to be written
over, is lost. -/
def Database.writes (db : Database) : Request → List Write
  | .add u =>
    match (db.add u).1 with
    | .ok reply => (reply.id.map fun id => Write.inserted id { u with id := some id }).toList
    | .error _ => []
  | .save u =>
    match u.id, (db.save u).1 with
    | some id, .ok _ => [.updated id u]
    | some id, .error .notFound => if db.hasRow id then [.lost id] else []
    | _, _ => []
  | .remove id =>
    match (db.remove id).1 with
    | .ok () => [.deleted id]
    | .error _ => []
  | .byId _ | .byName _ | .createTable => []

/-- The requests that a plan makes, each with the contents that it meets. -/
def Plan.exchanges {σ α : Type} (store : Store σ) : Plan α → σ → List (σ × Request)
  | .done _, _ | .fail _, _ => []
  | .note _ rest, s => rest.exchanges store s
  | .ask r next, s =>
    (s, r) :: match store r s with
      | (.ok reply, s') => (next reply).exchanges store s'
      | (.error _, _) => []

theorem Plan.exchanges_ask_of_ok {σ α : Type} {store : Store σ} {r : Request}
    {next : r.Reply → Plan α} {s s' : σ} {reply : r.Reply} (h : store r s = (.ok reply, s')) :
    (Plan.ask r next).exchanges store s = (s, r) :: (next reply).exchanges store s' := by
  simp only [exchanges, h]

theorem Plan.exchanges_ask_of_error {σ α : Type} {store : Store σ} {r : Request}
    {next : r.Reply → Plan α} {s s' : σ} {f : Failure} (h : store r s = (.error f, s')) :
    (Plan.ask r next).exchanges store s = [(s, r)] := by
  simp only [exchanges, h]

/-- One plan after the other makes the requests of the second where the first ended, if it ended
well. -/
theorem Plan.exchanges_bind {σ α β : Type} (store : Store σ) (p : Plan α) (k : α → Plan β) (s : σ) :
    (p.bind k).exchanges store s = p.exchanges store s ++
      match (p.run store s).result with
      | .ok a => (k a).exchanges store (p.run store s).state
      | .error _ => [] := by
  induction p generalizing s with
  | done a => rfl
  | fail f => rfl
  | note e rest ih => exact ih s
  | ask r next ih =>
    simp only [ask_bind, exchanges, run]
    rcases store r s with ⟨_ | reply, s'⟩
    · rfl
    · simp only [ih reply s', List.cons_append]

/-- The requests that a step makes, each with the database that it meets. -/
def Step.exchanges (now : Timestamp) (db : Database) : Step → List (Database × Request)
  | .request r => [(db, r)]
  | .operation op => (op.plan now).exchanges Database.store db
  | .action a _ => (a.plan now).exchanges Database.store db
  | .ensureTable => Service.ensureTable.exchanges Database.store db
  | .ping | .columns | .dropTable | .raise _ | .clearFaults => []

/-- What some requests write. -/
def writesOf (exchanges : List (Database × Request)) : List Write :=
  exchanges.flatMap fun x => x.1.writes x.2

@[simp] theorem writesOf_cons (x : Database × Request) (rest : List (Database × Request)) :
    writesOf (x :: rest) = x.1.writes x.2 ++ writesOf rest := rfl

/-- What a step writes. -/
def Step.history (now : Timestamp) (db : Database) (step : Step) : List Write :=
  match step with
  | .dropTable => [.dropped]
  | step => writesOf (step.exchanges now db)

/-- What a list of steps writes, from a given database on. -/
def Session.history (db : Database) : List (Timestamp × Step) → List Write
  | [] => []
  | (now, step) :: rest => step.history now db ++ history (step.perform now db).database rest

/-! ### Steps that only look -/

/-- The step only looks at the database. -/
def Step.isRead : Step → Bool
  | .request (.byId _) | .request (.byName _) | .operation (.find _) | .action (.view _) _
  | .ping | .columns => true
  | _ => false

theorem find_exchanges {σ : Type} (store : Store σ) (id : Int) (s : σ) :
    (Service.find id).exchanges store s = [(s, .byId id)] := by
  simp only [Service.find, Plan.request, Plan.bind_eq, Plan.ask_bind, Plan.done_bind,
    Plan.exchanges]
  rcases store (.byId id) s with ⟨_ | _ | u, s'⟩ <;> rfl

theorem find_state (id : Int) (db : Database) :
    ((Service.find id).run Database.store db).state = db := by
  have hstate : (Database.store (.byId id) db).2 = db := db.byId_state id
  simp only [Service.find, Plan.request, Plan.bind_eq, Plan.ask_bind, Plan.done_bind, Plan.run]
  rcases hstore : Database.store (.byId id) db with ⟨_ | _ | u, db'⟩ <;>
    rw [hstore] at hstate <;> exact hstate

/-- A step that only looks leaves the database alone and writes nothing. -/
theorem Step.effect_of_isRead {step : Step} (h : step.isRead = true) (now : Timestamp)
    (db : Database) :
    (step.perform now db).database = db ∧ step.history now db = [] := by
  have hstate : ∀ id, (((Service.find id).bind fun u => .done (some u)).run
      Database.store db).state = db := by
    intro id
    have hfind := find_state id db
    rw [Plan.run_bind]
    rcases hrun : (Service.find id).run Database.store db with ⟨_ | _, _, _⟩ <;>
      rw [hrun] at hfind <;> exact hfind
  have hwrites : ∀ id, writesOf (((Service.find id).bind fun u => .done (some u)).exchanges
      Database.store db) = [] := by
    intro id
    rw [Plan.exchanges_bind, find_exchanges]
    cases ((Service.find id).run Database.store db).result <;> rfl
  cases step with
  | request r =>
    cases r with
    | byId id => exact ⟨db.byId_state id, rfl⟩
    | byName name => exact ⟨db.byName_state name, rfl⟩
    | add | save | remove | createTable => cases h
  | operation op =>
    cases op with
    | find id => exact ⟨hstate id, hwrites id⟩
    | register | change | remove => cases h
  | action a capacity =>
    cases a with
    | view id => exact ⟨(Action.report_state capacity _).trans (hstate id), hwrites id⟩
    | setUp | register | change | remove => cases h
  | ping | columns => exact ⟨rfl, rfl⟩
  | ensureTable | dropTable | raise | clearFaults => cases h

/-- The step makes the table if it is missing. -/
def Step.makesTable : Step → Bool
  | .request .createTable | .action .setUp _ | .ensureTable => true
  | _ => false

/-- Making the table writes nothing. -/
theorem Step.history_of_makesTable {step : Step} (h : step.makesTable = true) (now : Timestamp)
    (db : Database) : step.history now db = [] := by
  cases step with
  | request r =>
    cases r with
    | createTable => rfl
    | add | byId | byName | save | remove => cases h
  | action a capacity =>
    cases a with
    | setUp => rfl
    | register | view | change | remove => cases h
  | ensureTable => rfl
  | operation | ping | columns | dropTable | raise | clearFaults => cases h

/-! ### Moves -/

/-- An elementary change of a database, with what it writes. -/
inductive Move : Database → List Write → Database → Prop
  | stay (db : Database) : Move db [] db
  | create : Move {} [] { table := some {} }
  | insert {t : Table} {u : User} (h : Database.Addable t u) :
    Move ⟨some t⟩ [.inserted (t.lastId + 1) { u with id := some (t.lastId + 1 : Int) }]
      ⟨some (t.append u)⟩
  | update {t : Table} {u : User} {id : Int} {row : Row} (h : Database.Reaches t u id row)
      (stays : t.faults.rowsVanish = false) (free : t.isTaken id u.username = false) :
    Move ⟨some t⟩ [.updated id u] ⟨some (t.replace (Row.ofUser id u))⟩
  | lose {t : Table} {u : User} {id : Int} {row : Row} (h : Database.Reaches t u id row)
      (vanishes : t.faults.rowsVanish = true) : Move ⟨some t⟩ [.lost id] ⟨some (t.erase id)⟩
  | delete {t : Table} {id : Int} {row : Row} (here : t.byId id = some row) :
    Move ⟨some t⟩ [.deleted id] ⟨some (t.erase id)⟩
  | drop (db : Database) : Move db [.dropped] {}
  | setFaults (t : Table) (faults : Faults) : Move ⟨some t⟩ [] ⟨some { t with faults }⟩

/-- A chain of moves, with all that it writes. -/
inductive Moves : Database → List Write → Database → Prop
  | nil (db : Database) : Moves db [] db
  | concat {db db' db'' : Database} {ws ws' : List Write} (init : Moves db ws db')
      (last : Move db' ws' db'') : Moves db (ws ++ ws') db''

theorem Move.moves {db db' : Database} {ws : List Write} (h : Move db ws db') : Moves db ws db' :=
  (Moves.nil db).concat h

theorem Moves.trans {db db' db'' : Database} {ws ws' : List Write} (h : Moves db ws db')
    (h' : Moves db' ws' db'') : Moves db (ws ++ ws') db'' := by
  induction h' with
  | nil => rwa [List.append_nil]
  | concat _ last ih =>
    rw [← List.append_assoc]
    exact ih.concat last

/-- An update that is refused writes nothing, since a row that is not found was not there. -/
theorem Database.writes_save_of_refused {db : Database} {u : User} {f : Failure}
    (hf : db.save u = (.error f, db))
    (hgone : ∀ id, u.id = some id → f = .notFound → db.hasRow id = false) :
    db.writes (.save u) = [] := by
  cases hid : u.id with
  | none => simp [writes, hid]
  | some id => cases f <;> simp_all [writes]

/-- Every request is a move. -/
theorem store_move (db : Database) (r : Request) :
    Move db (db.writes r) (Database.store r db).2 := by
  cases r with
  | add u =>
    rcases db.add_cases u with ⟨f, h⟩ | ⟨t, rfl, hadd, h⟩
    · simpa [Database.writes, Database.store, h] using Move.stay db
    · simpa [Database.writes, Database.store, h] using Move.insert hadd
  | byId id => simpa [Database.writes, Database.store] using Move.stay db
  | byName name => simpa [Database.writes, Database.store] using Move.stay db
  | save u =>
    rcases db.save_cases u with ⟨f, h, hgone⟩ | ⟨t, id, row, rfl, hreach, hvanish, h⟩ |
      ⟨t, id, row, rfl, hreach, hstays, hfree, h⟩
    · have hw := Database.writes_save_of_refused h hgone
      simpa [hw, Database.store, h] using Move.stay db
    · have hrow : (⟨some t⟩ : Database).hasRow id = true := by
        simp [Database.hasRow, hreach.here]
      simpa [Database.writes, Database.store, h, hreach.stored, hrow] using
        Move.lose hreach hvanish
    · simpa [Database.writes, Database.store, h, hreach.stored] using
        Move.update hreach hstays hfree
  | remove id =>
    rcases db.remove_cases id with ⟨f, h⟩ | ⟨t, row, rfl, hrow, h⟩
    · simpa [Database.writes, Database.store, h] using Move.stay db
    · simpa [Database.writes, Database.store, h] using Move.delete hrow
  | createTable =>
    obtain ⟨_ | t⟩ := db
    · exact Move.create
    · exact Move.stay _

/-- A plan moves the database by its requests alone. -/
theorem plan_moves {α : Type} (p : Plan α) (db : Database) :
    Moves db (writesOf (p.exchanges Database.store db)) (p.run Database.store db).state := by
  induction p generalizing db with
  | done a => exact .nil db
  | fail f => exact .nil db
  | note e rest ih => exact ih db
  | ask r next ih =>
    have hmove := (store_move db r).moves
    simp only [Plan.exchanges, Plan.run, writesOf, List.flatMap_cons]
    rcases hr : Database.store r db with ⟨f | reply, db'⟩
    · simpa [hr] using hmove
    · rw [hr] at hmove
      exact hmove.trans (ih reply db')

theorem step_moves (now : Timestamp) (db : Database) (step : Step) :
    Moves db (step.history now db) (step.perform now db).database := by
  cases step with
  | request r =>
    simpa [Step.history, Step.exchanges, writesOf, Step.perform] using (store_move db r).moves
  | operation op => exact plan_moves (op.plan now) db
  | action a capacity =>
    have h := plan_moves (a.plan now) db
    rwa [← Action.report_state capacity] at h
  | ensureTable => exact plan_moves Service.ensureTable db
  | ping => exact .nil db
  | columns => exact .nil db
  | dropTable => exact (Move.drop db).moves
  | raise fault =>
    obtain ⟨_ | t⟩ := db
    · exact .nil _
    · exact (Move.setFaults t _).moves
  | clearFaults =>
    obtain ⟨_ | t⟩ := db
    · exact .nil _
    · exact (Move.setFaults t _).moves

/-- A run moves the database, and what it writes is its history. -/
theorem run_moves (db : Database) (steps : List (Timestamp × Step)) :
    Moves db (Session.history db steps) (Session.run db steps) := by
  induction steps generalizing db with
  | nil => exact .nil db
  | cons s rest ih => exact (step_moves s.1 db s.2).trans (ih _)

end Accounts
