import Accounts.Proofs.Soundness

/-!
# Accounts.Proofs.Atomicity — a step that fails changes nothing

Every operation looks first, writes at most once, and cannot fail after that (`Plan.WritesLast`).
So a step that fails leaves the database as it was and writes no history, with two exceptions that
`failed_step_atomic` names: a row that vanishes while it is written over, and a change that is made
before its output turns out to be full.
-/

namespace Accounts

open Calendar

/-! ### A request that is refused -/

/-- The request only looks at the store. -/
def Request.isLookup : Request → Bool
  | .byId _ | .byName _ => true
  | .add _ | .save _ | .remove _ | .createTable => false

namespace Database

variable {db : Database} {r : Request} {id : Int} {f : Failure}

theorem store_of_isLookup (db : Database) (h : r.isLookup = true) : (store r db).2 = db := by
  cases r with
  | byId id => exact db.byId_state id
  | byName name => exact db.byName_state name
  | add | save | remove | createTable => cases h

theorem writes_of_isLookup (db : Database) (h : r.isLookup = true) : db.writes r = [] := by
  cases r with
  | byId | byName => rfl
  | add | save | remove | createTable => cases h

/-- The request is an update that reaches the row of `id`, and the row vanishes. -/
def Loses (db : Database) (r : Request) (id : Int) : Prop :=
  ∃ t u row, db.table = some t ∧ r = .save u ∧ Reaches t u id row ∧ t.faults.rowsVanish = true

theorem Loses.not_isLookup (h : db.Loses r id) : r.isLookup = false := by
  obtain ⟨t, u, row, -, rfl, -, -⟩ := h
  rfl

/-- A row that vanishes is not found, and it is gone. -/
theorem Loses.store_eq (h : db.Loses r id) :
    store r db = (.error .notFound, ⟨db.table.map (·.erase id)⟩) := by
  obtain ⟨table⟩ := db
  obtain ⟨t, u, row, rfl, rfl, hreach, hvanish⟩ := h
  have hsave := save_of_reaches hreach
  rwa [if_pos hvanish] at hsave

theorem Loses.writes_eq (h : db.Loses r id) : db.writes r = [.lost id] := by
  have hstore := h.store_eq
  obtain ⟨table⟩ := db
  obtain ⟨t, u, row, rfl, rfl, hreach, hvanish⟩ := h
  have hsave : ((⟨some t⟩ : Database).save u).1 = .error .notFound := congrArg Prod.fst hstore
  have hrow : (⟨some t⟩ : Database).hasRow id = true := by simp [hasRow, hreach.here]
  simp only [writes, hreach.stored, hsave, hrow, if_true]

/-- A request that is refused changes and writes nothing, unless a row vanishes. -/
theorem store_of_error (h : (store r db).1 = .error f) (hl : ∀ id, ¬ db.Loses r id) :
    (store r db).2 = db ∧ db.writes r = [] := by
  cases r with
  | add u =>
    rcases db.add_cases u with ⟨f', hf⟩ | ⟨t, rfl, -, ht⟩
    · simp [store, writes, hf]
    · simp [store, ht] at h
  | save u =>
    rcases db.save_cases u with ⟨f', hf, hgone⟩ | ⟨t, id, row, rfl, hreach, hvanish, -⟩ |
      ⟨t, id, row, rfl, -, -, -, ht⟩
    · exact ⟨by simp [store, hf], writes_save_of_refused hf hgone⟩
    · exact absurd ⟨t, u, row, rfl, rfl, hreach, hvanish⟩ (hl id)
    · simp [store, ht] at h
  | remove id =>
    rcases db.remove_cases id with ⟨f', hf⟩ | ⟨t, row, rfl, -, ht⟩
    · simp [store, writes, hf]
    · simp [store, ht] at h
  | byId id => exact ⟨db.byId_state id, rfl⟩
  | byName name => exact ⟨db.byName_state name, rfl⟩
  | createTable => cases h

end Database

/-! ### Plans that write last -/

namespace Plan

variable {α β : Type}

/-- The plan has no request left to make, and succeeds. -/
inductive Settled : Plan α → Prop
  | done (a : α) : Settled (.done a)
  | note (e : Event) {rest : Plan α} (h : Settled rest) : Settled (.note e rest)

/-- The plan makes lookups, then at most one request that may write, and succeeds if that does. -/
inductive WritesLast : Plan α → Prop
  | settled {p : Plan α} (h : Settled p) : WritesLast p
  | fail (f : Failure) : WritesLast (.fail f)
  | look {r : Request} {next : r.Reply → Plan α} (h : r.isLookup = true)
      (rest : ∀ reply, WritesLast (next reply)) : WritesLast (.ask r next)
  | write {r : Request} {next : r.Reply → Plan α} (rest : ∀ reply, Settled (next reply)) :
    WritesLast (.ask r next)

theorem Settled.bind {p : Plan α} {k : α → Plan β} (h : p.Settled) (hk : ∀ a, (k a).Settled) :
    (p.bind k).Settled := by
  induction h with
  | done a => exact hk a
  | note e _ ih => exact ih.note e

theorem WritesLast.bind {p : Plan α} {k : α → Plan β} (h : p.WritesLast)
    (hk : ∀ a, (k a).Settled) : (p.bind k).WritesLast := by
  induction h with
  | settled h => exact .settled (h.bind hk)
  | fail f => exact .fail f
  | look hr _ ih => exact .look hr ih
  | write rest => exact .write fun reply => (rest reply).bind hk

variable {σ : Type} {store : Store σ} {p : Plan α}

theorem Settled.exchanges (h : p.Settled) (s : σ) : p.exchanges store s = [] := by
  induction h with
  | done a => rfl
  | note e _ ih => exact ih

theorem Settled.run (h : p.Settled) (s : σ) :
    (∃ a, (p.run store s).result = .ok a) ∧ (p.run store s).state = s := by
  induction h with
  | done a => exact ⟨⟨a, rfl⟩, rfl⟩
  | note e _ ih => exact ih

variable {db : Database}

/-- If a plan that writes last loses a row, then that row is all that it changes. -/
theorem WritesLast.effect_of_loses (h : p.WritesLast) {x : Database × Request} {id : Int}
    (hx : x ∈ p.exchanges Database.store db) (hl : x.1.Loses x.2 id) :
    x.1 = db ∧ (p.run Database.store db).state = ⟨db.table.map (·.erase id)⟩ ∧
      writesOf (p.exchanges Database.store db) = [.lost id] := by
  induction h with
  | settled h =>
    rw [h.exchanges] at hx
    cases hx
  | fail f => cases hx
  | @look r next hr _ ih =>
    -- the lookup leaves the database as it is, and is not what loses the row
    have hsame := db.store_of_isLookup hr
    have hne : x ≠ (db, r) := by
      rintro rfl
      rw [hl.not_isLookup] at hr
      cases hr
    rcases hstore : Database.store r db with ⟨f | reply, db'⟩
    · rw [exchanges_ask_of_error hstore, List.mem_singleton] at hx
      exact absurd hx hne
    · rw [hstore] at hsame
      subst hsame
      rw [exchanges_ask_of_ok hstore, List.mem_cons] at hx
      obtain ⟨hdb, hstate, hwrites⟩ := ih reply (hx.resolve_left hne)
      rw [run_ask_of_ok hstore, exchanges_ask_of_ok hstore, writesOf_cons,
        db'.writes_of_isLookup hr, List.nil_append]
      exact ⟨hdb, hstate, hwrites⟩
  | @write r next rest =>
    have hx' : x = (db, r) := by
      rcases hstore : Database.store r db with ⟨f | reply, db'⟩
      · rwa [exchanges_ask_of_error hstore, List.mem_singleton] at hx
      · rwa [exchanges_ask_of_ok hstore, (rest reply).exchanges, List.mem_singleton] at hx
    subst hx'
    have hstore := hl.store_eq
    rw [run_ask_of_error hstore, exchanges_ask_of_error hstore, writesOf_cons, hl.writes_eq]
    exact ⟨rfl, rfl, rfl⟩

/-- If a plan that writes last fails and loses no row, then it changes and writes nothing. -/
theorem WritesLast.effect_of_error (h : p.WritesLast) {f : Failure}
    (hf : (p.run Database.store db).result = .error f)
    (hl : ∀ x ∈ p.exchanges Database.store db, ∀ id, ¬ x.1.Loses x.2 id) :
    (p.run Database.store db).state = db ∧ writesOf (p.exchanges Database.store db) = [] := by
  induction h with
  | settled h =>
    rw [h.exchanges]
    exact ⟨(h.run db).2, rfl⟩
  | fail f => exact ⟨rfl, rfl⟩
  | @look r next hr _ ih =>
    have hsame := db.store_of_isLookup hr
    have hwrites := db.writes_of_isLookup hr
    rcases hstore : Database.store r db with ⟨f' | reply, db'⟩
    · rw [hstore] at hsame
      rw [run_ask_of_error hstore, exchanges_ask_of_error hstore, writesOf_cons, hwrites]
      exact ⟨hsame, rfl⟩
    · rw [hstore] at hsame
      subst hsame
      rw [run_ask_of_ok hstore] at hf ⊢
      rw [exchanges_ask_of_ok hstore] at hl ⊢
      rw [writesOf_cons, hwrites]
      exact ih reply hf fun x hx => hl x (List.mem_cons_of_mem _ hx)
  | @write r next rest =>
    rcases hstore : Database.store r db with ⟨f' | reply, db'⟩
    · rw [exchanges_ask_of_error hstore] at hl ⊢
      obtain ⟨hsame, hwrites⟩ :=
        Database.store_of_error (by rw [hstore]) (hl (db, r) List.mem_cons_self)
      rw [hstore] at hsame
      rw [run_ask_of_error hstore, writesOf_cons, hwrites]
      exact ⟨hsame, rfl⟩
    · rw [run_ask_of_ok hstore] at hf
      obtain ⟨a, ha⟩ := ((rest reply).run db').1
      rw [ha] at hf
      cases hf

end Plan

/-! ### The operations write last -/

theorem register_writesLast (now : Timestamp) (username passwordHash : String)
    (birthDate : Option Date) :
    (Service.register now username passwordHash birthDate).WritesLast := by
  refine .look rfl fun rival => ?_
  cases rival with
  | none => exact .write fun user => (Plan.Settled.done user).note _
  | some user => exact .fail _

theorem find_writesLast (id : Int) : (Service.find id).WritesLast := by
  refine .look rfl fun user => ?_
  cases user with
  | none => exact .fail _
  | some user => exact .settled (.done user)

theorem change_writesLast (id : Int) (changes : Changes) :
    (Service.change id changes).WritesLast := by
  refine .look rfl fun user => ?_
  cases user with
  | none => exact .fail _
  | some user =>
    show Plan.WritesLast (if changes.isEmpty = true then Plan.done user else
      .ask (.save (user.change changes)) fun user => .note (.userUpdated id) (.done user))
    split
    · exact .settled (.done user)
    · exact .write fun user => (Plan.Settled.done user).note _

theorem remove_writesLast (id : Int) : (Service.remove id).WritesLast :=
  .write fun _ => (Plan.Settled.done ()).note _

theorem ensureTable_writesLast : Service.ensureTable.WritesLast :=
  .write fun _ => (Plan.Settled.done ()).note _

theorem Service.Operation.plan_writesLast (now : Timestamp) (op : Service.Operation) :
    (op.plan now).WritesLast := by
  cases op with
  | register username passwordHash birthDate =>
    exact (register_writesLast now username passwordHash birthDate).bind fun user => .done _
  | find id => exact (find_writesLast id).bind fun user => .done _
  | change id changes => exact (change_writesLast id changes).bind fun user => .done _
  | remove id => exact (remove_writesLast id).bind fun _ => .done _

theorem Action.plan_writesLast (now : Timestamp) (a : Action) : (a.plan now).WritesLast := by
  cases a with
  | setUp => exact ensureTable_writesLast.bind fun _ => (Plan.Settled.done none).note _
  | register username passwordHash birthDate =>
    exact (register_writesLast now username passwordHash birthDate).bind fun user => .done _
  | view id => exact (find_writesLast id).bind fun user => .done _
  | change id changes => exact (change_writesLast id changes).bind fun user => .done _
  | remove id => exact (remove_writesLast id).bind fun _ => (Plan.Settled.done none).note _

/-! ### Steps that fail -/

/-- The action stores something and then prints it. -/
def Action.isChange : Action → Bool
  | .register _ _ _ | .change _ _ => true
  | .setUp | .view _ | .remove _ => false

/-- The same step with room for all of its output. -/
def Step.unlimited : Step → Step
  | .action a _ => .action a none
  | step => step

/-- The step stores something for an administrator, and would succeed if its output had room. -/
def Step.FailsInOutput (now : Timestamp) (db : Database) (step : Step) : Prop :=
  (∃ a capacity, step = .action a capacity ∧ a.isChange = true) ∧
    ∃ answer, (step.unlimited.perform now db).result = .ok answer

/-- Some update of the step reaches the row of `id`, and the row vanishes. -/
def Step.LosesRow (now : Timestamp) (db : Database) (step : Step) (id : Int) : Prop :=
  ∃ x ∈ step.exchanges now db, x.1.Loses x.2 id

variable {now : Timestamp} {db : Database} {step : Step} {f : Failure}

/-- If a step loses a row, then that row is all that it changes. -/
theorem Step.LosesRow.effect {id : Int} (h : step.LosesRow now db id) :
    (∃ t row, db.table = some t ∧ t.byId id = some row) ∧
      (step.perform now db).database = ⟨db.table.map (·.erase id)⟩ ∧
      step.history now db = [.lost id] := by
  obtain ⟨x, hx, hloses⟩ := h
  have here : x.1 = db → ∃ t row, db.table = some t ∧ t.byId id = some row := by
    rintro rfl
    obtain ⟨t, u, row, ht, -, hreach, -⟩ := hloses
    exact ⟨t, row, ht, hreach.here⟩
  cases step with
  | request r =>
    rw [Step.exchanges, List.mem_singleton] at hx
    subst hx
    refine ⟨here rfl, congrArg Prod.snd hloses.store_eq, ?_⟩
    simp only [Step.history, Step.exchanges, writesOf_cons, hloses.writes_eq]
    rfl
  | operation op =>
    obtain ⟨hdb, heffect⟩ := (op.plan_writesLast now).effect_of_loses hx hloses
    exact ⟨here hdb, heffect⟩
  | action a capacity =>
    obtain ⟨hdb, hstate, hwrites⟩ := (a.plan_writesLast now).effect_of_loses hx hloses
    exact ⟨here hdb, (Action.report_state capacity _).trans hstate, hwrites⟩
  | ensureTable =>
    obtain ⟨hdb, heffect⟩ := ensureTable_writesLast.effect_of_loses hx hloses
    exact ⟨here hdb, heffect⟩
  | ping | columns | dropTable | raise | clearFaults => cases hx

/-- An action that ends with a user to print, but stores nothing, only looks. -/
theorem Action.isRead_of_not_isChange {a : Action} {u : User} (h : a.isChange = false)
    (hok : ((a.plan now).run Database.store db).result = .ok (some u)) (capacity : Capacity) :
    (Step.action a capacity).isRead = true := by
  have ends_with_none : ∀ (p : Plan Unit) (k : Unit → Plan (Option User)),
      (∀ s, ((k ()).run Database.store s).result = .ok none) →
      ((p.bind k).run Database.store db).result ≠ .ok (some u) := by
    intro p k hk
    rw [Plan.run_bind]
    rcases p.run Database.store db with ⟨f | _, es, s⟩ <;> simp [hk]
  cases a with
  | view id => rfl
  | setUp => exact absurd hok (ends_with_none _ _ fun _ => rfl)
  | remove id => exact absurd hok (ends_with_none _ _ fun _ => rfl)
  | register | change => cases h

/-- A step that fails, but loses no row and does not fail in its output, changes nothing. -/
theorem Step.effect_of_error (hf : (step.perform now db).result = .error f)
    (hloses : ∀ id, ¬ step.LosesRow now db id) (hout : ¬ step.FailsInOutput now db) :
    (step.perform now db).database = db ∧ step.history now db = [] := by
  have hl : ∀ x ∈ step.exchanges now db, ∀ id, ¬ x.1.Loses x.2 id :=
    fun x hx id h => hloses id ⟨x, hx, h⟩
  cases step with
  | request r =>
    cases hr : (Database.store r db).1 with
    | ok reply => simp [Step.perform, hr, Except.map] at hf
    | error f' =>
      obtain ⟨hstate, hwrites⟩ := Database.store_of_error hr (hl (db, r) List.mem_cons_self)
      simp only [Step.history, Step.exchanges, writesOf_cons, hwrites]
      exact ⟨hstate, rfl⟩
  | operation op =>
    cases hr : ((op.plan now).run Database.store db).result with
    | ok u => simp [Step.perform, hr, Except.map] at hf
    | error f' => exact (op.plan_writesLast now).effect_of_error hr hl
  | action a capacity =>
    cases hr : ((a.plan now).run Database.store db).result with
    | error f' =>
      obtain ⟨hstate, hwrites⟩ := (a.plan_writesLast now).effect_of_error hr hl
      exact ⟨(Action.report_state capacity _).trans hstate, hwrites⟩
    | ok user =>
      -- the work on the store succeeded, so the output failed
      cases user with
      | none => simp [Step.perform, Action.perform, Action.report, hr, Except.map] at hf
      | some u =>
        have hkeep : a.isChange = false := by
          rw [← Bool.not_eq_true]
          intro hchange
          refine hout ⟨⟨a, capacity, rfl, hchange⟩, .nothing, ?_⟩
          simp [Step.unlimited, Step.perform, Action.perform, Action.report, hr, Action.print,
            Capacity.fits, Except.map]
        have hread := Action.isRead_of_not_isChange hkeep hr capacity
        exact Step.effect_of_isRead hread now db
  | ensureTable => exact ensureTable_writesLast.effect_of_error (f := f) (by cases hf) hl
  | raise fault =>
    obtain ⟨_ | t⟩ := db
    · exact ⟨rfl, rfl⟩
    · cases hf
  | ping | columns | dropTable | clearFaults => cases hf

/-- A change whose output is full fails as such, and has been made all the same. -/
theorem Step.FailsInOutput.effect_eq (h : step.FailsInOutput now db)
    (hf : (step.perform now db).result = .error f) :
    f = Action.outputFull ∧
      (step.perform now db).database = (step.unlimited.perform now db).database := by
  obtain ⟨⟨a, capacity, rfl, -⟩, answer, hok⟩ := h
  refine ⟨?_, ?_⟩
  · simp only [Step.unlimited, Step.perform, Action.perform, Action.report] at hok hf
    rcases hr : ((a.plan now).run Database.store db).result with f' | _ | u
    · simp [hr, Except.map] at hok
    · simp [hr, Except.map] at hf
    · by_cases hfits : capacity.fits (Action.printed u) = true
      · simp [hr, Action.print, hfits, Except.map] at hf
      · simpa [hr, Action.print, hfits, Except.map, eq_comm] using hf
  · simp [Step.unlimited, Step.perform, Action.perform]

/-- **A step that fails changes nothing**, with two exceptions: if a row vanishes while it is
written over, then this row is removed and nothing else; and if a change of an administrator fails
only in its output, then the change is made as if the output had room. -/
theorem failed_step_atomic (hdb : db.Reachable)
    (hf : (step.perform now db).result = .error f) :
    (∀ id, step.LosesRow now db id → ∃ t front row back, db.table = some t ∧
      t.rows = front ++ row :: back ∧ row.id = id ∧
      (step.perform now db).database = ⟨some { t with rows := front ++ back }⟩) ∧
    (step.FailsInOutput now db → f = Action.outputFull ∧
      (step.perform now db).database = (step.unlimited.perform now db).database) ∧
    ((∀ id, ¬ step.LosesRow now db id) → ¬ step.FailsInOutput now db →
      (step.perform now db).database = db) := by
  refine ⟨?_, fun hout => hout.effect_eq hf, fun hl hout => (Step.effect_of_error hf hl hout).1⟩
  intro id hloses
  obtain ⟨⟨t, row, ht, here⟩, heq, -⟩ := hloses.effect
  obtain ⟨front, back, hrows, herase⟩ := (hdb.sound t ht).erase_eq here
  refine ⟨t, front, row, back, ht, hrows, Table.id_of_byId here, ?_⟩
  rw [heq, ht, Option.map_some, herase]

/-- The table of the sample run while its rows vanish. -/
def vanishingTable : Table :=
  { rows := [⟨1, "alice", none, "first", noon⟩, ⟨2, "bob", none, "second", noon⟩], lastId := 2,
    faults := { rowsVanish := true } }

/-- The change for which the row vanishes. -/
def losingChange : Step :=
  .operation (.change 1 { passwordHash := some "third" })

/-- The registration for which the output is full. -/
def fullRegistration : Step :=
  .action (.register "bob" "second" none) (some 3)

/-- The change to a name that is taken. -/
def clashingChange : Step :=
  .operation (.change 2 { username := some "alice" })

theorem failed_steps_of_sampleRun :
    ((losingChange.perform noon (Session.run {} (sampleRun.take 5))).result = .error .notFound ∧
      ∃ t front row back, (Session.run {} (sampleRun.take 5)).table = some t ∧
        t.rows = front ++ row :: back ∧ row.id = 1 ∧
        (losingChange.perform noon (Session.run {} (sampleRun.take 5))).database =
          ⟨some { t with rows := front ++ back }⟩) ∧
    ((fullRegistration.perform noon (Session.run {} (sampleRun.take 2))).result =
        .error Action.outputFull ∧
      (fullRegistration.perform noon (Session.run {} (sampleRun.take 2))).database =
        (fullRegistration.unlimited.perform noon (Session.run {} (sampleRun.take 2))).database) ∧
    (clashingChange.perform noon (Session.run {} (sampleRun.take 3))).result =
        .error (.conflict "Username") ∧
      (clashingChange.perform noon (Session.run {} (sampleRun.take 3))).database =
        Session.run {} (sampleRun.take 3) := by
  have hlost : (losingChange.perform noon (Session.run {} (sampleRun.take 5))).result =
      .error .notFound := by decide +kernel
  have hfull : (fullRegistration.perform noon (Session.run {} (sampleRun.take 2))).result =
      .error Action.outputFull := by decide +kernel
  have hclash : (clashingChange.perform noon (Session.run {} (sampleRun.take 3))).result =
      .error (.conflict "Username") := by decide +kernel
  refine ⟨⟨hlost, ?_⟩, ⟨hfull, ?_⟩, hclash, ?_⟩
  · refine (failed_step_atomic ⟨sampleRun.take 5, rfl⟩ hlost).1 1 ?_
    refine ⟨(⟨some vanishingTable⟩, .save ⟨some 1, "alice", none, "third", noon⟩),
      by decide +kernel, vanishingTable, _, ⟨1, "alice", none, "first", noon⟩, rfl, rfl, ?_, rfl⟩
    exact ⟨rfl, by decide, rfl, rfl⟩
  · refine ((failed_step_atomic ⟨sampleRun.take 2, rfl⟩ hfull).2.1 ?_).2
    exact ⟨⟨_, _, rfl, rfl⟩, .nothing, by decide +kernel⟩
  · refine (failed_step_atomic ⟨sampleRun.take 3, rfl⟩ hclash).2.2 ?_ ?_
    · rintro id ⟨x, hx, t, u, row, ht, -, -, hvanish⟩
      have hcalm : ∀ x ∈ clashingChange.exchanges noon (Session.run {} (sampleRun.take 3)),
          ∀ t ∈ x.1.table, t.faults.rowsVanish = false := by decide +kernel
      rw [hcalm x hx t ht] at hvanish
      cases hvanish
    · rintro ⟨⟨a, capacity, h, -⟩, -⟩
      cases h

end Accounts
