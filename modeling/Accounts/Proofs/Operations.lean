import Accounts.Proofs.Atomicity

/-!
# Accounts.Proofs.Operations — what each operation on accounts can lead to

`Plan.Leads` puts together all that comes of a plan on a database: its result, its events, the
database that it leaves and the history that it writes.  Each of the four operations is taken apart
once, and all that they can do is listed as `Service.Operation.Deed` (`Service.Operation.deed`).  An
administrator's action carries out one of them (`Action.plan_of_operation?`).
-/

namespace Accounts

open Calendar

/-! ### Where a plan leads -/

namespace Plan

variable {α : Type}

/-- The plan comes to the outcome `o` on the database and writes the history `ws`. -/
structure Leads (p : Plan α) (db : Database) (o : Outcome Database α) (ws : List Write) : Prop where
  run_eq : p.run Database.store db = o
  writes_eq : writesOf (p.exchanges Database.store db) = ws

variable {db db' : Database} {r : Request} {next : r.Reply → Plan α} {o : Outcome Database α}
  {ws : List Write}

theorem leads_done (a : α) (db : Database) : (done a).Leads db ⟨.ok a, [], db⟩ [] :=
  ⟨rfl, rfl⟩

theorem leads_fail (f : Failure) (db : Database) :
    (fail f : Plan α).Leads db ⟨.error f, [], db⟩ [] :=
  ⟨rfl, rfl⟩

theorem Leads.note {p : Plan α} (h : p.Leads db o ws) (e : Event) :
    (note e p).Leads db { o with events := e :: o.events } ws :=
  ⟨by simp only [run, h.run_eq], h.writes_eq⟩

/-- A request that is met and writes nothing comes before the rest. -/
theorem Leads.look {reply : r.Reply} (hr : Database.store r db = (.ok reply, db'))
    (hw : db.writes r = []) (h : (next reply).Leads db' o ws) : (ask r next).Leads db o ws := by
  refine ⟨?_, ?_⟩
  · rw [run_ask_of_ok hr, h.run_eq]
  · rw [exchanges_ask_of_ok hr, writesOf_cons, hw, h.writes_eq, List.nil_append]

/-- A request that is met is the last to write. -/
theorem Leads.write {reply : r.Reply} (hr : Database.store r db = (.ok reply, db'))
    (hw : db.writes r = ws) (h : (next reply).Leads db' o []) : (ask r next).Leads db o ws := by
  refine ⟨?_, ?_⟩
  · rw [run_ask_of_ok hr, h.run_eq]
  · rw [exchanges_ask_of_ok hr, writesOf_cons, hw, h.writes_eq, List.append_nil]

/-- A request that is refused ends the plan. -/
theorem leads_refused {f : Failure} (hr : Database.store r db = (.error f, db'))
    (hw : db.writes r = ws) : (ask r next).Leads db ⟨.error f, [], db'⟩ ws := by
  refine ⟨run_ask_of_error hr, ?_⟩
  rw [exchanges_ask_of_error hr, writesOf_cons, hw]
  exact List.append_nil _

end Plan

/-! ### The four operations -/

namespace Service.Operation

/-! What each operation asks for when it answers with a user or none. -/

theorem register_plan (now : Timestamp) (username passwordHash : String)
    (birthDate : Option Date) :
    (register username passwordHash birthDate).plan now =
      .ask (.byName username) fun rival =>
        if rival.isSome then .fail Table.clash
        else .ask (.add (.unsaved now username passwordHash birthDate)) fun user =>
          .note (.userRegistered user.id user.username) (.done (some user)) := by
  rw [plan, Plan.bind_eq, register_eq, Plan.ask_bind]
  refine congrArg (Plan.ask (.byName username)) (funext fun rival => ?_)
  cases rival <;> rfl

theorem find_plan (now : Timestamp) (id : Int) :
    (find id).plan now =
      .ask (.byId id) fun
        | none => .fail .notFound
        | some user => .done (some user) := by
  rw [plan, Plan.bind_eq, find_eq, Plan.ask_bind]
  refine congrArg (Plan.ask (.byId id)) (funext fun user => ?_)
  cases user <;> rfl

theorem change_plan (now : Timestamp) (id : Int) (changes : Changes) :
    (change id changes).plan now =
      .ask (.byId id) fun
        | none => .fail .notFound
        | some user =>
          if changes.isEmpty then .done (some user)
          else .ask (.save (user.change changes)) fun user =>
            .note (.userUpdated id) (.done (some user)) := by
  rw [plan, Plan.bind_eq, change_eq, Plan.ask_bind]
  refine congrArg (Plan.ask (.byId id)) (funext fun user => ?_)
  cases user with
  | none => rfl
  | some user =>
    simp only [Option.elim_some, changeOf, Changes.isEmpty_iff]
    split_ifs <;> rfl

theorem remove_plan (now : Timestamp) (id : Int) :
    (remove id).plan now =
      .ask (.remove id) fun _ => .note (.userDeleted id) (.done none) := by
  rw [plan, Plan.bind_eq, remove_eq]
  rfl

/-- What an operation can lead to at the moment `now`, and the history that it writes.  All but a
refusal say which operation they come from. -/
inductive Deed (now : Timestamp) :
    Service.Operation → Database → Outcome Database (Option User) → List Write → Prop
  | refused (op : Service.Operation) (db : Database) (f : Failure) :
    Deed now op db ⟨.error f, [], db⟩ []
  | registered {t : Table} {u : User} {username passwordHash : String} {birthDate : Option Date}
      (user : u = .unsaved now username passwordHash birthDate) (h : Database.Addable t u) :
    Deed now (.register username passwordHash birthDate) ⟨some t⟩
      ⟨.ok (some { u with id := some (t.lastId + 1 : Int) }),
        [.userRegistered (some (t.lastId + 1 : Int)) u.username], ⟨some (t.append u)⟩⟩
      [.inserted (t.lastId + 1) { u with id := some (t.lastId + 1 : Int) }]
  | found {t : Table} {id : Int} {row : Row} (here : t.byId id = some row) :
    Deed now (.find id) ⟨some t⟩ ⟨.ok (some row.toUser), [], ⟨some t⟩⟩ []
  | kept {t : Table} {id : Int} {row : Row} {changes : Changes} (here : t.byId id = some row)
      (empty : changes.isEmpty = true) :
    Deed now (.change id changes) ⟨some t⟩ ⟨.ok (some row.toUser), [], ⟨some t⟩⟩ []
  | changed {t : Table} {id : Int} {row : Row} {changes : Changes} {u : User}
      (user : u = row.toUser.change changes) (nonempty : changes.isEmpty = false)
      (h : Database.Reaches t u id row) (stays : t.faults.rowsVanish = false)
      (free : t.isTaken id u.username = false) :
    Deed now (.change id changes) ⟨some t⟩
      ⟨.ok (some u), [.userUpdated id], ⟨some (t.replace (Row.ofUser id u))⟩⟩ [.updated id u]
  | lost {t : Table} {id : Int} {row : Row} {changes : Changes} (here : t.byId id = some row)
      (nonempty : changes.isEmpty = false) (vanishes : t.faults.rowsVanish = true) :
    Deed now (.change id changes) ⟨some t⟩ ⟨.error .notFound, [], ⟨some (t.erase id)⟩⟩ [.lost id]
  | removed {t : Table} {id : Int} {row : Row} (here : t.byId id = some row) :
    Deed now (.remove id) ⟨some t⟩ ⟨.ok none, [.userDeleted id], ⟨some (t.erase id)⟩⟩ [.deleted id]

/-- On the database, the operation does one of its deeds. -/
def Does (now : Timestamp) (op : Service.Operation) (db : Database) : Prop :=
  ∃ o ws, (op.plan now).Leads db o ws ∧ op.Deed now db o ws

theorem register_does (now : Timestamp) (username passwordHash : String)
    (birthDate : Option Date) (db : Database) :
    (register username passwordHash birthDate).Does now db := by
  rw [Does, register_plan]
  obtain ⟨_ | t⟩ := db
  · exact ⟨_, _, Plan.leads_refused rfl rfl, .refused _ _ (.database .noTable)⟩
  · have hlook : Database.store (.byName username) ⟨some t⟩ =
        (.ok ((t.byName username).map Row.toUser), ⟨some t⟩) := rfl
    cases hrival : t.byName username with
    | some row =>
      rw [hrival] at hlook
      exact ⟨_, _, .look hlook rfl (Plan.leads_fail _ _), .refused _ _ Table.clash⟩
    | none =>
      rw [hrival] at hlook
      obtain ⟨u, hu⟩ : ∃ u, u = User.unsaved now username passwordHash birthDate := ⟨_, rfl⟩
      rw [← hu]
      rcases Database.add_cases ⟨some t⟩ u with ⟨f, hf⟩ | ⟨t', ht, hadd, ha⟩
      · have hw : (⟨some t⟩ : Database).writes (.add u) = [] := by simp [Database.writes, hf]
        refine ⟨_, _, ?_, .refused _ _ f⟩
        exact .look hlook rfl (Plan.leads_refused hf hw)
      · cases ht
        have hw : (⟨some t⟩ : Database).writes (.add u) =
            [.inserted (t.lastId + 1) { u with id := some (t.lastId + 1 : Int) }] := by
          simp [Database.writes, ha]
        refine ⟨_, _, ?_, .registered hu hadd⟩
        exact .look hlook rfl (.write ha hw ((Plan.leads_done _ _).note _))

theorem store_byId (t : Table) (id : Int) :
    Database.store (.byId id) ⟨some t⟩ = (.ok ((t.byId id).map Row.toUser), ⟨some t⟩) := rfl

theorem find_does (now : Timestamp) (id : Int) (db : Database) : (find id).Does now db := by
  rw [Does, find_plan]
  obtain ⟨_ | t⟩ := db
  · exact ⟨_, _, Plan.leads_refused rfl rfl, .refused _ _ (.database .noTable)⟩
  · have hlook := store_byId t id
    cases hrow : t.byId id with
    | none =>
      rw [hrow] at hlook
      exact ⟨_, _, .look hlook rfl (Plan.leads_fail _ _), .refused _ _ .notFound⟩
    | some row =>
      rw [hrow] at hlook
      exact ⟨_, _, .look hlook rfl (Plan.leads_done _ _), .found hrow⟩

/-- The update of a row that was looked up: the store refuses it, or the row vanishes, or it is
written over. -/
theorem save_of_byId {t : Table} {id : Int} {row : Row} {u : User} (here : t.byId id = some row)
    (hid : u.id = some id) :
    (∃ f, Database.store (.save u) ⟨some t⟩ = (.error f, ⟨some t⟩) ∧
      (⟨some t⟩ : Database).writes (.save u) = []) ∨
    (t.faults.rowsVanish = true ∧
      Database.store (.save u) ⟨some t⟩ = (.error .notFound, ⟨some (t.erase id)⟩) ∧
      (⟨some t⟩ : Database).writes (.save u) = [.lost id]) ∨
    (Database.Reaches t u id row ∧ t.faults.rowsVanish = false ∧
      t.isTaken id u.username = false ∧
      Database.store (.save u) ⟨some t⟩ = (.ok u, ⟨some (t.replace (Row.ofUser id u))⟩) ∧
      (⟨some t⟩ : Database).writes (.save u) = [.updated id u]) := by
  rcases Database.save_cases ⟨some t⟩ u with ⟨f, hf, hgone⟩ |
    ⟨t', id', row', ht, hreach, hvanish, hs⟩ | ⟨t', id', row', ht, hreach, hstays, hfree, hs⟩
  · exact .inl ⟨f, hf, Database.writes_save_of_refused hf hgone⟩
  · cases ht
    obtain rfl : id' = id := Option.some.inj (hreach.stored.symm.trans hid)
    have hloses : (⟨some t⟩ : Database).Loses (.save u) id' :=
      ⟨t, u, row', rfl, rfl, hreach, hvanish⟩
    exact .inr (.inl ⟨hvanish, hs, hloses.writes_eq⟩)
  · cases ht
    -- the update reaches the row that was looked up
    obtain rfl : id' = id := Option.some.inj (hreach.stored.symm.trans hid)
    obtain rfl : row' = row := Option.some.inj (hreach.here.symm.trans here)
    have hw : (⟨some t⟩ : Database).writes (.save u) = [.updated id' u] := by
      simp only [Database.writes, hs, hid]
    exact .inr (.inr ⟨hreach, hstays, hfree, hs, hw⟩)

theorem change_does (now : Timestamp) (id : Int) (changes : Changes) (db : Database) :
    (change id changes).Does now db := by
  rw [Does, change_plan]
  obtain ⟨_ | t⟩ := db
  · exact ⟨_, _, Plan.leads_refused rfl rfl, .refused _ _ (.database .noTable)⟩
  · have hlook := store_byId t id
    cases hrow : t.byId id with
    | none =>
      rw [hrow] at hlook
      exact ⟨_, _, .look hlook rfl (Plan.leads_fail _ _), .refused _ _ .notFound⟩
    | some row =>
      rw [hrow] at hlook
      cases hempty : changes.isEmpty with
      | true => exact ⟨_, _, .look hlook rfl (Plan.leads_done _ _), .kept hrow hempty⟩
      | false =>
        have hid : (row.toUser.change changes).id = some id := by
          rw [User.change_id, Row.toUser, Table.id_of_byId hrow]
        rcases save_of_byId hrow hid with ⟨f, hs, hw⟩ | ⟨hvanish, hs, hw⟩ |
          ⟨hreach, hstays, hfree, hs, hw⟩
        · refine ⟨_, _, ?_, .refused _ _ f⟩
          exact .look hlook rfl (Plan.leads_refused hs hw)
        · refine ⟨_, _, ?_, .lost hrow hempty hvanish⟩
          exact .look hlook rfl (Plan.leads_refused hs hw)
        · refine ⟨_, _, ?_, .changed rfl hempty hreach hstays hfree⟩
          exact .look hlook rfl (.write hs hw ((Plan.leads_done _ _).note _))

theorem remove_does (now : Timestamp) (id : Int) (db : Database) : (remove id).Does now db := by
  rw [Does, remove_plan]
  rcases db.remove_cases id with ⟨f, hf⟩ | ⟨t, row, rfl, hrow, hr⟩
  · have hw : db.writes (.remove id) = [] := by simp [Database.writes, hf]
    refine ⟨_, _, ?_, .refused _ _ f⟩
    exact Plan.leads_refused hf hw
  · have hw : (⟨some t⟩ : Database).writes (.remove id) = [.deleted id] := by
      simp [Database.writes, hr]
    refine ⟨_, _, ?_, .removed hrow⟩
    exact .write hr hw ((Plan.leads_done _ _).note _)

/-- Whatever an operation leads to is one of its deeds. -/
theorem deed (now : Timestamp) (op : Service.Operation) (db : Database) :
    op.Deed now db ((op.plan now).run Database.store db)
      (writesOf ((op.plan now).exchanges Database.store db)) := by
  have hdoes : op.Does now db := by
    cases op with
    | register username passwordHash birthDate =>
      exact register_does now username passwordHash birthDate db
    | find id => exact find_does now id db
    | change id changes => exact change_does now id changes db
    | remove id => exact remove_does now id db
  obtain ⟨o, ws, hleads, h⟩ := hdoes
  rwa [hleads.run_eq, hleads.writes_eq]

end Service.Operation

/-! ### Actions that carry out an operation -/

/-- The operation on accounts that an action carries out. -/
def Action.operation? : Action → Option Service.Operation
  | .setUp => none
  | .register username passwordHash birthDate => some (.register username passwordHash birthDate)
  | .view id => some (.find id)
  | .change id changes => some (.change id changes)
  | .remove id => some (.remove id)

/-- The operation on accounts that a step carries out. -/
def Step.operation? : Step → Option Service.Operation
  | .operation op => some op
  | .action a _ => a.operation?
  | _ => none

/-- The work of an action is that of its operation, except that a deletion is noted once more. -/
theorem Action.plan_of_operation? {a : Action} {op : Service.Operation}
    (h : a.operation? = some op) (now : Timestamp) (db : Database) :
    ((a.plan now).run Database.store db).result = ((op.plan now).run Database.store db).result ∧
    ((a.plan now).run Database.store db).state = ((op.plan now).run Database.store db).state ∧
    (∃ coda, ((a.plan now).run Database.store db).events =
        ((op.plan now).run Database.store db).events ++ coda ∧
      ∀ e ∈ coda, ∃ id, e = .deletionDone id) ∧
    (a.plan now).exchanges Database.store db = (op.plan now).exchanges Database.store db := by
  cases a with
  | setUp => cases h
  | register | view | change =>
    cases h
    exact ⟨rfl, rfl, ⟨[], by simp [plan, Service.Operation.plan], by simp⟩, rfl⟩
  | remove id =>
    cases h
    simp only [plan, Service.Operation.plan, Plan.bind_eq, Plan.run_bind, Plan.exchanges_bind]
    rcases (Service.remove id).run Database.store db with ⟨f | _, es, db'⟩
    · exact ⟨rfl, rfl, ⟨[], by simp, by simp⟩, rfl⟩
    · exact ⟨rfl, rfl, ⟨[.deletionDone id], by simp [Plan.tell, Plan.run], by simp⟩, rfl⟩

/-! ### Steps that carry out an operation -/

namespace Step

variable {step : Step} {op : Service.Operation}

theorem database_of_operation? (h : step.operation? = some op) (now : Timestamp) (db : Database) :
    (step.perform now db).database = ((op.plan now).run Database.store db).state := by
  cases step with
  | operation op' =>
    cases h
    rfl
  | action a capacity =>
    exact (Action.report_state capacity _).trans (Action.plan_of_operation? h now db).2.1
  | request | ensureTable | ping | columns | dropTable | raise | clearFaults => cases h

theorem history_of_operation? (h : step.operation? = some op) (now : Timestamp) (db : Database) :
    step.history now db = writesOf ((op.plan now).exchanges Database.store db) := by
  cases step with
  | operation op' =>
    cases h
    rfl
  | action a capacity => exact congrArg writesOf (Action.plan_of_operation? h now db).2.2.2
  | request | ensureTable | ping | columns | dropTable | raise | clearFaults => cases h

end Step

end Accounts
