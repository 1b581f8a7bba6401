import Accounts.Proofs.Registrations
import Accounts.Proofs.Verdicts

/-!
# Accounts.Proofs.Decisions — which condition decides an operation

An operation on accounts asks the store more than once, and the store checks once more what it is
asked, so the order of the reasons for a refusal differs from that of a single request.
`registerVerdict`, `findVerdict`, `changeVerdict` and `removeVerdict` list them as they count for
the operation as a whole, and `operations_decided` says that the first that holds decides.
-/

namespace Accounts

open Calendar

/-- A user that has a hash loses it only to changes that set it to nothing. -/
theorem User.passwordHash_change_eq_empty_iff {u : User} {c : Changes} (h : u.passwordHash ≠ "") :
    (u.change c).passwordHash = "" ↔ c.passwordHash = some "" := by
  cases hc : c.passwordHash <;> simp [change, hc, h]

namespace Service

/-! ### The verdicts -/

/-- What comes of registering an account: the first condition that holds decides.  That a name is
taken counts before the missing hash. -/
def registerVerdict (db : Database) (now : Timestamp) (username passwordHash : String)
    (birthDate : Option Date) : Outcome Database User :=
  if db.table = none then ⟨.error (.database .noTable), [], db⟩
  else if db.Holds username then ⟨.error (.conflict "Username"), [], db⟩
  else if passwordHash = "" then
    ⟨.error (.validation "Password hash must not be empty"), [], db⟩
  else if db.faults.insertsFail then ⟨.error (.database .aborted), [], db⟩
  else if db.faults.rivalsAppear then ⟨.error (.conflict "Username"), [], db⟩
  else
    ⟨.ok ⟨some (db.lastId + 1), username, birthDate, passwordHash, now⟩,
      [.userRegistered (some (db.lastId + 1)) username],
      ⟨db.table.map (·.append (.unsaved now username passwordHash birthDate))⟩⟩

/-- What comes of looking an account up. -/
def findVerdict (db : Database) (id : Int) : Outcome Database User :=
  if db.table = none then ⟨.error (.database .noTable), [], db⟩
  else
    match db.stored id with
    | none => ⟨.error .notFound, [], db⟩
    | some u => ⟨.ok u, [], db⟩

/-- What comes of changing an account: the first condition that holds decides.  Without changes
nothing is written, and no fault counts; a hash that is set to nothing counts before the name. -/
def changeVerdict (db : Database) (id : Int) (changes : Changes) : Outcome Database User :=
  if db.table = none then ⟨.error (.database .noTable), [], db⟩
  else
    match db.stored id with
    | none => ⟨.error .notFound, [], db⟩
    | some u =>
      if changes = {} then ⟨.ok u, [], db⟩
      else if changes.passwordHash = some "" then
        ⟨.error (.validation "Password hash must not be empty"), [], db⟩
      else if db.faults.rowsVanish then ⟨.error .notFound, [], ⟨db.table.map (·.erase id)⟩⟩
      else if db.faults.updatesFail then ⟨.error (.database .aborted), [], db⟩
      else if db.HoldsBeside id (changes.username.getD u.username) then
        ⟨.error (.conflict "Username"), [], db⟩
      else
        ⟨.ok (u.change changes), [.userUpdated id],
          ⟨db.table.map (·.replace (.ofUser id (u.change changes)))⟩⟩

/-- What comes of deleting an account. -/
def removeVerdict (db : Database) (id : Int) : Outcome Database Unit :=
  if db.table = none then ⟨.error (.database .noTable), [], db⟩
  else if db.stored id = none then ⟨.error .notFound, [], db⟩
  else ⟨.ok (), [.userDeleted id], ⟨db.table.map (·.erase id)⟩⟩

/-! ### Requests at the end of an operation -/

/-- A request whose success is noted, at the end of a plan. -/
theorem run_noted {σ : Type} (store : Store σ) (r : Request) (e : r.Reply → Event) (s : σ) :
    (Plan.ask r fun reply => .note (e reply) (.done reply)).run store s =
      ⟨(store r s).1, ((store r s).1.toOption.map e).toList, (store r s).2⟩ := by
  simp only [Plan.run]
  rcases store r s with ⟨f | reply, s'⟩ <;> rfl

theorem changeOf_run {changes : Changes} (h : changes ≠ {}) (id : Int) (u : User)
    (db : Database) :
    (changeOf id changes u).run Database.store db =
      ⟨(db.save (u.change changes)).1,
        ((db.save (u.change changes)).1.toOption.map fun _ => .userUpdated id).toList,
        (db.save (u.change changes)).2⟩ := by
  rw [changeOf, if_neg h]
  exact run_noted Database.store (.save (u.change changes)) (fun _ => .userUpdated id) db

/-! ### The operations follow the verdicts -/

theorem register_eq_verdict (db : Database) (now : Timestamp) (username passwordHash : String)
    (birthDate : Option Date) :
    (register now username passwordHash birthDate).run Database.store db =
      registerVerdict db now username passwordHash birthDate := by
  obtain ⟨_ | t⟩ := db
  · rfl
  have hlook : Database.store (.byName username) ⟨some t⟩ =
      (.ok ((t.byName username).map Row.toUser), ⟨some t⟩) := rfl
  rw [register_eq, Plan.run_ask_of_ok hlook, registerVerdict, Option.isSome_map]
  by_cases taken : (t.byName username).isSome = true
  · simp [Database.holds_iff, taken, Plan.run]
  -- the name is free, so the store decides as it does for any new user
  have hstore : Database.store (.add (.unsaved now username passwordHash birthDate)) ⟨some t⟩ =
      Database.addVerdict ⟨some t⟩ (.unsaved now username passwordHash birthDate) :=
    Database.add_eq_verdict _ _
  rw [if_neg taken, run_noted, hstore]
  simp only [Database.addVerdict, User.unsaved]
  by_cases hash : passwordHash = ""
  · simp [hash, Database.holds_iff, taken, Except.toOption]
  by_cases hfail : t.faults.insertsFail = true
  · simp [hash, Database.holds_iff, taken, Database.faults, hfail, Except.toOption]
  by_cases hrival : t.faults.rivalsAppear = true
  · simp [hash, Database.holds_iff, taken, Database.faults, hfail, hrival, Except.toOption]
  · simp [hash, Database.holds_iff, taken, Database.faults, hfail, hrival, Except.toOption]

theorem find_eq_verdict (db : Database) (id : Int) :
    (find id).run Database.store db = findVerdict db id := by
  obtain ⟨_ | t⟩ := db
  · rfl
  have hlook := Operation.store_byId t id
  rw [find_eq, Plan.run_ask_of_ok hlook, findVerdict]
  cases hrow : t.byId id <;> simp [Database.stored, hrow, Plan.run]

theorem change_eq_verdict {db : Database} (hs : db.Sound) (apart : db.FaultsApart) (id : Int)
    (changes : Changes) :
    (change id changes).run Database.store db = changeVerdict db id changes := by
  obtain ⟨_ | t⟩ := db
  · rfl
  have hlook := Operation.store_byId t id
  rw [change_eq, Plan.run_ask_of_ok hlook, changeVerdict]
  cases hrow : t.byId id with
  | none => simp [Database.stored, hrow, Plan.run]
  | some row =>
    obtain rfl : row.id = id := Table.id_of_byId hrow
    have hash_iff := User.passwordHash_change_eq_empty_iff (u := row.toUser) (c := changes)
      ((hs t rfl).hash_ne row (Table.mem_of_byId hrow))
    have hmem : row.id ∈ (⟨some t⟩ : Database).ids := Database.mem_ids_iff.2 (by simp [hrow])
    have hid : (row.toUser.change changes).id = some row.id := rfl
    have hname : (row.toUser.change changes).username =
        changes.username.getD row.toUser.username := rfl
    simp only [Database.stored, hrow, Option.map_some, Option.elim_some, Option.bind_some]
    by_cases hempty : changes = {}
    · simp [changeOf, hempty, Plan.run]
    rw [changeOf_run hempty, Database.save_eq_verdict apart]
    simp only [Database.saveVerdict, hid, hash_iff]
    by_cases hash : changes.passwordHash = some ""
    · simp [hempty, hash, Except.toOption]
    by_cases hvanish : t.faults.rowsVanish = true
    · simp [hempty, hash, hmem, Database.faults, hvanish, Except.toOption]
    by_cases hfail : t.faults.updatesFail = true
    · simp [hempty, hash, hmem, Database.faults, hvanish, hfail, Except.toOption]
    by_cases htaken : t.isTaken row.id (changes.username.getD row.toUser.username) = true
    · simp [hempty, hash, hmem, Database.faults, hvanish, hfail, Database.holdsBeside_iff, hname,
        htaken, Except.toOption]
    · simp [hempty, hash, hmem, Database.faults, hvanish, hfail, Database.holdsBeside_iff, hname,
        htaken, Except.toOption]

theorem remove_eq_verdict (db : Database) (id : Int) :
    (remove id).run Database.store db = removeVerdict db id := by
  have hstore : Database.store (.remove id) db = db.removeVerdict id := db.remove_eq_verdict id
  rw [remove_eq, run_noted, hstore, removeVerdict, Database.removeVerdict]
  obtain ⟨_ | t⟩ := db
  · rfl
  cases hrow : t.byId id <;>
    simp [Database.stored, Database.mem_ids_iff, hrow, Except.toOption]

/-! ### What follows from the verdicts -/

/-- The look at the name makes no difference to a registration that nothing else stands in the way
of: the store answers what it would have answered without it. -/
theorem register_eq_add {db : Database} (htable : db.table ≠ none)
    (hfail : db.faults.insertsFail = false) (hrival : db.faults.rivalsAppear = false)
    (now : Timestamp) (username : String) {passwordHash : String} (hash : passwordHash ≠ "")
    (birthDate : Option Date) :
    let o := (register now username passwordHash birthDate).run Database.store db
    (o.result, o.state) = db.add (.unsaved now username passwordHash birthDate) := by
  simp only [register_eq_verdict, Database.add_eq_verdict, registerVerdict, Database.addVerdict,
    User.unsaved]
  by_cases taken : db.Holds username <;> simp [htable, hfail, hrival, hash, taken]

/-- No other row has the name of a user that is stored. -/
theorem not_holdsBeside_own {db : Database} (hs : db.Sound) {id : Int} {u : User}
    (h : db.stored id = some u) : ¬ db.HoldsBeside id u.username := by
  obtain ⟨t, row, rfl, here, hname⟩ := Database.stored_eq_some h
  rintro ⟨r, hr, hid, hbytes⟩
  rw [bytesOf_inj, ← hname] at hbytes
  have hsame : r = row :=
    List.inj_on_of_nodup_map (hs t rfl).names_nodup hr (Table.mem_of_byId here) hbytes
  exact hid (hsame ▸ Table.id_of_byId here)

/-- An account may be given the name that it has. -/
theorem change_to_own_name {db : Database} (hs : db.Sound) (hfail : db.faults.updatesFail = false)
    (hvanish : db.faults.rowsVanish = false) {id : Int} {u : User} (h : db.stored id = some u)
    {changes : Changes} (hname : changes.username.getD u.username = u.username)
    (hash : changes.passwordHash ≠ some "") :
    ((change id changes).run Database.store db).result = .ok (u.change changes) := by
  have apart : db.FaultsApart := by simp [Database.FaultsApart, hfail]
  have htable : db.table ≠ none := by
    obtain ⟨t, row, rfl, -⟩ := Database.stored_eq_some h
    simp
  have hfree := not_holdsBeside_own hs h
  rw [change_eq_verdict hs apart, changeVerdict]
  by_cases hempty : changes = {}
  · simp [htable, h, hempty, User.change]
  · simp [htable, h, hempty, hash, hvanish, hfail, hname, hfree]

/-- What comes of an operation that answers with a user or none. -/
def Operation.verdict (now : Timestamp) (db : Database) : Operation → Outcome Database (Option User)
  | .register username passwordHash birthDate =>
    (registerVerdict db now username passwordHash birthDate).map some
  | .find id => (findVerdict db id).map some
  | .change id changes => (changeVerdict db id changes).map some
  | .remove id => (removeVerdict db id).map fun _ => none

theorem run_eq_verdict {db : Database} (hs : db.Sound) (apart : db.FaultsApart) (now : Timestamp)
    (op : Operation) : (op.plan now).run Database.store db = op.verdict now db := by
  cases op with
  | register username passwordHash birthDate =>
    exact (Plan.run_map _ _ _ _).trans (by rw [register_eq_verdict]; rfl)
  | find id => exact (Plan.run_map _ _ _ _).trans (by rw [find_eq_verdict]; rfl)
  | change id changes =>
    exact (Plan.run_map _ _ _ _).trans (by rw [change_eq_verdict hs apart]; rfl)
  | remove id =>
    exact (Plan.run_map _ (remove id) _ _).trans (by rw [remove_eq_verdict]; rfl)

/-! ### What is stored afterwards -/

/-- What is stored once an operation has come to a result: the user that it answers with under its
identifier, none under an identifier that was deleted or not found, and all else as before. -/
def Operation.leaves (db : Database) : Operation → Except Failure (Option User) → Int → Option User
  | .register _ _ _, .ok (some u), other => if u.id = some other then some u else db.stored other
  | .change id _, .ok (some u), other => if other = id then some u else db.stored other
  | .change id _, .error .notFound, other => if other = id then none else db.stored other
  | .remove id, .ok none, other => if other = id then none else db.stored other
  | _, _, other => db.stored other

theorem register_leaves {db : Database} (hs : db.Sound) (now : Timestamp)
    (username passwordHash : String) (birthDate : Option Date) (other : Int) :
    let o := registerVerdict db now username passwordHash birthDate
    o.state.stored other =
      (Operation.register username passwordHash birthDate).leaves db (o.result.map some) other := by
  obtain ⟨_ | t⟩ := db
  · rfl
  simp only [registerVerdict, reduceCtorEq, if_false]
  split_ifs
  · rfl
  · rfl
  · rfl
  · rfl
  · refine (Database.stored_append (hs t rfl) _ other).trans ?_
    simp only [Operation.leaves, Except.map, Database.lastId, Option.some.injEq, eq_comm,
      User.unsaved]

theorem change_leaves (db : Database) (id : Int) (changes : Changes) (other : Int) :
    let o := changeVerdict db id changes
    o.state.stored other = (Operation.change id changes).leaves db (o.result.map some) other := by
  obtain ⟨_ | t⟩ := db
  · rfl
  -- what was looked up under the identifier stays there
  have hsame : ∀ {u : Option User}, (⟨some t⟩ : Database).stored id = u →
      (⟨some t⟩ : Database).stored other =
        if other = id then u else (⟨some t⟩ : Database).stored other := by
    rintro u rfl
    split_ifs with hother
    · rw [hother]
    · rfl
  cases hu : (⟨some t⟩ : Database).stored id with
  | none =>
    simp only [changeVerdict, hu, reduceCtorEq, if_false]
    exact hsame hu
  | some u =>
    obtain ⟨row, here, rfl⟩ := Option.map_eq_some_iff.1 hu
    obtain rfl : row.id = id := Table.id_of_byId here
    simp only [changeVerdict, hu, reduceCtorEq, if_false]
    split_ifs
    · exact hsame hu
    · rfl
    · exact Database.stored_erase t row.id other
    · rfl
    · rfl
    · exact Database.stored_replace here _ other

theorem remove_leaves (db : Database) (id other : Int) :
    let o := removeVerdict db id
    o.state.stored other = (Operation.remove id).leaves db (o.result.map fun _ => none) other := by
  obtain ⟨_ | t⟩ := db
  · rfl
  simp only [removeVerdict, reduceCtorEq, if_false]
  split_ifs
  · rfl
  · exact Database.stored_erase t id other

/-- What an operation leaves under each identifier. -/
theorem stored_eq_leaves {db : Database} (hs : db.Sound) (apart : db.FaultsApart) (now : Timestamp)
    (op : Operation) (other : Int) :
    let o := (op.plan now).run Database.store db
    o.state.stored other = op.leaves db o.result other := by
  rw [run_eq_verdict hs apart]
  cases op with
  | register username passwordHash birthDate =>
    exact register_leaves hs now username passwordHash birthDate other
  | find id =>
    obtain ⟨_ | t⟩ := db
    · rfl
    · simp only [Operation.verdict, findVerdict, reduceCtorEq, if_false]
      split <;> rfl
  | change id changes => exact change_leaves db id changes other
  | remove id => exact remove_leaves db id other

/-! ### Failures -/

/-- What an operation can fail with.  The cause of a database failure is kept. -/
inductive Refusal (db : Database) : Failure → Prop
  | notFound : Refusal db .notFound
  | taken : Refusal db (.conflict "Username")
  | noHash : Refusal db (.validation "Password hash must not be empty")
  | noTable (h : db.table = none) : Refusal db (.database .noTable)
  | aborted (h : db.table ≠ none) : Refusal db (.database .aborted)

theorem refusal_of_error {db : Database} (hs : db.Sound) (apart : db.FaultsApart)
    (now : Timestamp) (op : Operation) {f : Failure}
    (h : ((op.plan now).run Database.store db).result = .error f) : Refusal db f := by
  rw [run_eq_verdict hs apart] at h
  cases op with
  | register username passwordHash birthDate =>
    simp only [Operation.verdict, registerVerdict, Outcome.map] at h
    split_ifs at h with htable <;> cases h
    · exact .noTable htable
    · exact .taken
    · exact .noHash
    · exact .aborted htable
    · exact .taken
  | find id =>
    simp only [Operation.verdict, findVerdict, Outcome.map] at h
    cases hu : db.stored id <;> simp only [hu] at h <;> split_ifs at h with htable <;> cases h
    · exact .noTable htable
    · exact .notFound
    · exact .noTable htable
  | change id changes =>
    simp only [Operation.verdict, changeVerdict, Outcome.map] at h
    cases hu : db.stored id with
    | none =>
      simp only [hu] at h
      split_ifs at h with htable <;> cases h
      · exact .noTable htable
      · exact .notFound
    | some u =>
      simp only [hu] at h
      split_ifs at h with htable <;> cases h
      · exact .noTable htable
      · exact .noHash
      · exact .notFound
      · exact .aborted htable
      · exact .taken
  | remove id =>
    simp only [Operation.verdict, removeVerdict, Outcome.map] at h
    split_ifs at h with htable <;> cases h
    · exact .noTable htable
    · exact .notFound

end Service

/-- **The first condition that holds decides an operation**, as the verdicts list them.  So a
registration with a hash that no fault meets comes to what adding the user comes to, an account may
be given the name that it has, and the only rule for users that an operation can find broken is the
one about the hash.  Under each identifier an operation leaves what its result says, and a database
failure tells whether the table is missing. -/
theorem operations_decided {db : Database} (hdb : db.Reachable) (apart : db.FaultsApart)
    (now : Timestamp) :
    (∀ username passwordHash birthDate,
      (Service.register now username passwordHash birthDate).run Database.store db =
        Service.registerVerdict db now username passwordHash birthDate) ∧
    (∀ id, (Service.find id).run Database.store db = Service.findVerdict db id) ∧
    (∀ id changes, (Service.change id changes).run Database.store db =
      Service.changeVerdict db id changes) ∧
    (∀ id, (Service.remove id).run Database.store db = Service.removeVerdict db id) ∧
    (∀ username passwordHash birthDate, db.table ≠ none → db.faults.insertsFail = false →
      db.faults.rivalsAppear = false → passwordHash ≠ "" →
      let o := (Service.register now username passwordHash birthDate).run Database.store db
      (o.result, o.state) = db.add (.unsaved now username passwordHash birthDate)) ∧
    (∀ id u (changes : Changes), db.faults.updatesFail = false → db.faults.rowsVanish = false →
      db.stored id = some u → changes.username.getD u.username = u.username →
      changes.passwordHash ≠ some "" →
      ((Service.change id changes).run Database.store db).result = .ok (u.change changes)) ∧
    (∀ (op : Service.Operation) reason,
      ((op.plan now).run Database.store db).result = .error (.validation reason) →
      reason = "Password hash must not be empty") ∧
    (∀ (op : Service.Operation) id,
      let o := (op.plan now).run Database.store db
      o.state.stored id = op.leaves db o.result id) ∧
    ∀ (op : Service.Operation) cause,
      ((op.plan now).run Database.store db).result = .error (.database cause) →
      (db.table = none ∧ cause = .noTable) ∨ (db.table ≠ none ∧ cause = .aborted) := by
  refine ⟨Service.register_eq_verdict db now, Service.find_eq_verdict db,
    Service.change_eq_verdict hdb.sound apart, Service.remove_eq_verdict db, ?_, ?_, ?_,
    Service.stored_eq_leaves hdb.sound apart now, ?_⟩
  · intro username passwordHash birthDate htable hfail hrival hash
    exact Service.register_eq_add htable hfail hrival now username hash birthDate
  · intro id u changes hfail hvanish hu hname hash
    exact Service.change_to_own_name hdb.sound hfail hvanish hu hname hash
  · intro op reason h
    cases Service.refusal_of_error hdb.sound apart now op h
    rfl
  · intro op cause h
    cases Service.refusal_of_error hdb.sound apart now op h with
    | noTable htable => exact .inl ⟨htable, rfl⟩
    | aborted htable => exact .inr ⟨htable, rfl⟩

/-- While rows vanish, a name that is taken counts before a missing hash, an update without changes
still succeeds, and one that names a taken name finds its row gone. -/
theorem decisions_while_rows_vanish :
    (Session.run {} (sampleRun.take 5)).FaultsApart ∧
    ((Service.register noon "bob" "" none).run Database.store
      (Session.run {} (sampleRun.take 5))).result = .error (.conflict "Username") ∧
    ((Service.change 2 {}).run Database.store (Session.run {} (sampleRun.take 5))).result =
      .ok ⟨some 2, "bob", none, "second", noon⟩ ∧
    ((Service.change 2 { username := some "alice" }).run Database.store
      (Session.run {} (sampleRun.take 5))).result = .error .notFound ∧
    ((Service.change 2 { username := some "alice", passwordHash := some "" }).run Database.store
      (Session.run {} (sampleRun.take 5))).result =
        .error (.validation "Password hash must not be empty") := by
  have apart : (Session.run {} (sampleRun.take 5)).FaultsApart := by decide +kernel
  obtain ⟨hregister, -, hchange, -⟩ := operations_decided ⟨sampleRun.take 5, rfl⟩ apart noon
  refine ⟨apart, ?_, ?_, ?_, ?_⟩
  · rw [hregister]
    decide +kernel
  · rw [hchange]
    decide +kernel
  · rw [hchange]
    decide +kernel
  · rw [hchange]
    decide +kernel

end Accounts
