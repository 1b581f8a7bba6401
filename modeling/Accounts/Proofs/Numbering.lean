import Accounts.Proofs.LastWrite
import Accounts.Proofs.Operations

/-!
# Accounts.Proofs.Numbering — identifiers count up from 1

The counter of a table is the number of rows that were ever inserted into it: an insert that
succeeds takes the next identifier (`Step.inserted?_spec`), and no other step moves the counter as
long as the table is not dropped (`Step.lastId_of_not_inserted`).  So the inserts between two drops
are given the identifiers 1, 2, 3, … in their order (`ids_count_up`).
-/

namespace Accounts

open Calendar

/-- The identifiers of the rows, in the order of their insertion. -/
def Database.ids (db : Database) : List Int :=
  db.rows.map Row.id

variable {now : Timestamp} {db : Database} {step : Step} {u : User}

theorem ids_replace (t : Table) (row : Row) :
    (⟨some (t.replace row)⟩ : Database).ids = (⟨some t⟩ : Database).ids :=
  t.map_id_replace row

/-! ### What the operations do to the identifiers -/

namespace Service.Operation.Deed

variable {op : Service.Operation} {o : Outcome Database (Option User)} {ws : List Write}

/-- A registration that succeeds appends the account under the next identifier. -/
theorem appended {username passwordHash : String} {birthDate : Option Date}
    (h : (register username passwordHash birthDate).Deed now db o ws)
    (hu : o.result.toOption.join = some u) :
    ∃ t es, db = ⟨some t⟩ ∧ u.id = some (t.lastId + 1 : Int) ∧
      o = ⟨.ok (some u), es, ⟨some (t.append u)⟩⟩ := by
  cases h with
  | refused => cases hu
  | registered =>
    cases hu
    exact ⟨_, _, rfl, rfl, rfl⟩

/-- An operation moves the counter only if it registers an account. -/
theorem lastId_eq (h : op.Deed now db o ws)
    (hnone : ∀ username passwordHash birthDate, op = register username passwordHash birthDate →
      o.result.toOption.join = none) : o.state.lastId = db.lastId := by
  cases h with
  | registered => cases hnone _ _ _ rfl
  | refused | found | kept | changed | lost | removed => rfl

/-- A change that succeeds keeps the identifiers of the rows, and the next one. -/
theorem ids_of_change {id : Int} {changes : Changes} {user : Option User}
    (h : (change id changes).Deed now db o ws) (hok : o.result = .ok user) :
    o.state.ids = db.ids ∧ o.state.lastId = db.lastId := by
  cases h with
  | refused | lost => cases hok
  | kept => exact ⟨rfl, rfl⟩
  | changed => exact ⟨ids_replace _ _, rfl⟩

end Service.Operation.Deed

/-! ### Steps that insert -/

namespace Step

/-- The user that a successful insert ends with, whether the step is a request, a registration or
an administrator's. -/
def inserted? (now : Timestamp) (db : Database) : Step → Option User
  | .request (.add u) => (db.add u).1.toOption
  | .operation (.register username passwordHash birthDate)
  | .action (.register username passwordHash birthDate) _ =>
    (((Service.Operation.register username passwordHash birthDate).plan now).run Database.store
      db).result.toOption.join
  | _ => none

/-- The step answers with the user, or prints as much of it as its output keeps. -/
def Shows (step : Step) (e : Effect) (u : User) : Prop :=
  match step with
  | .action _ capacity => e.output = capacity.keep (Action.printed u)
  | _ => e.result = .ok (.user u)

/-- What a successful insert does: the row of the user that it shows is appended, and its
identifier is the next one. -/
theorem inserted?_spec (h : step.inserted? now db = some u) :
    ∃ t, db = ⟨some t⟩ ∧ u.id = some (t.lastId + 1 : Int) ∧
      (step.perform now db).database = ⟨some (t.append u)⟩ ∧
      step.Shows (step.perform now db) u := by
  cases step with
  | request r =>
    cases r with
    | add v =>
      rcases db.add_cases v with ⟨f, hf⟩ | ⟨t, rfl, -, ha⟩
      · rw [inserted?, hf] at h
        cases h
      · rw [inserted?, ha] at h
        cases h
        refine ⟨t, rfl, rfl, ?_, ?_⟩
        · simp [perform, Database.store, ha, Table.append, Row.ofUser]
        · simp [Shows, perform, Database.store, ha, Answer.ofReply, Except.map]
    | byId | byName | save | remove | createTable => cases h
  | operation op =>
    cases op with
    | register username passwordHash birthDate =>
      have hdeed := (Service.Operation.register username passwordHash birthDate).deed now db
      obtain ⟨t, es, rfl, hid, hrun⟩ := hdeed.appended h
      refine ⟨t, rfl, hid, ?_, ?_⟩ <;>
        simp [Shows, perform, hrun, Except.map, Answer.ofUser?]
    | find | change | remove => cases h
  | action a capacity =>
    cases a with
    | register username passwordHash birthDate =>
      have hdeed := (Service.Operation.register username passwordHash birthDate).deed now db
      obtain ⟨t, es, rfl, hid, hrun⟩ := hdeed.appended h
      have hplan : (Action.register username passwordHash birthDate).plan now =
        (Service.Operation.register username passwordHash birthDate).plan now := rfl
      refine ⟨t, rfl, hid, ?_, ?_⟩ <;>
        simp [Shows, perform, Action.perform, Action.report, hplan, hrun, Action.print]
    | setUp | view | change | remove => cases h
  | ensureTable | ping | columns | dropTable | raise | clearFaults => cases h

/-! ### Steps that do not insert -/

theorem ids_createTable (db : Database) :
    db.createTable.ids = db.ids ∧ db.createTable.lastId = db.lastId := by
  obtain ⟨_ | t⟩ := db <;> exact ⟨rfl, rfl⟩

theorem database_of_makesTable (h : step.makesTable = true) :
    (step.perform now db).database = db.createTable := by
  cases step with
  | request r =>
    cases r with
    | createTable => rfl
    | add | byId | byName | save | remove => cases h
  | action a capacity =>
    cases a with
    | setUp => rfl
    | register | view | change | remove => cases h
  | ensureTable => rfl
  | operation | ping | columns | dropTable | raise | clearFaults => cases h

theorem lastId_of_operation? {op : Service.Operation} (hop : step.operation? = some op)
    (h : step.inserted? now db = none) :
    (step.perform now db).database.lastId = db.lastId := by
  rw [database_of_operation? hop]
  refine (op.deed now db).lastId_eq ?_
  rintro username passwordHash birthDate rfl
  cases step with
  | operation op' =>
    cases hop
    exact h
  | action a capacity =>
    cases a with
    | register =>
      cases hop
      exact h
    | setUp | view | change | remove => cases hop
  | request | ensureTable | ping | columns | dropTable | raise | clearFaults => cases hop

/-- Only an insert moves the counter of a table that stays. -/
theorem lastId_of_not_inserted (h : step.inserted? now db = none) (hstays : step ≠ .dropTable) :
    (step.perform now db).database.lastId = db.lastId := by
  cases step with
  | request r =>
    cases r with
    | add v =>
      rcases db.add_cases v with ⟨f, hf⟩ | ⟨t, rfl, -, ha⟩
      · simp [perform, Database.store, hf]
      · rw [inserted?, ha] at h
        cases h
    | byId id => exact congrArg Database.lastId (db.byId_state id)
    | byName name => exact congrArg Database.lastId (db.byName_state name)
    | save v =>
      rcases db.save_cases v with ⟨f, hf, -⟩ | ⟨t, id, row, rfl, -, -, hl⟩ |
        ⟨t, id, row, rfl, -, -, -, hs⟩
      · simp [perform, Database.store, hf]
      · simp [perform, Database.store, hl, Database.lastId, Table.erase]
      · simp [perform, Database.store, hs, Database.lastId, Table.replace]
    | remove id =>
      rcases db.remove_cases id with ⟨f, hf⟩ | ⟨t, row, rfl, -, hr⟩
      · simp [perform, Database.store, hf]
      · simp [perform, Database.store, hr, Database.lastId, Table.erase]
    | createTable => exact (ids_createTable db).2
  | operation op => exact lastId_of_operation? rfl h
  | action a capacity =>
    cases hop : a.operation? with
    | none =>
      -- the only action without an operation makes the table
      have hmakes : (Step.action a capacity).makesTable = true := by
        cases a with
        | setUp => rfl
        | register | view | change | remove => cases hop
      rw [database_of_makesTable hmakes]
      exact (ids_createTable db).2
    | some op => exact lastId_of_operation? hop h
  | ensureTable => exact (ids_createTable db).2
  | ping | columns => rfl
  | dropTable => exact absurd rfl hstays
  | raise fault => obtain ⟨_ | t⟩ := db <;> rfl
  | clearFaults => obtain ⟨_ | t⟩ := db <;> rfl

/-! ### Steps that keep the identifiers of all rows -/

/-- The step is to write over a row. -/
def isUpdate : Step → Bool
  | .request (.save _) | .operation (.change _ _) | .action (.change _ _) _ => true
  | _ => false

/-- The store does what the step asks for, though its output may turn out to be full. -/
def Succeeds (now : Timestamp) (db : Database) (step : Step) : Prop :=
  ∃ answer, (step.unlimited.perform now db).result = .ok answer

theorem succeeds_iff {op : Service.Operation} (h : step.operation? = some op) :
    step.Succeeds now db ↔ ∃ user, ((op.plan now).run Database.store db).result = .ok user := by
  have hresult : (step.unlimited.perform now db).result.isOk =
      ((op.plan now).run Database.store db).result.isOk := by
    cases step with
    | operation op' =>
      cases h
      simp only [unlimited, perform]
      cases ((op.plan now).run Database.store db).result <;> rfl
    | action a capacity =>
      obtain ⟨hresult, -⟩ := Action.plan_of_operation? h now db
      simp only [unlimited, perform, Action.perform, Action.report]
      rw [hresult]
      rcases ((op.plan now).run Database.store db).result with _ | _ | _ <;> rfl
    | request | ensureTable | ping | columns | dropTable | raise | clearFaults => cases h
  have isOk_iff : ∀ {α : Type} (e : Except Failure α), e.isOk = true ↔ ∃ a, e = .ok a := by
    intro α e
    cases e <;> simp [Except.isOk, Except.toBool]
  rw [Succeeds, ← isOk_iff, hresult, isOk_iff]

/-- A successful update keeps the identifiers of the rows, and the next one. -/
theorem ids_of_isUpdate (h : step.isUpdate = true) (hs : step.Succeeds now db) :
    (step.perform now db).database.ids = db.ids ∧
      (step.perform now db).database.lastId = db.lastId := by
  have hchange : ∀ id changes, step.operation? = some (.change id changes) →
      (step.perform now db).database.ids = db.ids ∧
        (step.perform now db).database.lastId = db.lastId := by
    intro id changes hop
    obtain ⟨user, hok⟩ := (succeeds_iff hop).1 hs
    rw [database_of_operation? hop]
    exact ((Service.Operation.change id changes).deed now db).ids_of_change hok
  cases step with
  | request r =>
    cases r with
    | save u =>
      obtain ⟨answer, hok⟩ := hs
      rcases db.save_cases u with ⟨f, hf, -⟩ | ⟨t, id, row, rfl, -, -, hl⟩ |
        ⟨t, id, row, rfl, -, -, -, hw⟩
      · simp [unlimited, perform, Database.store, hf, Except.map] at hok
      · simp [unlimited, perform, Database.store, hl, Except.map] at hok
      · simp only [perform, Database.store, hw]
        exact ⟨ids_replace _ _, rfl⟩
    | add | byId | byName | remove | createTable => cases h
  | operation op =>
    cases op with
    | change id changes => exact hchange id changes rfl
    | register | find | remove => cases h
  | action a capacity =>
    cases a with
    | change id changes => exact hchange id changes rfl
    | setUp | register | view | remove => cases h
  | ensureTable | ping | columns | dropTable | raise | clearFaults => cases h

end Step

/-! ### Runs -/

/-- The users that the inserts of a run end with, in their order. -/
def Session.inserted (db : Database) : List (Timestamp × Step) → List User
  | [] => []
  | (now, step) :: rest =>
    (step.inserted? now db).toList ++ inserted (step.perform now db).database rest

/-- As long as the table is not dropped, the inserts are given the identifiers that follow the
counter, one after the other. -/
theorem Session.inserted_id (steps : List (Timestamp × Step)) (db : Database)
    (hstays : ∀ s ∈ steps, s.2 ≠ .dropTable) {k : Nat} {u : User}
    (h : (Session.inserted db steps)[k]? = some u) : u.id = some (db.lastId + 1 + k) := by
  -- the first step leaves the counter where it was, or it inserts and takes the next identifier
  induction steps generalizing db k with
  | nil => cases h
  | cons s rest ih =>
    have hrest : ∀ s ∈ rest, s.2 ≠ .dropTable := fun s hs => hstays s (List.mem_cons_of_mem _ hs)
    cases hins : s.2.inserted? s.1 db with
    | none =>
      simp only [inserted, hins, Option.toList_none, List.nil_append] at h
      rw [← Step.lastId_of_not_inserted hins (hstays s List.mem_cons_self)]
      exact ih _ hrest h
    | some v =>
      obtain ⟨t, rfl, hid, hstate, -⟩ := Step.inserted?_spec hins
      simp only [inserted, hins, Option.toList_some, List.singleton_append] at h
      cases k with
      | zero =>
        cases h
        simpa [Database.lastId] using hid
      | succ k =>
        have hk := ih _ hrest h
        rw [hk, hstate]
        simp only [Database.lastId, Table.append]
        push_cast
        congr 1
        omega

/-- **Identifiers count up from 1.**  Between two drops of the table, or before the first or after
the last one, the inserts that succeed are given the identifiers 1, 2, 3, … in their order, so none
is given twice.  Each of them appends the row of the user that it shows, which is then stored under
the next identifier beside all that was stored before; no other step uses an identifier up.  A
successful update, and making the table, keep the identifiers of all rows and the next one to be
given. -/
theorem ids_count_up {before life : List (Timestamp × Step)}
    (hstart : before = [] ∨ ∃ init now, before = init ++ [(now, .dropTable)])
    (hlife : ∀ s ∈ life, s.2 ≠ .dropTable) :
    (∀ (k : Nat) u, (Session.inserted (Session.run {} before) life)[k]? = some u →
      u.id = some (k + 1 : Int)) ∧
    ((Session.inserted (Session.run {} before) life).map User.id).Nodup ∧
    (∀ now db (step : Step) u, step.inserted? now db = some u →
      step.Shows (step.perform now db) u ∧
        ∃ t, db = ⟨some t⟩ ∧ u.id = some (t.lastId + 1 : Int) ∧
          (step.perform now db).database = ⟨some (t.append u)⟩ ∧
          (db.Sound → ∀ id, (step.perform now db).database.stored id =
            if id = t.lastId + 1 then some u else db.stored id)) ∧
    (∀ now db (step : Step), step.inserted? now db = none → step ≠ .dropTable →
      (step.perform now db).database.lastId = db.lastId) ∧
    (∀ now db (step : Step), step.isUpdate = true ∧ step.Succeeds now db ∨ step.makesTable = true →
      (step.perform now db).database.ids = db.ids ∧
        (step.perform now db).database.lastId = db.lastId) := by
  -- a life of the table starts where there is none
  have hempty : Session.run {} before = {} := by
    rcases hstart with rfl | ⟨init, now, rfl⟩
    · rfl
    · rw [Session.run_append]
      rfl
  have hcount : ∀ (k : Nat) u, (Session.inserted (Session.run {} before) life)[k]? = some u →
      u.id = some (k + 1 : Int) := by
    intro k u hu
    rw [hempty] at hu
    have hid := Session.inserted_id life {} hlife hu
    have hzero : ({} : Database).lastId = 0 := rfl
    rw [hid, hzero]
    congr 1
    omega
  refine ⟨hcount, ?_, ?_, fun now db step => Step.lastId_of_not_inserted, ?_⟩
  · rw [List.nodup_iff_getElem?_ne_getElem?]
    intro i j hij hj heq
    rw [List.length_map] at hj
    have hi := Nat.lt_trans hij hj
    rw [List.getElem?_map, List.getElem?_map, List.getElem?_eq_getElem hi,
      List.getElem?_eq_getElem hj, Option.map_some, Option.map_some,
      hcount i _ (List.getElem?_eq_getElem hi), hcount j _ (List.getElem?_eq_getElem hj)] at heq
    simp only [Option.some.injEq] at heq
    omega
  · intro now db step u hu
    obtain ⟨t, rfl, hid, hstate, hshows⟩ := Step.inserted?_spec hu
    refine ⟨hshows, t, rfl, hid, hstate, fun hs id => ?_⟩
    rw [hstate, Database.stored_append (hs t rfl), ← hid]
  · rintro now db step (⟨hupdate, hs⟩ | hmakes)
    · exact Step.ids_of_isUpdate hupdate hs
    · rw [Step.database_of_makesTable hmakes]
      exact Step.ids_createTable db

/-- A second life of the table of the sample run: a request, a name that is taken, a hash that is
empty, an insert that fails, a deletion, and a registration whose output is full. -/
def secondLife : List (Timestamp × Step) :=
  [.ensureTable,
    .request (.add ⟨none, "dave", none, "first", noon⟩),
    .operation (.register "dave" "second" none),
    .operation (.register "erin" "" none),
    .raise .insertsFail,
    .operation (.register "erin" "third" none),
    .clearFaults,
    .request (.remove 1),
    .action (.register "erin" "third" none) (some 0)].map fun step => (noon, step)

theorem ids_of_secondLife :
    (∀ s ∈ secondLife, s.2 ≠ .dropTable) ∧
    ∃ u, (Session.inserted (Session.run {} (sampleRun ++ [(noon, .dropTable)])) secondLife)[1]? =
      some u ∧ u.username = "erin" ∧ u.id = some (1 + 1) := by
  have hlife : ∀ s ∈ secondLife, s.2 ≠ .dropTable := by decide
  have herin : (Session.inserted (Session.run {} (sampleRun ++ [(noon, .dropTable)]))
      secondLife)[1]? = some ⟨some 2, "erin", none, "third", noon⟩ := by decide +kernel
  obtain ⟨hcount, -⟩ := ids_count_up (.inr ⟨sampleRun, noon, rfl⟩) hlife
  exact ⟨hlife, _, herin, rfl, hcount 1 _ herin⟩

end Accounts
