import Accounts.Proofs.SingleRow

/-!
# Accounts.Proofs.Commutation — operations on different accounts

Looking an account up, changing it and deleting it work on one row (`Service.Task.run_eq`).  What
two of them put in the place of different rows does not depend on the order (`Table.put_comm`), so
the order can only matter through names: a task that sets none, and one that goes through, come to
what they come to with no other names around (`Service.Task.apart_of_not_setsName`,
`Service.Task.apart_of_ok`).  `operations_commute` puts this together.
-/

namespace Accounts

open Calendar

variable {now : Timestamp} {t : Table} {i j : Int}

/-! ### Different rows -/

theorem Table.put_comm {a b : Option Row} (hij : i ≠ j) (ha : ∀ r ∈ a, r.id = i)
    (hb : ∀ r ∈ b, r.id = j) (t : Table) : (t.put i a).put j b = (t.put j b).put i a := by
  simp only [put, List.filterMap_filterMap]
  congr 2
  funext r
  by_cases hi : r.id = i
  · have hj : r.id ≠ j := fun h => hij (hi.symm.trans h)
    cases a with
    | none => simp [hi, hij]
    | some s => simp [hi, hij, ha s rfl]
  · by_cases hj : r.id = j
    · cases b with
      | none => simp [hj, hij.symm]
      | some s => simp [hj, hij.symm, hb s rfl]
    · simp [hi, hj]

/-! ### What a change makes of its row when names do not matter -/

namespace Changes

variable {c : Changes} {faults : Faults} {taken : String → Bool} {a : Option Row} {u : User}

/-- Where the name that is to be written is free, other names do not matter. -/
theorem onRow_of_free (h : ∀ r ∈ a, taken (r.toUser.change c).username = false) :
    c.onRow faults taken a = c.onRow faults (fun _ => false) a := by
  cases a with
  | none => rfl
  | some row =>
    have hfree := h row rfl
    simp only [onRow, hfree]

/-- Nor do they matter to a change that goes through. -/
theorem onRow_of_ok (h : (c.onRow faults taken a).result = .ok u) :
    c.onRow faults taken a = c.onRow faults (fun _ => false) a := by
  obtain ⟨row, rfl, -, hwritable⟩ := writable_of_onRow h
  by_cases hempty : c = {}
  · subst hempty
    rfl
  · refine onRow_of_free ?_
    rintro r ⟨⟩
    exact (hwritable hempty).free

end Changes

namespace Service

/-- An operation on an account that was registered before. -/
inductive Task where
  | find
  | change (changes : Changes)
  | remove
  deriving DecidableEq

namespace Task

/-- The operation that is the task for the account of an identifier. -/
def operation (id : Int) : Task → Operation
  | .find => .find id
  | .change changes => .change id changes
  | .remove => .remove id

/-- What comes of a task on a database, at the moment `now`. -/
def run (now : Timestamp) (task : Task) (id : Int) (db : Database) :
    Outcome Database (Option User) :=
  ((task.operation id).plan now).run Database.store db

/-- The task sets a username. -/
def setsName : Task → Bool
  | .change changes => changes.username.isSome
  | .find | .remove => false

/-- What a task answers, and what it puts in the place of its row. -/
def onRow (faults : Faults) (taken : String → Bool) :
    Task → Option Row → Outcome (Option Row) (Option User)
  | .change changes, row =>
    let o := changes.onRow faults taken row
    ⟨o.result.map some, o.events, o.state⟩
  | .find, none | .remove, none => ⟨.error .notFound, [], none⟩
  | .find, some row => ⟨.ok (some row.toUser), [], some row⟩
  | .remove, some row => ⟨.ok none, [.userDeleted row.id], none⟩

/-! ### A task works on one row -/

theorem run_eq (hs : t.Sound) (id : Int) (task : Task) :
    task.run now id ⟨some t⟩ =
      (task.onRow t.faults (t.isTaken id) (t.byId id)).inTable t id := by
  have hput := hs.put_byId id
  rw [run]
  cases task with
  | find =>
    rw [operation, Operation.find_plan, Plan.run_ask_of_ok (Operation.store_byId t id)]
    cases hrow : t.byId id <;> rw [hrow] at hput <;>
      simp [onRow, Outcome.inTable, Plan.run, hput]
  | change changes =>
    exact (Plan.run_map _ _ _ _).trans (by rw [change_run hs]; rfl)
  | remove =>
    rw [operation, Operation.remove_plan]
    cases hrow : t.byId id with
    | none =>
      have hrefused : Database.store (.remove id) ⟨some t⟩ = (.error .notFound, ⟨some t⟩) := by
        simp [Database.store, Database.remove, Database.onTable, Table.remove, hrow]
      rw [hrow] at hput
      rw [Plan.run_ask_of_error hrefused, onRow, Outcome.inTable, hput]
    | some row =>
      have hdone : Database.store (.remove id) ⟨some t⟩ = (.ok (), ⟨some (t.erase id)⟩) := by
        simp [Database.store, Database.remove, Database.onTable, Table.remove, hrow]
      rw [Plan.run_ask_of_ok hdone, onRow, Outcome.inTable, Table.put_none, Table.id_of_byId hrow]
      rfl

/-- Without a table every task fails, and nothing changes. -/
theorem run_of_no_table (id : Int) (task : Task) :
    task.run now id ⟨none⟩ = ⟨.error (.database .noTable), [], ⟨none⟩⟩ := by
  cases task <;> rfl

/-- What a task puts in the place of a row has the identifier of the row. -/
theorem id_of_onRow {faults : Faults} {taken : String → Bool} {a : Option Row} (task : Task)
    (ha : ∀ r ∈ a, r.id = i) : ∀ r ∈ (task.onRow faults taken a).state, r.id = i := by
  intro r hr
  cases a with
  | none => cases task <;> cases hr
  | some row =>
    have hrow := ha row rfl
    cases task with
    | find =>
      cases hr
      exact hrow
    | change changes => exact (Changes.id_of_onRow row r hr).trans hrow
    | remove => cases hr

/-! ### One task after the other -/

/-- What comes of the task with no other names around. -/
def alone (task : Task) (t : Table) (id : Int) : Outcome (Option Row) (Option User) :=
  task.onRow t.faults (fun _ => false) (t.byId id)

/-- The names of other rows make no difference to the task. -/
def Apart (task : Task) (t : Table) (id : Int) : Prop :=
  task.onRow t.faults (t.isTaken id) (t.byId id) = task.alone t id

theorem id_of_alone (task : Task) (t : Table) (id : Int) :
    ∀ r ∈ (task.alone t id).state, r.id = id :=
  task.id_of_onRow fun _ hr => Table.id_of_byId hr

/-- A task that goes through is one to which other names make no difference. -/
theorem apart_of_ok {task : Task} {u : Option User} (hs : t.Sound)
    (h : (task.run now i ⟨some t⟩).result = .ok u) : task.Apart t i := by
  rw [run_eq hs] at h
  cases task with
  | find | remove => cases hrow : t.byId i <;> simp only [Apart, alone, onRow, hrow]
  | change changes =>
    simp only [Outcome.inTable, onRow] at h
    cases hresult : (changes.onRow t.faults (t.isTaken i) (t.byId i)).result with
    | error f =>
      rw [hresult] at h
      cases h
    | ok u => simp only [Apart, alone, onRow, Changes.onRow_of_ok hresult]

/-- So is one that sets no name: no other row has the name that stays. -/
theorem apart_of_not_setsName {task : Task} (hs : t.Sound) (h : task.setsName = false) :
    task.Apart t i := by
  cases task with
  | find | remove => cases hrow : t.byId i <;> simp only [Apart, alone, onRow, hrow]
  | change changes =>
    have hnone : changes.username = none :=
      Option.isNone_iff_eq_none.1 (Option.isSome_eq_false_iff.1 h)
    have hfree : ∀ r ∈ t.byId i, t.isTaken i (r.toUser.change changes).username = false := by
      intro r hr
      have hname : (r.toUser.change changes).username = r.username := by
        simp only [User.change, hnone, Option.getD_none, Row.toUser]
      rw [hname, Table.isTaken_eq_false_iff]
      intro s hmem hsame
      have hrow : s = r :=
        List.inj_on_of_nodup_map hs.names_nodup hmem (Table.mem_of_byId hr) hsame
      exact hrow ▸ Table.id_of_byId hr
    simp only [Apart, alone, onRow, Changes.onRow_of_free hfree]

/-- What comes of a task to which other names make no difference. -/
theorem Apart.run_eq {task : Task} (h : task.Apart t i) (hs : t.Sound) :
    task.run now i ⟨some t⟩ = (task.alone t i).inTable t i := by
  rw [Task.run_eq hs, h]

theorem Apart.state {task : Task} (h : task.Apart t i) (hs : t.Sound) :
    (task.run now i ⟨some t⟩).state = ⟨some (t.put i (task.alone t i).state)⟩ := by
  rw [h.run_eq hs]
  rfl

theorem Apart.sound {task : Task} (h : task.Apart t i) (hs : t.Sound) :
    (t.put i (task.alone t i).state).Sound := by
  have hdb : (⟨some t⟩ : Database).Sound := by
    rintro _ ⟨⟩
    exact hs
  -- any moment will do
  exact hdb.run ((task.operation i).plan noon) _ (congrArg Database.table (h.state hs))

/-- A task for another account does not change what the task comes to. -/
theorem alone_after (hij : i ≠ j) (a b : Task) (t : Table) :
    b.alone (t.put i (a.alone t i).state) j = b.alone t j := by
  rw [alone, Table.byId_put (a.id_of_alone t i), if_neg hij.symm]
  rfl

variable {a b : Task}

/-- What comes of a second task, after one for another account. -/
theorem Apart.run_after (ha : a.Apart t i) (hb : b.Apart (t.put i (a.alone t i).state) j)
    (hs : t.Sound) (hij : i ≠ j) :
    b.run now j (a.run now i ⟨some t⟩).state =
      (b.alone t j).inTable (t.put i (a.alone t i).state) j := by
  rw [ha.state hs, hb.run_eq (ha.sound hs), alone_after hij]

/-- Two tasks come to the same in both orders if other names make no difference in either. -/
theorem Apart.comm (ha : a.Apart t i) (hb : b.Apart t j)
    (hab : b.Apart (t.put i (a.alone t i).state) j)
    (hba : a.Apart (t.put j (b.alone t j).state) i) (hs : t.Sound) (hij : i ≠ j) :
    (a.run now i ⟨some t⟩).result = (a.run now i (b.run now j ⟨some t⟩).state).result ∧
      (a.run now i ⟨some t⟩).events = (a.run now i (b.run now j ⟨some t⟩).state).events ∧
      (b.run now j ⟨some t⟩).result = (b.run now j (a.run now i ⟨some t⟩).state).result ∧
      (b.run now j ⟨some t⟩).events = (b.run now j (a.run now i ⟨some t⟩).state).events ∧
      (b.run now j (a.run now i ⟨some t⟩).state).state =
        (a.run now i (b.run now j ⟨some t⟩).state).state := by
  have hput : (t.put i (a.alone t i).state).put j (b.alone t j).state =
      (t.put j (b.alone t j).state).put i (a.alone t i).state :=
    Table.put_comm hij (a.id_of_alone t i) (b.id_of_alone t j) t
  rw [ha.run_after hab hs hij, hb.run_after hba hs hij.symm, ha.run_eq hs, hb.run_eq hs]
  refine ⟨rfl, rfl, rfl, rfl, ?_⟩
  simp only [Outcome.inTable, hput]

end Task

end Service

open Service in
/-- **Operations on different accounts commute.**  If two of them go through in both orders, they
answer with the same users and leave the same table in both; and if neither sets a username, each
answers and notes the same in both orders, be it a failure, and the tables at the end are the
same. -/
theorem operations_commute {db : Database} (hdb : db.Reachable) {i j : Int} (hij : i ≠ j)
    (a b : Task) (now : Timestamp) :
    (∀ u v u' v', (a.run now i db).result = .ok u →
      (b.run now j (a.run now i db).state).result = .ok v →
      (b.run now j db).result = .ok v' → (a.run now i (b.run now j db).state).result = .ok u' →
      u = u' ∧ v = v' ∧
        (b.run now j (a.run now i db).state).state = (a.run now i (b.run now j db).state).state) ∧
    (a.setsName = false → b.setsName = false →
      (a.run now i db).result = (a.run now i (b.run now j db).state).result ∧
        (a.run now i db).events = (a.run now i (b.run now j db).state).events ∧
        (b.run now j db).result = (b.run now j (a.run now i db).state).result ∧
        (b.run now j db).events = (b.run now j (a.run now i db).state).events ∧
        (b.run now j (a.run now i db).state).state =
          (a.run now i (b.run now j db).state).state) := by
  obtain ⟨_ | t⟩ := db
  · simp only [Task.run_of_no_table]
    refine ⟨fun u v u' v' hu => ?_, fun _ _ => ⟨trivial, trivial, trivial, trivial, trivial⟩⟩
    cases hu
  have hs : t.Sound := hdb.sound t rfl
  refine ⟨fun u v u' v' hu hv hv' hu' => ?_, fun hna hnb => ?_⟩
  · have ha : a.Apart t i := Task.apart_of_ok hs hu
    have hb : b.Apart t j := Task.apart_of_ok hs hv'
    have hab : b.Apart (t.put i (a.alone t i).state) j := by
      rw [ha.state hs] at hv
      exact Task.apart_of_ok (ha.sound hs) hv
    have hba : a.Apart (t.put j (b.alone t j).state) i := by
      rw [hb.state hs] at hu'
      exact Task.apart_of_ok (hb.sound hs) hu'
    obtain ⟨hresult, -, hresult', -, hstate⟩ := ha.comm hb hab hba hs hij
    rw [hu, hu'] at hresult
    rw [hv, hv'] at hresult'
    exact ⟨Except.ok.inj hresult, (Except.ok.inj hresult').symm, hstate⟩
  · have ha : a.Apart t i := Task.apart_of_not_setsName hs hna
    have hb : b.Apart t j := Task.apart_of_not_setsName hs hnb
    exact ha.comm hb (Task.apart_of_not_setsName (ha.sound hs) hnb)
      (Task.apart_of_not_setsName (hb.sound hs) hna) hs hij

/-- An account gets a new name. -/
def newNameForBob : Service.Task :=
  .change { username := some "robert" }

/-- An account is to lose its hash. -/
def noHashForBob : Service.Task :=
  .change { passwordHash := some "" }

/-- A renaming and a deletion of another account go through in both orders, and an update that takes
a hash away is refused in both. -/
theorem orders_of_sampleRun :
    let removal := Service.Task.remove.run noon 3
    let change := newNameForBob.run noon 2
    let refusal := noHashForBob.run noon 2
    let db := Session.run {} sampleRun
    (removal (change db).state).state = (change (removal db).state).state ∧
    (refusal db).result = .error (.validation "Password hash must not be empty") ∧
    (refusal (removal db).state).result =
      .error (.validation "Password hash must not be empty") := by
  have hij : (2 : Int) ≠ 3 := by decide
  obtain ⟨hok, -⟩ := operations_commute ⟨sampleRun, rfl⟩ hij newNameForBob .remove noon
  obtain ⟨-, hblind⟩ := operations_commute ⟨sampleRun, rfl⟩ hij noHashForBob .remove noon
  obtain ⟨-, -, hstate⟩ := hok (some ⟨some 2, "robert", none, "second", noon⟩) none
    (some ⟨some 2, "robert", none, "second", noon⟩) none (by decide +kernel) (by decide +kernel)
    (by decide +kernel) (by decide +kernel)
  obtain ⟨hresult, -⟩ := hblind rfl rfl
  have hrefused : (noHashForBob.run noon 2 (Session.run {} sampleRun)).result =
      .error (.validation "Password hash must not be empty") := by decide +kernel
  exact ⟨hstate, hrefused, hresult ▸ hrefused⟩

/-- Where a deletion frees the name that an update sets, the order does matter. -/
example :
    let removal := Service.Task.remove.run noon 3
    let change := (Service.Task.change { username := some "alice" }).run noon 2
    (change (Session.run {} sampleRun)).result = .error Table.clash ∧
    (change (removal (Session.run {} sampleRun)).state).result =
      .ok (some ⟨some 2, "alice", none, "second", noon⟩) := by
  decide +kernel

end Accounts
