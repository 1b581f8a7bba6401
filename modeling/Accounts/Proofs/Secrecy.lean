import Accounts.Proofs.Operations

/-!
# Accounts.Proofs.Secrecy — password hashes stay hidden

Masking a hash leaves nothing of it but whether it is empty.  Every step commutes with masking: what
a masked step does to a masked database is the masked effect (`Step.perform_masked`).  It is enough
to see this for a single request (`Database.store_masked`), since the plans of the operations go on
from masked replies in the same way (`Plan.Alike`).  What an administrator is shown has no hash in
it, so two sessions that differ in the texts of hashes only look the same (`hashes_stay_hidden`).
-/

namespace Accounts

open Calendar

/-! ### Masking -/

/-- All that is left of a hash: whether there is one. -/
def maskHash (hash : String) : String :=
  if hash = "" then "" else "*"

/-- Masked hashes are the same if both are empty or none is. -/
theorem maskHash_eq_iff {hash hash' : String} :
    maskHash hash = maskHash hash' ↔ (hash = "" ↔ hash' = "") := by
  unfold maskHash
  by_cases h : hash = "" <;> by_cases h' : hash' = "" <;> simp [h, h']

theorem maskHash_eq_empty_iff {hash : String} : maskHash hash = "" ↔ hash = "" := by
  have hempty : maskHash "" = "" := rfl
  rw [← hempty, maskHash_eq_iff, hempty, iff_true_right rfl]

def User.masked (u : User) : User :=
  { u with passwordHash := maskHash u.passwordHash }

def Changes.masked (c : Changes) : Changes :=
  { c with passwordHash := c.passwordHash.map maskHash }

def Row.masked (r : Row) : Row :=
  { r with passwordHash := maskHash r.passwordHash }

def Table.masked (t : Table) : Table :=
  { t with rows := t.rows.map Row.masked }

def Database.masked (db : Database) : Database :=
  ⟨db.table.map Table.masked⟩

def Request.masked : Request → Request
  | .add u => .add u.masked
  | .save u => .save u.masked
  | r => r

/-- The reply to a masked request, if `reply` is the reply to the request itself. -/
def Request.maskReply : (r : Request) → r.Reply → r.masked.Reply
  | .add _, u | .save _, u => User.masked u
  | .byId _, u | .byName _, u => Option.map User.masked u
  | .remove _, _ | .createTable, _ => ()

def Service.Operation.masked : Service.Operation → Service.Operation
  | .register username passwordHash birthDate =>
    .register username (maskHash passwordHash) birthDate
  | .change id changes => .change id changes.masked
  | op => op

def Action.masked : Action → Action
  | .register username passwordHash birthDate =>
    .register username (maskHash passwordHash) birthDate
  | .change id changes => .change id changes.masked
  | a => a

namespace Step

def masked : Step → Step
  | .request r => .request r.masked
  | .operation op => .operation op.masked
  | .action a capacity => .action a.masked capacity
  | step => step

def Answer.masked : Answer → Answer
  | .user u => .user u.masked
  | .lookup u => .lookup (u.map User.masked)
  | answer => answer

def Effect.masked (e : Effect) : Effect :=
  { e with result := e.result.map Answer.masked, database := e.database.masked }

end Step

/-- The steps with all hashes masked, at the same moments. -/
def Session.masked (steps : List (Timestamp × Step)) : List (Timestamp × Step) :=
  steps.map fun s => (s.1, s.2.masked)

/-! ### Users and rows -/

namespace User

theorem masked_change (u : User) (c : Changes) :
    (u.change c).masked = u.masked.change c.masked := by
  obtain ⟨name, date, _ | hash⟩ := c <;> rfl

theorem checkStorable_masked (u : User) : u.masked.checkStorable = u.checkStorable := by
  simp only [checkStorable, masked, maskHash_eq_empty_iff]

/-- No hash is printed. -/
theorem printed_masked (u : User) : Action.printed u.masked = Action.printed u := rfl

end User

theorem Changes.isEmpty_masked (c : Changes) : c.masked.isEmpty = c.isEmpty := by
  simp [isEmpty, masked]

theorem Row.toUser_masked (r : Row) : r.masked.toUser = r.toUser.masked := rfl

theorem Row.ofUser_masked (id : Int) (u : User) : ofUser id u.masked = (ofUser id u).masked := rfl

/-! ### Statements -/

namespace Table

variable (t : Table)

theorem byId_masked (id : Int) : t.masked.byId id = (t.byId id).map Row.masked := by
  rw [byId, masked, List.find?_map]
  rfl

theorem byName_masked (name : String) : t.masked.byName name = (t.byName name).map Row.masked := by
  rw [byName, masked, List.find?_map]
  rfl

theorem isTaken_masked (id : Int) (name : String) :
    t.masked.isTaken id name = t.isTaken id name := by
  rw [isTaken, masked, List.any_map]
  rfl

theorem erase_masked (id : Int) : t.masked.erase id = (t.erase id).masked := by
  simp only [erase, masked, List.filter_map]
  rfl

theorem replace_masked (row : Row) : t.masked.replace row.masked = (t.replace row).masked := by
  simp only [replace, masked, List.map_map]
  congr 2
  funext r
  simp only [Function.comp_apply, apply_ite Row.masked]
  rfl

theorem append_masked (u : User) : t.masked.append u.masked = (t.append u).masked := by
  simp only [append, masked, List.map_append]
  rfl

theorem insert_masked (u : User) :
    t.masked.insert u.masked = ((t.insert u).1.map Row.masked, (t.insert u).2.masked) := by
  have hfaults : t.masked.faults = t.faults := rfl
  have hname : (t.masked.byName u.masked.username).isSome = (t.byName u.username).isSome := by
    rw [byName_masked, Option.isSome_map]
    rfl
  rw [insert, insert, hfaults, hname]
  split
  · rfl
  · split
    · rfl
    · rw [append_masked]
      rfl

theorem save_masked (row : Row) :
    t.masked.save row.masked = ((t.save row).1.map Row.masked, (t.save row).2.masked) := by
  have hfaults : t.masked.faults = t.faults := rfl
  have hkey : row.masked.id = row.id ∧ row.masked.username = row.username := ⟨rfl, rfl⟩
  rw [save, save, hfaults, hkey.1, hkey.2, isTaken_masked, erase_masked, replace_masked]
  split
  · rfl
  · split
    · rfl
    · split <;> rfl

theorem remove_masked (id : Int) :
    t.masked.remove id = ((t.remove id).1, (t.remove id).2.masked) := by
  rw [remove, remove, byId_masked, erase_masked]
  cases t.byId id <;> rfl

end Table

/-! ### Requests -/

namespace Database

variable (db : Database)

theorem checkNew_masked (u : User) : checkNew u.masked = checkNew u := by
  rw [checkNew, checkNew, User.checkStorable_masked]
  rfl

theorem checkStored_masked (u : User) : checkStored u.masked = checkStored u := by
  rw [checkStored, checkStored, User.checkStorable_masked]
  rfl

/-- A statement that commutes with masking does so on a database. -/
theorem onTable_masked {α : Type} {statement statement' : Table → Except Failure α × Table}
    {mask : α → α}
    (h : ∀ t, statement' t.masked = ((statement t).1.map mask, (statement t).2.masked)) :
    db.masked.onTable statement' =
      ((db.onTable statement).1.map mask, (db.onTable statement).2.masked) := by
  obtain ⟨_ | t⟩ := db
  · rfl
  · have ht := h t
    simp only [masked, onTable, Option.map_some]
    rw [ht]

theorem byId_masked (id : Int) :
    db.masked.byId id = ((db.byId id).1.map (Option.map User.masked), (db.byId id).2.masked) := by
  refine db.onTable_masked fun t => ?_
  rw [Table.byId_masked]
  simp [Except.map, Function.comp_def, Row.toUser_masked]

theorem byName_masked (name : String) :
    db.masked.byName name =
      ((db.byName name).1.map (Option.map User.masked), (db.byName name).2.masked) := by
  refine db.onTable_masked fun t => ?_
  rw [Table.byName_masked]
  simp [Except.map, Function.comp_def, Row.toUser_masked]

theorem add_masked (u : User) :
    db.masked.add u.masked = ((db.add u).1.map User.masked, (db.add u).2.masked) := by
  rw [add, add, checkNew_masked]
  cases checkNew u with
  | error f => rfl
  | ok _ =>
    refine db.onTable_masked fun t => ?_
    rw [Table.insert_masked]
    rcases (t.insert u).1 with _ | _ <;> rfl

theorem save_masked (u : User) :
    db.masked.save u.masked = ((db.save u).1.map User.masked, (db.save u).2.masked) := by
  rw [save, save, checkStored_masked]
  cases checkStored u with
  | error f => rfl
  | ok id =>
    refine db.onTable_masked fun t => ?_
    rw [Table.byId_masked, Row.ofUser_masked, Table.save_masked]
    cases t.byId id with
    | none => rfl
    | some row => rcases (t.save (Row.ofUser id u)).1 with _ | _ <;> rfl

theorem remove_masked (id : Int) :
    db.masked.remove id = ((db.remove id).1, (db.remove id).2.masked) := by
  obtain ⟨_ | t⟩ := db
  · rfl
  · have ht := t.remove_masked id
    simp only [masked, remove, onTable, Option.map_some]
    rw [ht]

theorem createTable_masked : db.masked.createTable = db.createTable.masked := by
  obtain ⟨_ | t⟩ := db <;> rfl

theorem raise_masked (fault : Fault) :
    db.masked.raise fault = ((db.raise fault).1, (db.raise fault).2.masked) := by
  obtain ⟨_ | t⟩ := db <;> rfl

theorem clearFaults_masked : db.masked.clearFaults = db.clearFaults.masked := by
  obtain ⟨_ | t⟩ := db <;> rfl

theorem columns_masked : db.masked.columns = db.columns := by
  obtain ⟨_ | t⟩ := db <;> rfl

/-- A masked request to a masked database comes to the masked reply. -/
theorem store_masked (r : Request) :
    store r.masked db.masked = ((store r db).1.map r.maskReply, (store r db).2.masked) := by
  cases r with
  | add u => exact db.add_masked u
  | byId id => exact db.byId_masked id
  | byName name => exact db.byName_masked name
  | save u => exact db.save_masked u
  | remove id =>
    have hunit : ∀ e : Except Failure Unit, e.map (Request.maskReply (.remove id)) = e := by
      rintro (_ | _) <;> rfl
    have hremove := db.remove_masked id
    rw [← hunit (db.remove id).1] at hremove
    exact hremove
  | createTable =>
    rw [store, ← createTable_masked]
    rfl

end Database

/-! ### Plans -/

/-- The outcome of the same work on masked accounts. -/
def Outcome.masked (o : Outcome Database (Option User)) : Outcome Database (Option User) :=
  ⟨o.result.map (Option.map User.masked), o.events, o.state.masked⟩

namespace Plan

/-- The second plan does with masked accounts what the first does: it makes the masked requests and
goes on alike from the masked replies. -/
inductive Alike : Plan (Option User) → Plan (Option User) → Prop
  | done (u : Option User) : Alike (.done u) (.done (u.map User.masked))
  | fail (f : Failure) : Alike (.fail f) (.fail f)
  | note (e : Event) {rest rest' : Plan (Option User)} (h : Alike rest rest') :
    Alike (.note e rest) (.note e rest')
  | ask (r : Request) {next : r.Reply → Plan (Option User)}
      {next' : r.masked.Reply → Plan (Option User)}
      (h : ∀ reply, Alike (next reply) (next' (r.maskReply reply))) :
    Alike (.ask r next) (.ask r.masked next')

/-- Plans that are alike come to the same, but for the masks. -/
theorem Alike.run {p p' : Plan (Option User)} (h : p.Alike p') (db : Database) :
    p'.run Database.store db.masked = (p.run Database.store db).masked := by
  -- a request changes the database, but both databases stay the same up to masks
  induction h generalizing db with
  | done u => rfl
  | fail f => rfl
  | note e _ ih =>
    simp only [Plan.run, ih]
    rfl
  | ask r _ ih =>
    have hstore := db.store_masked r
    rcases hr : Database.store r db with ⟨f | reply, db'⟩
    · rw [hr] at hstore
      rw [run_ask_of_error hr, run_ask_of_error hstore]
      rfl
    · rw [hr] at hstore
      rw [run_ask_of_ok hr, run_ask_of_ok hstore]
      exact ih reply db'

end Plan

theorem Service.Operation.plan_masked (now : Timestamp) (op : Service.Operation) :
    (op.plan now).Alike (op.masked.plan now) := by
  cases op with
  | register username passwordHash birthDate =>
    simp only [masked, register_plan]
    refine .ask (.byName username) fun rival => ?_
    cases rival with
    | some _ => exact .fail _
    | none =>
      refine .ask (.add (.unsaved now username passwordHash birthDate)) fun user => ?_
      exact .note _ (.done _)
  | find id =>
    simp only [masked, find_plan]
    refine .ask (.byId id) fun user => ?_
    cases user with
    | none => exact .fail _
    | some user => exact .done _
  | change id changes =>
    simp only [masked, change_plan]
    refine .ask (.byId id) fun user => ?_
    cases user with
    | none => exact .fail _
    | some user =>
      simp only [Request.maskReply, Option.map_some, changes.isEmpty_masked]
      split
      · exact .done _
      · rw [← user.masked_change changes]
        refine .ask (.save (user.change changes)) fun user => ?_
        exact .note _ (.done _)
  | remove id =>
    simp only [masked, remove_plan]
    exact .ask (.remove id) fun _ => .note _ (.done _)

theorem Action.plan_masked (now : Timestamp) (a : Action) :
    (a.plan now).Alike (a.masked.plan now) := by
  cases a with
  | setUp => exact .ask .createTable fun _ => .note _ (.note _ (.done _))
  | register username passwordHash birthDate =>
    exact (Service.Operation.register username passwordHash birthDate).plan_masked now
  | view id => exact (Service.Operation.find id).plan_masked now
  | change id changes => exact (Service.Operation.change id changes).plan_masked now
  | remove id => exact .ask (.remove id) fun _ => .note _ (.note _ (.done _))

/-- What an action prints has no hash in it. -/
theorem Action.report_masked (capacity : Capacity) (o : Outcome Database (Option User)) :
    report capacity o.masked =
      { report capacity o with state := (report capacity o).state.masked } := by
  rcases o with ⟨f | _ | u, es, db⟩
  · rfl
  · rfl
  · simp only [report, Outcome.masked, Except.map, Option.map_some, print, u.printed_masked]
    rfl

/-! ### Steps -/

namespace Step

theorem Answer.ofReply_masked (r : Request) (reply : r.Reply) :
    ofReply r.masked (r.maskReply reply) = (ofReply r reply).masked := by
  cases r <;> rfl

/-- Every step commutes with masking. -/
theorem perform_masked (now : Timestamp) (db : Database) (step : Step) :
    step.masked.perform now db.masked = (step.perform now db).masked := by
  cases step with
  | request r =>
    have hstore := db.store_masked r
    simp only [masked, perform, Effect.masked, hstore]
    rcases (Database.store r db).1 with f | reply
    · rfl
    · simp only [Except.map, Answer.ofReply_masked]
  | operation op =>
    have hrun := (op.plan_masked now).run db
    simp only [masked, perform, Effect.masked, hrun]
    rcases (op.plan now).run Database.store db with ⟨_ | _ | u, es, db'⟩ <;> rfl
  | action a capacity =>
    have hrun := (a.plan_masked now).run db
    simp only [masked, perform, Action.perform, Effect.masked, hrun, Action.report_masked]
    rcases (Action.report capacity ((a.plan now).run Database.store db)).result with _ | _ <;> rfl
  | ensureTable =>
    obtain ⟨_ | t⟩ := db <;> rfl
  | ping => rfl
  | columns =>
    simp only [masked, perform, Effect.masked, db.columns_masked]
    rfl
  | dropTable => rfl
  | raise fault =>
    simp only [masked, perform, Effect.masked, db.raise_masked]
    rcases (db.raise fault).1 with _ | _ <;> rfl
  | clearFaults =>
    simp only [masked, perform, Effect.masked, db.clearFaults_masked]
    rfl

/-- The step is an administrator's, or done to the database from outside; none of these answers
with a user. -/
def isAdmin : Step → Bool
  | .request _ | .operation _ => false
  | _ => true

/-- What can be seen of an effect: the result, the journal and the output. -/
def Effect.shown (e : Effect) : Except Failure Answer × List Event × List UInt8 :=
  (e.result, e.journal, e.output)

theorem isAdmin_masked (step : Step) : step.masked.isAdmin = step.isAdmin := by
  cases step <;> rfl

/-- Masking leaves what can be seen of an administrator's step as it is. -/
theorem shown_masked {step : Step} (h : step.isAdmin = true) (now : Timestamp) (db : Database) :
    (step.perform now db).masked.shown = (step.perform now db).shown := by
  have hanswer : (step.perform now db).result.map Answer.masked = (step.perform now db).result := by
    cases step with
    | request r => cases h
    | operation op => cases h
    | action a capacity =>
      simp only [perform]
      rcases (a.perform Database.store now capacity db).result with _ | _ <;> rfl
    | ensureTable | ping | columns | dropTable | clearFaults => rfl
    | raise fault =>
      simp only [perform]
      rcases (db.raise fault).1 with _ | _ <;> rfl
  simp only [Effect.shown, Effect.journal, Effect.masked, hanswer]

end Step

/-! ### Sessions -/

theorem Session.effects_masked (db : Database) (steps : List (Timestamp × Step)) :
    Session.effects db.masked (Session.masked steps) =
      (Session.effects db steps).map Step.Effect.masked := by
  induction steps generalizing db with
  | nil => rfl
  | cons s rest ih =>
    have hstep := s.2.perform_masked s.1 db
    have hrest := ih (s.2.perform s.1 db).database
    simp only [masked, List.map_cons, effects, hstep]
    rw [← hrest]
    rfl

theorem Session.run_masked (db : Database) (steps : List (Timestamp × Step)) :
    Session.run db.masked (Session.masked steps) = (Session.run db steps).masked := by
  induction steps generalizing db with
  | nil => rfl
  | cons s rest ih =>
    have hstep := s.2.perform_masked s.1 db
    simp only [masked, List.map_cons, run_cons, hstep]
    exact ih _

/-- What can be seen of an administrator's session does not depend on the texts of the hashes. -/
theorem Session.shown_masked {steps : List (Timestamp × Step)}
    (h : ∀ s ∈ steps, s.2.isAdmin = true) (db : Database) :
    (Session.effects db.masked (Session.masked steps)).map Step.Effect.shown =
      (Session.effects db steps).map Step.Effect.shown := by
  rw [effects_masked, List.map_map]
  induction steps generalizing db with
  | nil => rfl
  | cons s rest ih =>
    obtain ⟨hstep, hrest⟩ := List.forall_mem_cons.1 h
    simp only [effects, List.map_cons, Function.comp_apply, Step.shown_masked hstep]
    rw [ih hrest]

theorem Session.isAdmin_masked {steps : List (Timestamp × Step)} :
    (∀ s ∈ Session.masked steps, s.2.isAdmin = true) ↔ ∀ s ∈ steps, s.2.isAdmin = true := by
  simp only [masked, List.forall_mem_map, Step.isAdmin_masked]

/-- **Password hashes stay hidden.**  If two sessions of an administrator, each on a database of its
own, differ in the texts of password hashes only, then each step has the same result, the same
journal and the same output in both, and the tables differ in the texts of the hashes only. -/
theorem hashes_stay_hidden {steps steps' : List (Timestamp × Step)}
    (hadmin : ∀ s ∈ steps, s.2.isAdmin = true)
    (hsame : Session.masked steps = Session.masked steps') :
    (Session.effects {} steps).map Step.Effect.shown =
      (Session.effects {} steps').map Step.Effect.shown ∧
    (Session.run {} steps).masked = (Session.run {} steps').masked := by
  have hempty : ({} : Database).masked = {} := rfl
  have hadmin' : ∀ s ∈ steps', s.2.isAdmin = true := by
    rwa [← Session.isAdmin_masked, ← hsame, Session.isAdmin_masked]
  refine ⟨?_, ?_⟩
  · rw [← Session.shown_masked hadmin, ← Session.shown_masked hadmin', hempty, hsame]
  · rw [← Session.run_masked, ← Session.run_masked, hempty, hsame]

/-- An administrator's session with two hashes to choose: outputs are full, statements fail, and one
account is to have no hash. -/
def adminRun (hash hash' : String) : List (Timestamp × Step) :=
  [.action .setUp none,
    .action (.register "alice" hash none) none,
    .action (.register "bob" hash' none) (some 3),
    .action (.register "carol" "" none) none,
    .raise .updatesFail,
    .action (.change 1 { passwordHash := some hash' }) none,
    .clearFaults,
    .action (.change 1 { username := some "dave", passwordHash := some hash' }) (some 0),
    .action (.view 1) none,
    .action (.remove 2) none].map fun step => (noon, step)

theorem hidden_in_adminRun :
    (∀ s ∈ adminRun "first" "second", s.2.isAdmin = true) ∧
    Session.masked (adminRun "first" "second") = Session.masked (adminRun "third" "fourth") ∧
    (Session.effects {} (adminRun "first" "second")).map Step.Effect.shown =
      (Session.effects {} (adminRun "third" "fourth")).map Step.Effect.shown ∧
    (Session.run {} (adminRun "first" "second")).masked =
      (Session.run {} (adminRun "third" "fourth")).masked ∧
    Session.run {} (adminRun "first" "second") ≠ Session.run {} (adminRun "third" "fourth") := by
  have hadmin : ∀ s ∈ adminRun "first" "second", s.2.isAdmin = true := by decide
  have hsame : Session.masked (adminRun "first" "second") =
      Session.masked (adminRun "third" "fourth") := by decide +kernel
  obtain ⟨hshown, hmasked⟩ := hashes_stay_hidden hadmin hsame
  exact ⟨hadmin, hsame, hshown, hmasked, by decide +kernel⟩

end Accounts
