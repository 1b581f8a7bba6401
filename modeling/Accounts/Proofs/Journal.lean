import Accounts.Proofs.Numbering

/-!
# Accounts.Proofs.Journal — the journal tells what happens to the accounts

Among the events of a run, those that tell of a change (`Event.isChange`) tell of exactly the
changes that were made.  `Noted` says so of one step: what it does to the rows, what it writes in
the history and what it notes belong together (`Step.noted`), so its events tell what is stored
before and after it (`Noted.tells`).  Replaying the journal of a run therefore gives the identifiers
of the rows that the run leaves (`journal_faithful`).
-/

namespace Accounts

open Calendar

/-! ### Events and their replay -/

namespace Event

/-- The event tells of a change of an account. -/
def isChange : Event → Bool
  | .userRegistered _ _ | .userUpdated _ | .userDeleted _ => true
  | .databaseConnected | .schemaEnsured | .tableReady | .deletionDone _ | .databaseFailed
  | .internalFailed _ => false

/-- The identifiers of the accounts that there are once an event is noted. -/
def replay (ids : List Int) : Event → List Int
  | .userRegistered (some id) _ => ids ++ [id]
  | .userDeleted id => ids.filter (· ≠ id)
  | _ => ids

/-- The identifier of the account that the event says is new. -/
def registeredId? : Event → Option Int
  | .userRegistered id _ => id
  | _ => none

theorem replay_of_not_isChange {e : Event} (h : e.isChange = false) (ids : List Int) :
    replay ids e = ids := by
  cases e <;> first | rfl | cases h

theorem registeredId?_of_not_isChange {e : Event} (h : e.isChange = false) :
    e.registeredId? = none := by
  cases e <;> first | rfl | cases h

/-- A replay depends on the changes only. -/
theorem foldl_replay_filter (es : List Event) (ids : List Int) :
    (es.filter isChange).foldl replay ids = es.foldl replay ids := by
  induction es generalizing ids with
  | nil => rfl
  | cons e es ih =>
    cases he : e.isChange with
    | true => rw [List.filter_cons_of_pos he, List.foldl_cons, List.foldl_cons, ih]
    | false =>
      rw [List.filter_cons_of_neg (by simp [he]), List.foldl_cons, replay_of_not_isChange he, ih]

theorem filterMap_registeredId?_filter (es : List Event) :
    (es.filter isChange).filterMap registeredId? = es.filterMap registeredId? := by
  rw [List.filterMap_filter]
  congr 1
  funext e
  cases he : e.isChange with
  | true => rfl
  | false => simp [registeredId?_of_not_isChange he]

end Event

theorem Failure.events_filter (f : Failure) : f.events.filter Event.isChange = [] := by
  cases f <;> rfl

theorem Step.Effect.journal_filter (e : Step.Effect) :
    e.journal.filter Event.isChange = e.events.filter Event.isChange := by
  unfold Step.Effect.journal
  rcases e.result with f | answer
  · rw [List.filter_append, f.events_filter, List.append_nil]
  · rfl

/-! ### What a step notes -/

/-- What a step does to the rows, what it writes in the history and what it notes of it: nothing of
all this, or one thing. -/
inductive Noted : Database → List Write → List Event → Database → Prop
  | nothing {db db' : Database} (rows : db'.rows = db.rows) (last : db'.lastId = db.lastId) :
    Noted db [] [] db'
  | registered {t : Table} {u : User} (h : Database.Addable t u) :
    Noted ⟨some t⟩ [.inserted (t.lastId + 1) { u with id := some (t.lastId + 1 : Int) }]
      [.userRegistered (some (t.lastId + 1 : Int)) u.username] ⟨some (t.append u)⟩
  | updated {t : Table} {u : User} {id : Int} {row : Row} (here : t.byId id = some row) :
    Noted ⟨some t⟩ [.updated id u] [.userUpdated id] ⟨some (t.replace (Row.ofUser id u))⟩
  | deleted {t : Table} {id : Int} {row : Row} (here : t.byId id = some row) :
    Noted ⟨some t⟩ [.deleted id] [.userDeleted id] ⟨some (t.erase id)⟩

/-- What the events of a step tell of the users that are stored before and after it: nothing is
changed, or the user of one identifier and no other. -/
def Event.Tells (stored stored' : Int → Option User) : List Event → Prop
  | [] => stored' = stored
  | [.userRegistered (some id) name] => stored id = none ∧
    ∃ u : User, u.id = some id ∧ u.username = name ∧
      ∀ other, stored' other = if other = id then some u else stored other
  | [.userUpdated id] => (stored id).isSome = true ∧
    ∃ u : User, u.id = some id ∧
      ∀ other, stored' other = if other = id then some u else stored other
  | [.userDeleted id] => (stored id).isSome = true ∧
    ∀ other, stored' other = if other = id then none else stored other
  | _ => False

theorem Noted.tells {db db' : Database} {ws : List Write} {es : List Event}
    (h : Noted db ws es db') (hs : db.Sound) : Event.Tells db.stored db'.stored es := by
  cases h with
  | nothing rows => exact Database.stored_congr rows
  | @registered t u hadd =>
    have hnew : t.byId (t.lastId + 1) = none := (hs t rfl).byId_eq_none_of_lt (by omega)
    refine ⟨?_, { u with id := some (t.lastId + 1 : Int) }, rfl, rfl,
      Database.stored_append (hs t rfl) u⟩
    rw [Database.stored, Option.bind_some, hnew, Option.map_none]
  | @updated t u id row here =>
    refine ⟨?_, { u with id := some id }, rfl, Database.stored_replace here u⟩
    rw [Database.stored, Option.bind_some, here, Option.map_some, Option.isSome_some]
  | @deleted t id row here =>
    refine ⟨?_, Database.stored_erase t id⟩
    rw [Database.stored, Option.bind_some, here, Option.map_some, Option.isSome_some]

/-- The table is there, and its rows do not vanish. -/
def Database.Steady (db : Database) : Prop :=
  ∃ t, db.table = some t ∧ t.faults.rowsVanish = false

namespace Service.Operation

variable {now : Timestamp} {op : Service.Operation} {db : Database}
  {o : Outcome Database (Option User)} {ws : List Write}

theorem Deed.events_filter (h : op.Deed now db o ws) :
    o.events.filter Event.isChange = o.events := by
  cases h <;> rfl

/-- As long as rows do not vanish, what an operation notes is what it does. -/
theorem Deed.noted (h : op.Deed now db o ws) (hs : db.Steady) :
    Noted db ws o.events o.state ∧ o.state.Steady := by
  cases h with
  | refused | found | kept => exact ⟨.nothing rfl rfl, hs⟩
  | registered _ hadd =>
    obtain ⟨t, ht, hcalm⟩ := hs
    cases ht
    exact ⟨.registered hadd, _, rfl, hcalm⟩
  | changed _ _ hreach hstays => exact ⟨.updated hreach.here, _, rfl, hstays⟩
  | lost _ _ vanishes =>
    obtain ⟨t, ht, hcalm⟩ := hs
    cases ht
    rw [vanishes] at hcalm
    cases hcalm
  | removed here =>
    obtain ⟨t, ht, hcalm⟩ := hs
    cases ht
    exact ⟨.deleted here, _, rfl, hcalm⟩

/-- An operation that fails notes nothing. -/
theorem Deed.events_of_error (h : op.Deed now db o ws) {f : Failure} (hf : o.result = .error f) :
    o.events = [] := by
  cases h with
  | refused | found | kept | lost => rfl
  | registered | changed | removed => cases hf

/-- An update that changes nothing notes nothing. -/
theorem Deed.events_of_isEmpty {id : Int} {changes : Changes}
    (h : (change id changes).Deed now db o ws) (hempty : changes.isEmpty = true) :
    o.events = [] := by
  cases h with
  | refused | kept => rfl
  | changed _ nonempty | lost _ nonempty => exact absurd hempty (Bool.eq_false_iff.1 nonempty)

end Service.Operation

/-! ### Steps of a managed run -/

namespace Step

/-- The step is one that leaves the writing to the operations on accounts, and takes neither the
table nor single rows away. -/
def isManaged : Step → Bool
  | .request (.add _) | .request (.save _) | .request (.remove _) | .dropTable
  | .raise .rowsVanish => false
  | _ => true

variable {now : Timestamp} {db : Database} {step : Step}

/-- Of the changes, the journal of a step tells what its operation noted. -/
theorem changes_of_operation? {op : Service.Operation} (h : step.operation? = some op) :
    (step.perform now db).journal.filter Event.isChange =
      ((op.plan now).run Database.store db).events := by
  have hevents := (op.deed now db).events_filter
  rw [Effect.journal_filter]
  cases step with
  | operation op' =>
    cases h
    exact hevents
  | action a capacity =>
    obtain ⟨-, -, ⟨coda, hcoda, hdone⟩, -⟩ := Action.plan_of_operation? h now db
    have hnone : coda.filter Event.isChange = [] := by
      rw [List.filter_eq_nil_iff]
      intro e he
      obtain ⟨id, rfl⟩ := hdone e he
      simp [Event.isChange]
    simp only [perform, Action.perform, Action.report_events]
    rw [hcoda, List.filter_append, hevents, hnone, List.append_nil]
  | request | ensureTable | ping | columns | dropTable | raise | clearFaults => cases h

/-- A managed step without an operation tells of no change. -/
theorem changes_of_no_operation (hm : step.isManaged = true) (h : step.operation? = none) :
    (step.perform now db).journal.filter Event.isChange = [] := by
  rw [Effect.journal_filter]
  cases step with
  | request | ping | columns | dropTable | raise | clearFaults => rfl
  | ensureTable => rfl
  | operation op => cases h
  | action a capacity =>
    cases a with
    | setUp => rfl
    | register | view | change | remove => cases h

/-- A managed step without an operation makes no change. -/
theorem noted_of_no_operation (hm : step.isManaged = true) (h : step.operation? = none)
    (hs : db.Steady) :
    Noted db (step.history now db) [] (step.perform now db).database ∧
      (step.perform now db).database.Steady := by
  obtain ⟨table⟩ := db
  obtain ⟨t, rfl, hcalm⟩ := hs
  have hsame : Noted ⟨some t⟩ [] [] ⟨some t⟩ ∧ (⟨some t⟩ : Database).Steady :=
    ⟨.nothing rfl rfl, t, rfl, hcalm⟩
  cases step with
  | request r =>
    cases r with
    | byId | byName | createTable => exact hsame
    | add | save | remove => cases hm
  | operation op => cases h
  | action a capacity =>
    cases a with
    | setUp => exact hsame
    | register | view | change | remove => cases h
  | ensureTable | ping | columns => exact hsame
  | dropTable => cases hm
  | raise fault =>
    cases fault with
    | rowsVanish => cases hm
    | rivalsAppear | insertsFail | updatesFail => exact ⟨.nothing rfl rfl, _, rfl, hcalm⟩
  | clearFaults => exact ⟨.nothing rfl rfl, _, rfl, rfl⟩

/-- What a managed step notes of changes is what it does. -/
theorem noted (now : Timestamp) (hm : step.isManaged = true) (hs : db.Steady) :
    Noted db (step.history now db) ((step.perform now db).journal.filter Event.isChange)
        (step.perform now db).database ∧ (step.perform now db).database.Steady := by
  cases h : step.operation? with
  | none =>
    rw [changes_of_no_operation hm h]
    exact noted_of_no_operation hm h hs
  | some op =>
    rw [changes_of_operation? h, history_of_operation? h, database_of_operation? h]
    exact (op.deed now db).noted hs

/-- A step that does not succeed tells of no change. -/
theorem changes_of_not_succeeds (hm : step.isManaged = true) (h : ¬ step.Succeeds now db) :
    (step.perform now db).journal.filter Event.isChange = [] := by
  cases hop : step.operation? with
  | none => exact changes_of_no_operation hm hop
  | some op =>
    rw [changes_of_operation? hop]
    rw [succeeds_iff hop] at h
    cases hr : ((op.plan now).run Database.store db).result with
    | ok user => exact absurd ⟨user, hr⟩ h
    | error f => exact (op.deed now db).events_of_error hr

/-- An update that changes nothing tells of no change. -/
theorem changes_of_isEmpty {id : Int} {changes : Changes}
    (hop : step.operation? = some (.change id changes)) (h : changes.isEmpty = true) :
    (step.perform now db).journal.filter Event.isChange = [] := by
  rw [changes_of_operation? hop]
  exact ((Service.Operation.change id changes).deed now db).events_of_isEmpty h

end Step

/-! ### What is noted, replayed -/

namespace Noted

variable {db db' : Database} {ws : List Write} {es : List Event}

/-- Replaying what was noted turns the identifiers before into those after. -/
theorem ids_eq (h : Noted db ws es db') : es.foldl Event.replay db.ids = db'.ids := by
  cases h with
  | nothing rows last => rw [Database.ids, Database.ids, rows, List.foldl_nil]
  | registered _ => simp [Event.replay, Database.ids, Database.rows, Table.append, Row.ofUser]
  | updated here => exact (ids_replace _ _).symm
  | deleted here =>
    simp only [List.foldl_cons, List.foldl_nil, Event.replay, Database.ids, Database.rows,
      Table.erase, List.filter_map]
    rfl

/-- An account that is registered takes the next identifier, and nothing else takes one. -/
theorem registered_cases (h : Noted db ws es db') :
    es.filterMap Event.registeredId? = [] ∧ db'.lastId = db.lastId ∨
      es.filterMap Event.registeredId? = [db.lastId + 1] ∧ db'.lastId = db.lastId + 1 := by
  cases h with
  | nothing rows last => exact .inl ⟨rfl, last⟩
  | registered _ => exact .inr ⟨rfl, by simp [Database.lastId, Table.append]⟩
  | updated here => exact .inl ⟨rfl, rfl⟩
  | deleted here => exact .inl ⟨rfl, rfl⟩

/-- An account that is deleted was there, and the deletion is all that was noted. -/
theorem of_deleted (h : Noted db ws es db') {id : Int} (hid : .userDeleted id ∈ es) :
    es = [.userDeleted id] ∧ id ∈ db.ids := by
  cases h with
  | nothing | registered | updated => simp at hid
  | deleted here =>
    simp only [List.mem_singleton, Event.userDeleted.injEq] at hid
    subst hid
    refine ⟨rfl, List.mem_map.2 ⟨_, Table.mem_of_byId here, Table.id_of_byId here⟩⟩

end Noted

/-! ### The journal of a managed run -/

/-- All that a run notes, failures included. -/
def Session.journal (db : Database) (steps : List (Timestamp × Step)) : List Event :=
  (Session.effects db steps).flatMap Step.Effect.journal

theorem Session.journal_cons (db : Database) (s : Timestamp × Step)
    (rest : List (Timestamp × Step)) :
    Session.journal db (s :: rest) =
      (s.2.perform s.1 db).journal ++ Session.journal (s.2.perform s.1 db).database rest := rfl

variable {steps : List (Timestamp × Step)} {db : Database}

theorem Step.foldl_replay_journal {now : Timestamp} {step : Step} (hm : step.isManaged = true)
    (hs : db.Steady) :
    (step.perform now db).journal.foldl Event.replay db.ids =
      (step.perform now db).database.ids := by
  rw [← Event.foldl_replay_filter]
  exact (step.noted now hm hs).1.ids_eq

theorem steady_run (hm : ∀ s ∈ steps, s.2.isManaged = true) (hs : db.Steady) :
    (Session.run db steps).Steady := by
  induction steps generalizing db with
  | nil => exact hs
  | cons s rest ih =>
    obtain ⟨hs1, hrest⟩ := List.forall_mem_cons.1 hm
    exact ih hrest (s.2.noted s.1 hs1 hs).2

/-- Replaying the journal of a run turns the identifiers before it into those after it. -/
theorem replay_run (hm : ∀ s ∈ steps, s.2.isManaged = true) (hs : db.Steady) :
    (Session.journal db steps).foldl Event.replay db.ids = (Session.run db steps).ids := by
  induction steps generalizing db with
  | nil => rfl
  | cons s rest ih =>
    obtain ⟨hs1, hrest⟩ := List.forall_mem_cons.1 hm
    rw [Session.journal_cons, List.foldl_append, Step.foldl_replay_journal hs1 hs]
    exact ih hrest (s.2.noted s.1 hs1 hs).2

/-- The identifiers that a run registers ascend, from beyond the counter it starts with. -/
theorem registered_ascend (hm : ∀ s ∈ steps, s.2.isManaged = true) (hs : db.Steady) :
    (db.lastId :: (Session.journal db steps).filterMap Event.registeredId?).Pairwise (· < ·) := by
  induction steps generalizing db with
  | nil => exact List.pairwise_singleton _ _
  | cons s rest ih =>
    obtain ⟨hs1, hrest⟩ := List.forall_mem_cons.1 hm
    obtain ⟨hnoted, hsteady⟩ := s.2.noted s.1 hs1 hs
    have hlater := ih hrest hsteady
    rw [Session.journal_cons, List.filterMap_append, ← Event.filterMap_registeredId?_filter]
    rcases hnoted.registered_cases with ⟨hnone, hlast⟩ | ⟨hone, hlast⟩
    · rwa [hnone, List.nil_append, ← hlast]
    · -- the new identifier is beyond the counter, and all later ones are beyond it
      rw [hone, ← hlast, List.singleton_append, List.pairwise_cons]
      refine ⟨?_, hlater⟩
      have hnext : db.lastId < (s.2.perform s.1 db).database.lastId := by omega
      rintro id (- | ⟨-, hid⟩)
      · exact hnext
      · exact Int.lt_trans hnext (List.rel_of_pairwise_cons hlater hid)

/-- What a run deletes is there when it is deleted. -/
theorem live_of_deleted (hm : ∀ s ∈ steps, s.2.isManaged = true) (hs : db.Steady)
    {before after : List Event} {id : Int}
    (h : Session.journal db steps = before ++ .userDeleted id :: after) :
    id ∈ before.foldl Event.replay db.ids := by
  induction steps generalizing db before with
  | nil => simp [Session.journal, Session.effects] at h
  | cons s rest ih =>
    obtain ⟨hs1, hrest⟩ := List.forall_mem_cons.1 hm
    obtain ⟨hnoted, hsteady⟩ := s.2.noted s.1 hs1 hs
    rw [Session.journal_cons] at h
    -- a later step notes the deletion, or the first one does
    have hsplit : (∃ later, before = (s.2.perform s.1 db).journal ++ later ∧
        Session.journal (s.2.perform s.1 db).database rest = later ++ .userDeleted id :: after) ∨
        ∃ own, (s.2.perform s.1 db).journal = before ++ .userDeleted id :: own := by
      rcases List.append_eq_append_iff.1 h with hlater | ⟨own, hown, hafter⟩
      · exact .inl hlater
      · rcases List.cons_eq_append_iff.1 hafter with ⟨rfl, hrest⟩ | ⟨own', rfl, -⟩
        · exact .inl ⟨[], by simpa using hown.symm, hrest⟩
        · exact .inr ⟨own', hown⟩
    rcases hsplit with ⟨later, rfl, hlater⟩ | ⟨own, hown⟩
    · rw [List.foldl_append, Step.foldl_replay_journal hs1 hs]
      exact ih hrest hsteady hlater
    · have hchanges : (s.2.perform s.1 db).journal.filter Event.isChange =
          before.filter Event.isChange ++ .userDeleted id :: own.filter Event.isChange := by
        rw [hown, List.filter_append, List.filter_cons_of_pos rfl]
      have hmem : .userDeleted id ∈ (s.2.perform s.1 db).journal.filter Event.isChange := by
        rw [hchanges]
        exact List.mem_append_right _ List.mem_cons_self
      obtain ⟨honly, hlive⟩ := hnoted.of_deleted hmem
      -- the deletion is the only change that the step notes, so none is noted before it
      have hfirst : before.filter Event.isChange = [] := by
        rw [honly] at hchanges
        rcases List.append_eq_cons_iff.1 hchanges.symm with ⟨hnil, -⟩ | ⟨_, -, hafter⟩
        · exact hnil
        · simp at hafter
      rwa [← Event.foldl_replay_filter, hfirst]

/-- **The journal is faithful.**  In a run of operations on a fresh table from which no row
vanishes, replaying the journal gives the identifiers of the rows, no identifier is registered
twice, and only accounts that are there are deleted.  Every step notes the change that it makes,
and no other, whether its output was full or not, so that its events tell what is stored before and
after it; a step that does not succeed, and an update without changes, note none. -/
theorem journal_faithful (hm : ∀ s ∈ steps, s.2.isManaged = true) :
    (∃ t, (Session.run ({} : Database).createTable steps).table = some t ∧
      (Session.journal ({} : Database).createTable steps).foldl Event.replay [] =
        t.rows.map Row.id) ∧
    ((Session.journal ({} : Database).createTable steps).filterMap Event.registeredId?).Nodup ∧
    (∀ before id after,
      Session.journal ({} : Database).createTable steps = before ++ .userDeleted id :: after →
      id ∈ before.foldl Event.replay []) ∧
    ∀ before now step after, steps = before ++ (now, step) :: after →
      let db := Session.run ({} : Database).createTable before
      let changes := (step.perform now db).journal.filter Event.isChange
      Noted db (step.history now db) changes (step.perform now db).database ∧
      Event.Tells db.stored (step.perform now db).database.stored changes ∧
      (¬ step.Succeeds now db → changes = []) ∧
      ∀ id c, step.operation? = some (.change id c) → c.isEmpty = true → changes = [] := by
  have hsteady : ({} : Database).createTable.Steady := ⟨{}, rfl, rfl⟩
  have hids : ({} : Database).createTable.ids = [] := rfl
  refine ⟨?_, ?_, ?_, ?_⟩
  · obtain ⟨t, ht, -⟩ := steady_run hm hsteady
    refine ⟨t, ht, ?_⟩
    rw [← hids, replay_run hm hsteady, Database.ids, Database.rows, ht]
  · have hascend := (List.pairwise_cons.1 (registered_ascend hm hsteady)).2
    exact hascend.imp Int.ne_of_lt
  · intro before id after h
    rw [← hids]
    exact live_of_deleted hm hsteady h
  · rintro before now step after rfl
    have hbefore : ∀ s ∈ before, s.2.isManaged = true :=
      fun s hs => hm s (List.mem_append_left _ hs)
    have hstep : step.isManaged = true := hm (now, step) (by simp)
    have hnoted := (step.noted now hstep (steady_run hbefore hsteady)).1
    have hempty : ({} : Database).createTable.Sound := by
      rintro t ⟨⟩
      exact Table.sound_empty {}
    have hsound : (Session.run ({} : Database).createTable before).Sound :=
      (run_moves _ before).sound hempty
    refine ⟨hnoted, hnoted.tells hsound, Step.changes_of_not_succeeds hstep, ?_⟩
    intro id c hop hempty
    exact Step.changes_of_isEmpty hop hempty

/-- A run on a fresh table: an output is full, statements fail, an update changes nothing, and an
account is deleted. -/
def managedRun : List (Timestamp × Step) :=
  [.operation (.register "alice" "first" none),
    .action (.register "bob" "second" none) (some 3),
    .operation (.register "bob" "third" none),
    .raise .insertsFail,
    .action (.register "carol" "fourth" none) none,
    .raise .updatesFail,
    .operation (.change 1 { username := some "dave" }),
    .clearFaults,
    .action (.change 2 { passwordHash := some "fifth" }) (some 0),
    .operation (.change 1 {}),
    .action (.remove 1) none,
    .operation (.remove 1)].map fun step => (noon, step)

theorem journal_of_managedRun :
    (∀ s ∈ managedRun, s.2.isManaged = true) ∧
    (Session.journal ({} : Database).createTable managedRun).filter Event.isChange =
      [.userRegistered (some 1) "alice", .userRegistered (some 2) "bob", .userUpdated 2,
        .userDeleted 1] ∧
    (∃ t, (Session.run ({} : Database).createTable managedRun).table = some t ∧
      [2] = t.rows.map Row.id) ∧
    ((Session.journal ({} : Database).createTable managedRun).filterMap
      Event.registeredId?).Nodup := by
  have hm : ∀ s ∈ managedRun, s.2.isManaged = true := by decide
  have hchanges : (Session.journal ({} : Database).createTable managedRun).filter Event.isChange =
      [.userRegistered (some 1) "alice", .userRegistered (some 2) "bob", .userUpdated 2,
        .userDeleted 1] := by decide +kernel
  obtain ⟨⟨t, ht, hreplay⟩, hnodup, -⟩ := journal_faithful hm
  refine ⟨hm, hchanges, ⟨t, ht, ?_⟩, hnodup⟩
  rw [← hreplay, ← Event.foldl_replay_filter, hchanges]
  rfl

end Accounts
