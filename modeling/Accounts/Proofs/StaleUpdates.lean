import Accounts.Proofs.Decisions

/-!
# Accounts.Proofs.StaleUpdates — a change that is written after others had their turns

A change looks its account up and then writes every field of it, so what it writes may be out of
date by the time it does.  As long as the table is neither dropped nor struck by a fault
(`Clients.run_calm`), only the table at the moment of writing decides: the change finds its row
gone, or the name taken by another row, or writes what it read with its changes made
(`stale_update_settled`).  What others wrote to the row in between is overwritten.
-/

namespace Accounts

open Calendar

/-! ### Turns that leave the table in order -/

/-- The table is there, and nothing goes wrong with it. -/
def Database.Calm (db : Database) : Prop :=
  ∃ t, db.table = some t ∧ t.faults = {}

/-- The step works with the table as it is: it neither drops it nor lets anything go wrong. -/
def Step.isTraffic : Step → Bool
  | .dropTable | .raise _ => false
  | .request _ | .operation _ | .action _ _ | .ensureTable | .ping | .columns | .clearFaults => true

/-- The turn is not that of client `k`, and works with the table as it is. -/
def Turn.passes {n : Nat} (k : Fin n) : Turn n → Bool
  | .client j => j ≠ k
  | .step _ what => what.isTraffic

variable {db : Database}

theorem Database.Calm.store (h : db.Calm) (r : Request) : (Database.store r db).2.Calm := by
  obtain ⟨t, ht, hcalm⟩ := h
  obtain ⟨table⟩ := db
  subst ht
  have hsame : (⟨some t⟩ : Database).Calm := ⟨t, rfl, hcalm⟩
  cases r with
  | add u =>
    rcases Database.add_cases ⟨some t⟩ u with ⟨f, hf⟩ | ⟨t', ht, -, ha⟩
    · rwa [Database.store, hf]
    · cases ht
      rw [Database.store, ha]
      exact ⟨_, rfl, hcalm⟩
  | byId id => exact hsame
  | byName name => exact hsame
  | save u =>
    rcases Database.save_cases ⟨some t⟩ u with ⟨f, hf, -⟩ | ⟨t', id, row, ht, -, -, hl⟩ |
      ⟨t', id, row, ht, -, -, -, hs⟩
    · rwa [Database.store, hf]
    · cases ht
      rw [Database.store, hl]
      exact ⟨_, rfl, hcalm⟩
    · cases ht
      rw [Database.store, hs]
      exact ⟨_, rfl, hcalm⟩
  | remove id =>
    rcases Database.remove_cases ⟨some t⟩ id with ⟨f, hf⟩ | ⟨t', row, ht, -, hr⟩
    · rwa [Database.store, hf]
    · cases ht
      rw [Database.store, hr]
      exact ⟨_, rfl, hcalm⟩
  | createTable => exact hsame

theorem Database.Calm.turn {α : Type} (h : db.Calm) (p : Plan α) :
    (p.turn Database.store db).2.Calm := by
  cases p with
  | done a => exact h
  | fail f => exact h
  | note e rest => exact h
  | ask r next =>
    have hstore := h.store r
    simp only [Plan.turn]
    rcases hr : Database.store r db with ⟨f | reply, db'⟩ <;> rwa [hr] at hstore

theorem Database.Calm.run {α : Type} (h : db.Calm) (p : Plan α) :
    (p.run Database.store db).state.Calm := by
  induction p generalizing db with
  | done a => exact h
  | fail f => exact h
  | note e rest ih => exact ih h
  | ask r next ih =>
    have hstore := h.store r
    simp only [Plan.run]
    rcases hr : Database.store r db with ⟨f | reply, db'⟩ <;> rw [hr] at hstore
    · exact hstore
    · exact ih reply hstore

theorem Database.Calm.step (h : db.Calm) {step : Step} (hstep : step.isTraffic = true)
    (now : Timestamp) : (step.perform now db).database.Calm := by
  cases step with
  | request r => exact h.store r
  | operation op => exact h.run (op.plan now)
  | action a capacity =>
    have hrun := h.run (a.plan now)
    rwa [← Action.report_state capacity] at hrun
  | ensureTable => exact h.run Service.ensureTable
  | ping => exact h
  | columns => exact h
  | clearFaults =>
    obtain ⟨t, ht, -⟩ := h
    exact ⟨{ t with faults := {} }, by simp [Step.perform, Database.clearFaults, ht], rfl⟩
  | dropTable => cases hstep
  | raise fault => cases hstep

namespace Clients

variable {n : Nat} {α : Type} {s : Clients n α} {k : Fin n} {gap : List (Turn n)}

/-- Turns that pass client `k` by leave the table in order and the client where it is. -/
theorem turn_calm (h : s.database.Calm) {x : Turn n} (hx : x.passes k = true) :
    (s.turn x).database.Calm ∧ (s.turn x).plans k = s.plans k := by
  cases x with
  | client j =>
    have hj : k ≠ j := Ne.symm (of_decide_eq_true hx)
    exact ⟨h.turn (s.plans j), Function.update_of_ne hj _ _⟩
  | step now step => exact ⟨h.step hx now, rfl⟩

theorem run_calm (h : s.database.Calm) (hgap : ∀ x ∈ gap, x.passes k = true) :
    (s.run gap).database.Calm ∧ (s.run gap).plans k = s.plans k := by
  induction gap generalizing s with
  | nil => exact ⟨h, rfl⟩
  | cons x rest ih =>
    obtain ⟨hx, hrest⟩ := List.forall_mem_cons.1 hgap
    obtain ⟨hcalm, hplan⟩ := turn_calm h hx
    obtain ⟨hcalm', hplan'⟩ := ih hcalm hrest
    exact ⟨hcalm', hplan'.trans hplan⟩

end Clients

/-! ### The two requests of a change -/

/-- The look at the account leaves the writing, with the user that was seen. -/
theorem change_turn {t : Table} {id : Int} {row : Row} (here : t.byId id = some row)
    (changes : Changes) :
    (Service.change id changes).turn Database.store ⟨some t⟩ =
      (Service.changeOf id changes row.toUser, ⟨some t⟩) := by
  rw [Service.change_eq, Plan.turn, Service.Operation.store_byId, here]
  rfl

/-- What comes of writing a user to a calm table. -/
theorem save_of_calm {t : Table} (hcalm : t.faults = {}) {id : Int} {u : User}
    (hid : u.id = some id) (hash : u.passwordHash ≠ "") :
    (⟨some t⟩ : Database).save u =
      if t.byId id = none then (.error .notFound, ⟨some t⟩)
      else if (⟨some t⟩ : Database).HoldsBeside id u.username then
        (.error (.conflict "Username"), ⟨some t⟩)
      else (.ok u, ⟨some (t.replace (.ofUser id u))⟩) := by
  have apart : (⟨some t⟩ : Database).FaultsApart := by
    simp [Database.FaultsApart, Database.faults, hcalm]
  rw [Database.save_eq_verdict apart, Database.saveVerdict, hid]
  simp [hash, Database.mem_ids_iff, Database.faults, hcalm]

/-- **A change writes what it read.**  Client `k` looks its account up in a calm table, and then
others have any number of turns.  When the client goes on, the table is still there.  If the row is
gone by then, the change does not find it and does not bring it back; if another row has the name to
be written, the change is refused; in both cases nothing changes.  Otherwise the row is overwritten
by the user that was read, with the changes made, and every other row stays as it is. -/
theorem stale_update_settled {n : Nat} {s s' : Clients n User} {k : Fin n} {t : Table} {id : Int}
    {row : Row} {changes : Changes} {gap : List (Turn n)} (hdb : s.database.Reachable)
    (ht : s.database.table = some t) (hcalm : t.faults = {})
    (hplan : s.plans k = Service.change id changes) (here : t.byId id = some row)
    (nonempty : changes ≠ {}) (hash : changes.passwordHash ≠ some "")
    (hgap : ∀ x ∈ gap, x.passes k = true) (hrun : (s.turn (.client k)).run gap = s') :
    ∃ t' : Table, s'.database = ⟨some t'⟩ ∧
      (t'.byId id = none →
        (s'.plans k).run Database.store s'.database = ⟨.error .notFound, [], s'.database⟩) ∧
      (t'.byId id ≠ none →
        s'.database.HoldsBeside id (row.toUser.change changes).username →
        (s'.plans k).run Database.store s'.database =
          ⟨.error (.conflict "Username"), [], s'.database⟩) ∧
      (t'.byId id ≠ none →
        ¬ s'.database.HoldsBeside id (row.toUser.change changes).username →
        ∃ front old back, t'.rows = front ++ old :: back ∧ old.id = id ∧
          (s'.plans k).run Database.store s'.database =
            ⟨.ok (row.toUser.change changes), [.userUpdated id], ⟨some { t' with
              rows := front ++ .ofUser id (row.toUser.change changes) :: back }⟩⟩ ∧
          ((s'.plans k).run Database.store s'.database).state.stored id =
            some (row.toUser.change changes)) := by
  have htable : s.database = ⟨some t⟩ := by rw [← ht]
  -- the look at the account
  have hlook : (s.plans k).turn Database.store s.database =
      (Service.changeOf id changes row.toUser, s.database) := by
    rw [hplan, htable, change_turn here]
  have hsame : (s.turn (.client k)).database = s.database := congrArg Prod.snd hlook
  have hrest : (s.turn (.client k)).plans k = Service.changeOf id changes row.toUser :=
    (Function.update_self ..).trans (congrArg Prod.fst hlook)
  -- the turns of the others
  have hstart : (s.turn (.client k)).database.Calm := ⟨t, by rw [hsame, ht], hcalm⟩
  obtain ⟨⟨t', ht', hcalm'⟩, hplan'⟩ := Clients.run_calm hstart hgap
  have hsound' : t'.Sound := by
    refine Clients.run_sound gap (s := s.turn (.client k)) ?_ t' ht'
    rw [hsame]
    exact hdb.sound
  rw [hrun] at ht' hplan'
  have htable' : s'.database = ⟨some t'⟩ := by rw [← ht']
  -- the writing
  obtain ⟨u, hu⟩ : ∃ u, row.toUser.change changes = u := ⟨_, rfl⟩
  have hid : u.id = some id := by rw [← hu, User.change_id, Row.toUser, Table.id_of_byId here]
  have hhash : u.passwordHash ≠ "" := by
    rw [← hu, Ne, User.passwordHash_change_eq_empty_iff]
    · exact hash
    · exact (hdb.sound t ht).hash_ne row (Table.mem_of_byId here)
  have hwrite := Service.changeOf_run nonempty id row.toUser s'.database
  rw [← hrest, ← hplan', hu, htable', save_of_calm hcalm' hid hhash] at hwrite
  rw [hu, htable']
  refine ⟨t', rfl, ?_, ?_, ?_⟩
  · intro hgone
    rw [hwrite, if_pos hgone]
    rfl
  · intro hthere htaken
    rw [hwrite, if_neg hthere, if_pos htaken]
    rfl
  · intro hthere hfree
    obtain ⟨old, hold⟩ := Option.ne_none_iff_exists'.1 hthere
    have hold' : t'.byId (Row.ofUser id u).id = some old := hold
    obtain ⟨front, back, hrows, hreplace⟩ := hsound'.replace_eq hold'
    have hreach : Database.Reaches t' u id old := ⟨hid, hhash, hold, by rw [hcalm']⟩
    rw [if_neg hthere, if_neg hfree] at hwrite
    refine ⟨front, old, back, hrows, Table.id_of_byId hold, ?_, ?_⟩
    · rw [hwrite, hreplace]
      rfl
    · rw [hwrite, hreach.stored_replace, if_pos rfl]

/-- One client changes the hash of an account, another its name. -/
def editors : Clients 2 User where
  plans
    | 0 => Service.change 2 { passwordHash := some "third" }
    | 1 => Service.change 2 { username := some "robert" }
  database := Session.run {} sampleRun

/-- The account gets its new name. -/
def newName : List (Turn 2) :=
  [.client 1, .client 1]

/-- The account gets its new name, and the old one is taken. -/
def newOwner : List (Turn 2) :=
  newName ++ [.step noon (.operation (.register "bob" "fourth" none))]

/-- The account is removed, and its name is taken. -/
def successor : List (Turn 2) :=
  [.step noon (.request (.remove 2)), .step noon (.operation (.register "bob" "fifth" none))]

/-- Where the clients are after these turns, of which the first client saw only the start. -/
def editorsAfter (gap : List (Turn 2)) : Clients 2 User :=
  (editors.turn (.client 0)).run gap

/-- How the first client ends then. -/
def lateChange (gap : List (Turn 2)) : Outcome Database User :=
  ((editorsAfter gap).plans 0).run Database.store (editorsAfter gap).database

/-- The change of the hash takes back a new name, unless the old name has a new owner, and does not
reach the account that has the name after a removal. -/
theorem stale_updates_of_editors :
    ((lateChange newName).result = .ok ⟨some 2, "bob", none, "third", noon⟩ ∧
      (lateChange newName).state.stored 2 = some ⟨some 2, "bob", none, "third", noon⟩) ∧
    (lateChange newOwner).result = .error (.conflict "Username") ∧
    (lateChange successor).result = .error .notFound ∧
    (lateChange successor).state = (editorsAfter successor).database := by
  have htable : editors.database.table = some sampleTable := by decide +kernel
  have hreach : editors.database.Reachable := ⟨sampleRun, rfl⟩
  have hplan : editors.plans 0 = Service.change 2 { passwordHash := some "third" } := rfl
  have here : sampleTable.byId 2 = some ⟨2, "bob", none, "second", noon⟩ := rfl
  have hrun : ∀ gap, (editors.turn (.client 0)).run gap = editorsAfter gap := fun _ => rfl
  have settled := fun gap hgap => stale_update_settled hreach htable rfl hplan here
    (by decide) (by decide) hgap (hrun gap)
  refine ⟨?_, ?_, ?_⟩
  · obtain ⟨t, ht, -, -, hwritten⟩ := settled newName (by decide)
    have hthere : (editorsAfter newName).database.table.bind (·.byId 2) ≠ none := by
      decide +kernel
    rw [ht] at hthere
    obtain ⟨front, old, back, -, -, hwrite, hstored⟩ := hwritten hthere (by decide +kernel)
    exact ⟨congrArg Outcome.result hwrite, hstored⟩
  · obtain ⟨t, ht, -, hclash, -⟩ := settled newOwner (by decide)
    have hthere : (editorsAfter newOwner).database.table.bind (·.byId 2) ≠ none := by
      decide +kernel
    rw [ht] at hthere
    exact congrArg Outcome.result (hclash hthere (by decide +kernel))
  · obtain ⟨t, ht, hlost, -⟩ := settled successor (by decide)
    have hgone : (editorsAfter successor).database.table.bind (·.byId 2) = none := by
      decide +kernel
    rw [ht] at hgone
    exact ⟨congrArg Outcome.result (hlost hgone), congrArg Outcome.state (hlost hgone)⟩

end Accounts
