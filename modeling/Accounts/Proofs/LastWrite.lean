import Accounts.Proofs.Atomicity

/-!
# Accounts.Proofs.LastWrite — a lookup answers with the last write

`Live ws id u` says of a history that it gave the row of `id` the value `u` and has not touched that
row since.  After every run the lookups answer with the live users of its history and with no
others (`lookup_iff_live`).  The proof follows the history from move to move: each of them puts at
most one row and ends at most that one (`Move.live_iff`), and a new row has an identifier that no
live user has, since identifiers are never assigned twice.
-/

namespace Accounts

open Calendar

/-! ### Live users of a history -/

/-- The row of `id` is given the value `u`. -/
def Write.Puts (w : Write) (id : Int) (u : User) : Prop :=
  w = .inserted id u ∨ w = .updated id u

/-- What the row of `id` held before is gone. -/
def Write.Ends (w : Write) (id : Int) : Prop :=
  (∃ u, w = .updated id u) ∨ w = .deleted id ∨ w = .lost id ∨ w = .dropped

/-- The row of `id` was given the value `u`, and no later write ends that. -/
def Live (ws : List Write) (id : Int) (u : User) : Prop :=
  ∃ before w after, ws = before ++ w :: after ∧ w.Puts id u ∧ ∀ w' ∈ after, ¬ w'.Ends id

variable {ws : List Write} {id : Int} {u : User}

theorem not_live_nil : ¬ Live [] id u := by
  rintro ⟨before, w, after, h, -⟩
  simp at h

/-- The latest write either puts the value, or leaves alone what was live before it. -/
theorem live_concat {w : Write} :
    Live (ws ++ [w]) id u ↔ w.Puts id u ∨ Live ws id u ∧ ¬ w.Ends id := by
  constructor
  · rintro ⟨before, w₀, after, h, hput, hrest⟩
    rcases List.eq_nil_or_concat after with rfl | ⟨rest, last, rfl⟩
    · obtain ⟨-, hw⟩ := List.append_inj' h rfl
      cases hw
      exact .inl hput
    · rw [List.concat_eq_append, ← List.cons_append, ← List.append_assoc] at h
      obtain ⟨hws, hw⟩ := List.append_inj' h rfl
      cases hw
      refine .inr ⟨⟨before, w₀, rest, hws, hput, fun w' hw' => hrest w' ?_⟩, hrest w ?_⟩ <;>
        simp_all
  · rintro (hput | ⟨⟨before, w₀, after, rfl, hput, hrest⟩, hends⟩)
    · exact ⟨ws, w, [], rfl, hput, by simp⟩
    · refine ⟨before, w₀, after ++ [w], by simp, hput, ?_⟩
      intro w' hw'
      rcases List.mem_append.1 hw' with hw' | hw'
      · exact hrest w' hw'
      · rwa [List.mem_singleton.1 hw']

/-! ### The user that a database holds under an identifier -/

namespace Database

/-- The rows, in the order of their insertion. -/
def rows (db : Database) : List Row :=
  match db.table with
  | none => []
  | some t => t.rows

/-- The user in the row of an identifier. -/
def stored (db : Database) (id : Int) : Option User :=
  db.table.bind fun t => (t.byId id).map Row.toUser

@[simp] theorem stored_empty (id : Int) : ({} : Database).stored id = none := rfl

theorem stored_append {t : Table} (hs : t.Sound) (u : User) (id : Int) :
    (⟨some (t.append u)⟩ : Database).stored id =
      if id = t.lastId + 1 then some { u with id := some (t.lastId + 1 : Int) }
      else (⟨some t⟩ : Database).stored id := by
  simp only [stored, Option.bind_some, Table.byId_append]
  by_cases hid : id = t.lastId + 1
  · have hnew : t.byId id = none := hs.byId_eq_none_of_lt (by omega)
    rw [hnew, if_pos hid, if_pos hid.symm, hid]
    rfl
  · rw [if_neg hid, if_neg (Ne.symm hid), Option.or_none]

theorem stored_replace {t : Table} {id : Int} {row : Row} (here : t.byId id = some row) (u : User)
    (other : Int) :
    (⟨some (t.replace (Row.ofUser id u))⟩ : Database).stored other =
      if other = id then some { u with id := some id } else (⟨some t⟩ : Database).stored other := by
  have hid : (Row.ofUser id u).id = id := rfl
  simp only [stored, Option.bind_some, Table.byId_replace, hid]
  split_ifs with hother
  · rw [hother, here]
    rfl
  · rfl

theorem Reaches.stored_replace {t : Table} {u : User} {id : Int} {row : Row}
    (h : Reaches t u id row) (other : Int) :
    (⟨some (t.replace (Row.ofUser id u))⟩ : Database).stored other =
      if other = id then some u else (⟨some t⟩ : Database).stored other := by
  have hu : { u with id := some id } = u := by rw [← h.stored]
  rw [Database.stored_replace h.here, hu]

theorem stored_erase (t : Table) (id other : Int) :
    (⟨some (t.erase id)⟩ : Database).stored other =
      if other = id then none else (⟨some t⟩ : Database).stored other := by
  simp only [stored, Option.bind_some, Table.byId_erase]
  split <;> rfl

/-- What is stored can be told from the rows. -/
theorem stored_congr {db db' : Database} (h : db'.rows = db.rows) : db'.stored = db.stored := by
  have hrows : ∀ (db : Database) (id : Int),
      db.stored id = (db.rows.find? fun r => r.id = id).map Row.toUser := by
    rintro ⟨_ | t⟩ id <;> rfl
  funext id
  rw [hrows, hrows, h]

theorem byId_eq_ok_some_iff {db : Database} {t : Table} (h : db.table = some t) {id : Int}
    {u : User} : (db.byId id).1 = .ok (some u) ↔ db.stored id = some u := by
  simp [byId_of_table db h, stored, h]

/-- In a sound table, a user is found by a name exactly if some row holds it. -/
theorem byName_eq_ok_some_iff {db : Database} {t : Table} (h : db.table = some t) (hs : t.Sound)
    {name : String} {u : User} :
    (db.byName name).1 = .ok (some u) ↔ (∃ id, db.stored id = some u) ∧ u.username = name := by
  simp only [byName_of_table db h, stored, h, Option.bind_some, Except.ok.injEq,
    Option.map_eq_some_iff, hs.byName_eq_some_iff, hs.byId_eq_some_iff]
  constructor
  · rintro ⟨r, ⟨hr, hname⟩, rfl⟩
    exact ⟨⟨r.id, r, ⟨hr, rfl⟩, rfl⟩, hname⟩
  · rintro ⟨⟨id, r, ⟨hr, rfl⟩, rfl⟩, hname⟩
    exact ⟨r, ⟨hr, hname⟩, rfl⟩

end Database

/-! ### From move to move -/

@[simp] theorem Write.puts_inserted {j : Int} {v : User} :
    (Write.inserted j v).Puts id u ↔ j = id ∧ v = u := by
  simp [Puts]

@[simp] theorem Write.puts_updated {j : Int} {v : User} :
    (Write.updated j v).Puts id u ↔ j = id ∧ v = u := by
  simp [Puts]

/-- A move keeps the live users of the history those that the database holds. -/
theorem Move.live_iff {db db' : Database} {ws' : List Write} (h : Move db ws' db')
    (hs : db.Sound) (hl : ∀ id u, Live ws id u ↔ db.stored id = some u) (id : Int) (u : User) :
    Live (ws ++ ws') id u ↔ db'.stored id = some u := by
  cases h with
  | stay => rw [List.append_nil, hl]
  | create =>
    rw [List.append_nil, hl]
    rfl
  | @insert t v h =>
    rw [live_concat, hl, Write.puts_inserted, Database.stored_append (hs t rfl)]
    by_cases hid : id = t.lastId + 1
    · -- the identifier is new, so nothing was live under it
      have hnew : (⟨some t⟩ : Database).stored id = none := by
        have hlt : (t.lastId : Int) < id := by omega
        simp [Database.stored, (hs t rfl).byId_eq_none_of_lt hlt]
      rw [if_pos hid, hnew]
      simp [hid]
    · rw [if_neg hid]
      simp [Ne.symm hid, Write.Ends]
  | @update t v j row h _ _ =>
    rw [live_concat, hl, Write.puts_updated, h.stored_replace]
    by_cases hid : id = j
    · simp [hid, Write.Ends]
    · simp [hid, Ne.symm hid, Write.Ends]
  | @lose t v j row _ _ =>
    rw [live_concat, hl, Database.stored_erase]
    by_cases hid : id = j
    · simp [hid, Write.Puts, Write.Ends]
    · simp [hid, Ne.symm hid, Write.Puts, Write.Ends]
  | @delete t j row _ =>
    rw [live_concat, hl, Database.stored_erase]
    by_cases hid : id = j
    · simp [hid, Write.Puts, Write.Ends]
    · simp [hid, Ne.symm hid, Write.Puts, Write.Ends]
  | drop =>
    rw [live_concat, hl]
    simp [Write.Puts, Write.Ends]
  | setFaults t faults =>
    rw [List.append_nil, hl]
    rfl

theorem Moves.live_iff {db : Database} {ws : List Write} (h : Moves {} ws db) (id : Int)
    (u : User) : Live ws id u ↔ db.stored id = some u := by
  induction h generalizing id u with
  | nil => simp [not_live_nil]
  | concat init last ih => exact last.live_iff (init.sound sound_empty) ih id u

/-- A user is live under its own identifier only. -/
theorem Database.id_of_stored {db : Database} {id : Int} {u : User} (h : db.stored id = some u) :
    u.id = some id := by
  simp only [stored, Option.bind_eq_some_iff, Option.map_eq_some_iff] at h
  obtain ⟨t, -, r, hr, rfl⟩ := h
  simp [Row.toUser, Table.id_of_byId hr]

/-! ### What counts as a write -/

/-- A successful insert writes the submitted user, of which only the identifier is filled in. -/
theorem Database.writes_of_add {db : Database} {u reply : User} (h : (db.add u).1 = .ok reply) :
    ∃ id, reply = { u with id := some id } ∧ db.writes (.add u) = [.inserted id reply] := by
  rcases db.add_cases u with ⟨f, hf⟩ | ⟨t, rfl, -, ht⟩
  · simp [hf] at h
  · simp only [ht, Except.ok.injEq] at h
    subst h
    exact ⟨t.lastId + 1, rfl, by simp [writes, ht]⟩

/-- A successful update writes the submitted user. -/
theorem Database.writes_of_save {db : Database} {u reply : User} (h : (db.save u).1 = .ok reply) :
    reply = u ∧ ∃ id, u.id = some id ∧ db.writes (.save u) = [.updated id u] := by
  rcases db.save_cases u with ⟨f, hf, -⟩ | ⟨t, id, row, rfl, -, -, ht⟩ |
    ⟨t, id, row, rfl, hreach, -, -, ht⟩
  · simp [hf] at h
  · simp [ht] at h
  · simp only [ht, Except.ok.injEq] at h
    exact ⟨h.symm, id, hreach.stored, by simp [writes, ht, hreach.stored]⟩

/-- **A lookup answers with the last write.**  After a run, the user of an identifier or of a name
is found exactly if it is live in the history of the run; no two live users share a name.  The
history lists successful inserts and updates with the users that were submitted, and nothing for
steps that only look or make the table.  A step that the store refuses adds nothing to it but the
row that it lost. -/
theorem lookup_iff_live (steps : List (Timestamp × Step)) {t : Table}
    (h : (Session.run {} steps).table = some t) :
    (∀ id u, ((Session.run {} steps).byId id).1 = .ok (some u) ↔
      Live (Session.history {} steps) id u) ∧
    (∀ name u, ((Session.run {} steps).byName name).1 = .ok (some u) ↔
      (∃ id, Live (Session.history {} steps) id u) ∧ bytesOf u.username = bytesOf name) ∧
    (∀ id id' u u', Live (Session.history {} steps) id u → Live (Session.history {} steps) id' u' →
      bytesOf u.username = bytesOf u'.username → id = id' ∧ u = u') ∧
    (∀ (db : Database) (u reply : User), (db.add u).1 = .ok reply →
      ∃ id, reply = { u with id := some id } ∧ db.writes (.add u) = [.inserted id reply]) ∧
    (∀ (db : Database) (u reply : User), (db.save u).1 = .ok reply →
      reply = u ∧ ∃ id, u.id = some id ∧ db.writes (.save u) = [.updated id u]) ∧
    (∀ now db (step : Step), step.isRead = true ∨ step.makesTable = true →
      step.history now db = []) ∧
    (∀ now db (step : Step) f, (step.perform now db).result = .error f →
      ¬ step.FailsInOutput now db →
      step.history now db = [] ∨
        ∃ id, step.LosesRow now db id ∧ step.history now db = [.lost id]) := by
  have hs : t.Sound := run_sound steps t h
  have hlive := (run_moves {} steps).live_iff
  have hname : ∀ name u, ((Session.run {} steps).byName name).1 = .ok (some u) ↔
      (∃ id, Live (Session.history {} steps) id u) ∧ bytesOf u.username = bytesOf name := by
    intro name u
    simp only [Database.byName_eq_ok_some_iff h hs, hlive, bytesOf_inj]
  refine ⟨?_, hname, ?_, ?_, ?_, ?_, ?_⟩
  · intro id u
    rw [Database.byId_eq_ok_some_iff h, hlive]
  · intro id id' u u' hu hu' hbytes
    -- both are what the lookup of the name finds
    have h₁ := (hname u.username u).2 ⟨⟨id, hu⟩, rfl⟩
    have h₂ := (hname u.username u').2 ⟨⟨id', hu'⟩, hbytes.symm⟩
    rw [h₁] at h₂
    cases h₂
    have hid := Database.id_of_stored ((hlive id u).1 hu)
    have hid' := Database.id_of_stored ((hlive id' u).1 hu')
    rw [hid] at hid'
    exact ⟨Option.some.inj hid', rfl⟩
  · exact fun db u reply => Database.writes_of_add
  · exact fun db u reply => Database.writes_of_save
  · rintro now db step (hread | hmakes)
    · exact (Step.effect_of_isRead hread now db).2
    · exact Step.history_of_makesTable hmakes now db
  · intro now db step f hf hout
    by_cases hloses : ∃ id, step.LosesRow now db id
    · obtain ⟨id, hid⟩ := hloses
      exact .inr ⟨id, hid, hid.effect.2.2⟩
    · have hnone : ∀ id, ¬ step.LosesRow now db id := fun id hid => hloses ⟨id, hid⟩
      exact .inl (Step.effect_of_error hf hnone hout).2

theorem live_in_sampleRun :
    (Session.run {} sampleRun).table = some sampleTable ∧
    Live (Session.history {} sampleRun) 2 ⟨some 2, "bob", none, "second", noon⟩ ∧
    ∀ u, ¬ Live (Session.history {} sampleRun) 1 u := by
  have h : (Session.run {} sampleRun).table = some sampleTable := by decide +kernel
  obtain ⟨hfound, -⟩ := lookup_iff_live sampleRun h
  refine ⟨h, (hfound 2 _).1 (by decide +kernel), ?_⟩
  intro u hu
  have hgone : ((Session.run {} sampleRun).byId 1).1 = .ok none := by decide +kernel
  have hlive := (hfound 1 u).2 hu
  rw [hgone] at hlive
  cases hlive

end Accounts
