import Accounts.Proofs.History
import Accounts.Proofs.Rows

/-!
# Accounts.Proofs.Soundness — every run keeps the table sound

From an empty database on, whatever is done and whatever fails, the rows have distinct identifiers
that the store assigned, distinct usernames, and password hashes that are not empty
(`rows_of_run`).  One lemma for each: a move keeps a sound database sound (`Move.sound`), and the
counter of the table is the identifier that the history assigned last (`Move.lastId`).
-/

namespace Accounts

open Calendar

/-- The table, if there is one, is sound. -/
def Database.Sound (db : Database) : Prop :=
  ∀ t, db.table = some t → t.Sound

/-- The counter of the table; without a table no identifier has been assigned. -/
def Database.lastId (db : Database) : Int :=
  match db.table with
  | none => 0
  | some t => t.lastId

/-- The identifier that was assigned last, once `w` is written. -/
def Write.assigned (last : Int) : Write → Int
  | .inserted id _ => id
  | .dropped => 0
  | .updated _ _ | .deleted _ | .lost _ => last

/-- The identifier that a history assigned last since the table was dropped, or 0. -/
def lastAssigned (ws : List Write) : Int :=
  ws.foldl Write.assigned 0

variable {db db' : Database} {ws : List Write}

theorem Move.sound (h : Move db ws db') (hs : db.Sound) : db'.Sound := by
  intro t ht
  cases h with
  | stay => exact hs t ht
  | create =>
    cases ht
    exact Table.sound_empty {}
  | insert h =>
    cases ht
    exact (hs _ rfl).append h.hash h.free
  | update h _ free =>
    cases ht
    exact (hs _ rfl).replace h.here h.hash free
  | lose _ _ =>
    cases ht
    exact (hs _ rfl).erase _
  | delete _ =>
    cases ht
    exact (hs _ rfl).erase _
  | drop => cases ht
  | setFaults t faults =>
    cases ht
    exact (hs t rfl).setFaults faults

theorem Moves.sound (h : Moves db ws db') (hs : db.Sound) : db'.Sound := by
  induction h with
  | nil => exact hs
  | concat _ last ih => exact last.sound ih

theorem sound_empty : ({} : Database).Sound := by
  intro t ht
  cases ht

/-- Whatever happened, the table is sound. -/
theorem run_sound (steps : List (Timestamp × Step)) : (Session.run {} steps).Sound :=
  (run_moves {} steps).sound sound_empty

/-- Some run from an empty database ends there. -/
def Database.Reachable (db : Database) : Prop :=
  ∃ steps, Session.run {} steps = db

theorem Database.Reachable.sound (h : db.Reachable) : db.Sound := by
  obtain ⟨steps, rfl⟩ := h
  exact run_sound steps

/-- The counter follows what is written. -/
theorem Move.lastId (h : Move db ws db') : ws.foldl Write.assigned db.lastId = db'.lastId := by
  cases h <;> rfl

theorem Moves.lastId (h : Moves db ws db') : ws.foldl Write.assigned db.lastId = db'.lastId := by
  induction h with
  | nil => rfl
  | concat _ last ih => rw [List.foldl_append, ih, last.lastId]

/-- The counter of the table is the identifier that was assigned last. -/
theorem run_lastId (steps : List (Timestamp × Step)) :
    lastAssigned (Session.history {} steps) = (Session.run {} steps).lastId :=
  (run_moves {} steps).lastId

/-- **Soundness of every run**: identifiers are distinct and lie between 1 and the one that was
assigned last, usernames are distinct byte for byte, and no password hash is empty. -/
theorem rows_of_run (steps : List (Timestamp × Step)) {t : Table}
    (h : (Session.run {} steps).table = some t) :
    (t.rows.map Row.id).Nodup ∧
    (∀ r ∈ t.rows, 1 ≤ r.id ∧ r.id ≤ lastAssigned (Session.history {} steps)) ∧
    (t.rows.map fun r => bytesOf r.username).Nodup ∧
    ∀ r ∈ t.rows, r.passwordHash ≠ "" := by
  have hs : t.Sound := run_sound steps t h
  have hlast : lastAssigned (Session.history {} steps) = t.lastId := by
    rw [run_lastId, Database.lastId, h]
  have hbytes :
      (t.rows.map fun r => bytesOf r.username) = (t.rows.map Row.username).map bytesOf := by
    rw [List.map_map]
    rfl
  refine ⟨hs.ids_nodup, ?_, ?_, hs.hash_ne⟩
  · rw [hlast]
    exact hs.id_range
  · rw [hbytes]
    exact hs.names_nodup.map fun _ _ => bytesOf_inj.1

/-- A moment for examples. -/
def noon : Timestamp :=
  ⟨⟨2024, 5, 17, by decide⟩, 12, 0, 0, 0, by decide⟩

/-- A run in which an output is full, a name is taken, a row vanishes and its name is free again. -/
def sampleRun : List (Timestamp × Step) :=
  [.ensureTable,
    .operation (.register "alice" "first" none),
    .action (.register "bob" "second" none) (some 3),
    .operation (.change 2 { username := some "alice" }),
    .raise .rowsVanish,
    .operation (.change 1 { passwordHash := some "third" }),
    .clearFaults,
    .operation (.register "alice" "fourth" none)].map fun step => (noon, step)

/-- The table that the run leaves: identifier 1 is gone for good. -/
def sampleTable : Table :=
  { rows := [⟨2, "bob", none, "second", noon⟩, ⟨3, "alice", none, "fourth", noon⟩], lastId := 3 }

theorem rows_of_sampleRun :
    (Session.run {} sampleRun).table = some sampleTable ∧
    (sampleTable.rows.map Row.id).Nodup ∧
    (∀ r ∈ sampleTable.rows, 1 ≤ r.id ∧ r.id ≤ lastAssigned (Session.history {} sampleRun)) ∧
    (sampleTable.rows.map fun r => bytesOf r.username).Nodup ∧
    ∀ r ∈ sampleTable.rows, r.passwordHash ≠ "" := by
  have h : (Session.run {} sampleRun).table = some sampleTable := by decide +kernel
  exact ⟨h, rows_of_run sampleRun h⟩

end Accounts
