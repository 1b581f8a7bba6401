import Accounts.Database

/-!
# Accounts.Proofs.Requests — what a request can do to a database

Each request that writes is taken apart once: it is refused and leaves the database as it was, or
it does exactly one thing to the table (`add_cases`, `save_cases`, `remove_cases`).  A save has a
third outcome: the row that it was to write over vanishes.  `Addable` and `Reaches` say when a
statement is carried out.
-/

namespace Accounts

namespace Database

/-- The row of an identifier is there. -/
def hasRow (db : Database) (id : Int) : Bool :=
  match db.table with
  | none => false
  | some t => (t.byId id).isSome

/-- The user may be added to the table: it is new, has a hash, and its name is free. -/
structure Addable (t : Table) (u : User) : Prop where
  unstored : u.id = none
  hash : u.passwordHash ≠ ""
  free : t.byName u.username = none
  no_failure : t.faults.insertsFail = false
  no_rival : t.faults.rivalsAppear = false

/-- The update of a user reaches the row of `id`: the user has a hash, the row is there, and the
statement is carried out. -/
structure Reaches (t : Table) (u : User) (id : Int) (row : Row) : Prop where
  stored : u.id = some id
  hash : u.passwordHash ≠ ""
  here : t.byId id = some row
  no_failure : t.faults.updatesFail = false

variable (db : Database)

/-! ### Requests that only read -/

@[simp] theorem byId_state (id : Int) : (db.byId id).2 = db := by
  obtain ⟨_ | t⟩ := db <;> rfl

@[simp] theorem byName_state (name : String) : (db.byName name).2 = db := by
  obtain ⟨_ | t⟩ := db <;> rfl

theorem byId_of_table {t : Table} (h : db.table = some t) (id : Int) :
    (db.byId id).1 = .ok ((t.byId id).map Row.toUser) := by
  simp [byId, onTable, h]

theorem byName_of_table {t : Table} (h : db.table = some t) (name : String) :
    (db.byName name).1 = .ok ((t.byName name).map Row.toUser) := by
  simp [byName, onTable, h]

/-! ### Checks before the database is asked -/

@[simp] theorem mapError_ok {α ε ε' : Type} (f : ε → ε') (a : α) :
    (.ok a : Except ε α).mapError f = .ok a := rfl

@[simp] theorem mapError_error {α ε ε' : Type} (f : ε → ε') (e : ε) :
    (.error e : Except ε α).mapError f = .error (f e) := rfl

theorem mapError_eq_ok_iff {α ε ε' : Type} {f : ε → ε'} {e : Except ε α} {a : α} :
    e.mapError f = .ok a ↔ e = .ok a := by
  cases e with
  | error x => constructor <;> intro h <;> cases h
  | ok b => constructor <;> intro h <;> cases h <;> rfl

theorem checkStorable_eq_ok_iff {u : User} : u.checkStorable = .ok () ↔ u.passwordHash ≠ "" := by
  unfold User.checkStorable
  by_cases hash : u.passwordHash = "" <;> simp [hash]

theorem checkNew_eq_ok_iff {u : User} :
    checkNew u = .ok () ↔ u.id = none ∧ u.passwordHash ≠ "" := by
  unfold checkNew User.isStored
  cases hid : u.id with
  | some id => simp
  | none =>
    rw [if_neg (by simp), mapError_eq_ok_iff, checkStorable_eq_ok_iff]
    simp

/-- An update needs an identifier first, then a hash. -/
theorem checkStored_of_none {u : User} (h : u.id = none) :
    checkStored u = .error (.validation "User has not been persisted") := by
  unfold checkStored User.storedId
  rw [h]
  rfl

theorem checkStored_of_some {u : User} {id : Int} (h : u.id = some id) :
    checkStored u = (u.checkStorable.mapError Invalid.toFailure).map fun _ => id := by
  unfold checkStored User.storedId
  rw [h]
  rcases u.checkStorable with _ | _ <;> rfl

theorem checkStored_eq_ok_iff {u : User} {id : Int} :
    checkStored u = .ok id ↔ u.id = some id ∧ u.passwordHash ≠ "" := by
  cases hid : u.id with
  | none => simp [checkStored_of_none hid]
  | some i =>
    rw [checkStored_of_some hid, ← checkStorable_eq_ok_iff]
    rcases u.checkStorable with e | _
    · constructor
      · intro h
        cases h
      · rintro ⟨-, h⟩
        cases h
    · constructor
      · intro h
        cases h
        exact ⟨rfl, rfl⟩
      · rintro ⟨h, -⟩
        cases h
        rfl

/-- The checks never say that a user was not found. -/
theorem checkStored_ne_notFound (u : User) : checkStored u ≠ .error .notFound := by
  cases hid : u.id with
  | none => simp [checkStored_of_none hid]
  | some i =>
    rw [checkStored_of_some hid]
    rcases u.checkStorable with e | _ <;> intro h <;> cases h

/-! ### Requests that write -/

theorem add_of_addable {t : Table} {u : User} (h : Addable t u) :
    (⟨some t⟩ : Database).add u =
      (.ok { u with id := some (t.lastId + 1 : Int) }, ⟨some (t.append u)⟩) := by
  have hc := checkNew_eq_ok_iff.2 ⟨h.unstored, h.hash⟩
  simp [add, hc, onTable, Table.insert, h.no_failure, h.no_rival, h.free, Except.map]

/-- The table refuses a second row of the same name. -/
theorem add_of_taken {t : Table} {u : User} (unstored : u.id = none) (hash : u.passwordHash ≠ "")
    (no_failure : t.faults.insertsFail = false) (taken : (t.byName u.username).isSome) :
    (⟨some t⟩ : Database).add u = (.error Table.clash, ⟨some t⟩) := by
  have hc := checkNew_eq_ok_iff.2 ⟨unstored, hash⟩
  simp [add, hc, onTable, Table.insert, no_failure, taken, Table.clash, Except.map]

/-- A new user is refused, and nothing changes, or it is appended under the next identifier. -/
theorem add_cases (u : User) :
    (∃ f, db.add u = (.error f, db)) ∨
    ∃ t, db = ⟨some t⟩ ∧ Addable t u ∧
      db.add u = (.ok { u with id := some (t.lastId + 1 : Int) }, ⟨some (t.append u)⟩) := by
  cases hc : checkNew u with
  | error f => exact .inl ⟨f, by simp [add, hc]⟩
  | ok _ =>
    obtain ⟨hid, hhash⟩ := checkNew_eq_ok_iff.1 hc
    obtain ⟨_ | t⟩ := db
    · exact .inl ⟨.database .noTable, by simp [add, hc, onTable]⟩
    · by_cases hfail : t.faults.insertsFail = true
      · refine .inl ⟨.ofWrite .aborted, ?_⟩
        simp [add, hc, onTable, Table.insert, hfail, Except.map]
      · by_cases hclash : (t.faults.rivalsAppear || (t.byName u.username).isSome) = true
        · refine .inl ⟨Table.clash, ?_⟩
          simp [add, hc, onTable, Table.insert, hfail, hclash, Table.clash, Except.map]
        · simp only [Bool.or_eq_true, not_or, Bool.not_eq_true, Option.isSome_eq_false_iff,
            Option.isNone_iff_eq_none] at hclash
          have hadd : Addable t u := ⟨hid, hhash, hclash.2, by simpa using hfail, hclash.1⟩
          exact .inr ⟨t, rfl, hadd, add_of_addable hadd⟩

/-- An update that reaches its row finds it gone, or clashes, or writes over it. -/
theorem save_of_reaches {t : Table} {u : User} {id : Int} {row : Row} (h : Reaches t u id row) :
    (⟨some t⟩ : Database).save u =
      if t.faults.rowsVanish then (.error .notFound, ⟨some (t.erase id)⟩)
      else if t.isTaken id u.username then (.error Table.clash, ⟨some t⟩)
      else (.ok u, ⟨some (t.replace (Row.ofUser id u))⟩) := by
  have hc := checkStored_eq_ok_iff.2 ⟨h.stored, h.hash⟩
  have hu : { u with id := some id } = u := by rw [← h.stored]
  have hrow : (Row.ofUser id u).id = id ∧ (Row.ofUser id u).username = u.username := ⟨rfl, rfl⟩
  simp only [save, hc, onTable, h.here, Table.save, h.no_failure, hrow]
  by_cases hvanish : t.faults.rowsVanish = true
  · simp [hvanish, Failure.ofWrite, Except.map]
  · by_cases htaken : t.isTaken id u.username = true <;>
      simp [hvanish, htaken, Table.clash, Except.map, hu]

/-- The update of a user is refused, and nothing changes; or the row that it reaches vanishes; or
the row is written over. -/
theorem save_cases (u : User) :
    (∃ f, db.save u = (.error f, db) ∧
      ∀ id, u.id = some id → f = .notFound → db.hasRow id = false) ∨
    (∃ t id row, db = ⟨some t⟩ ∧ Reaches t u id row ∧ t.faults.rowsVanish = true ∧
      db.save u = (.error .notFound, ⟨some (t.erase id)⟩)) ∨
    ∃ t id row, db = ⟨some t⟩ ∧ Reaches t u id row ∧ t.faults.rowsVanish = false ∧
      t.isTaken id u.username = false ∧
      db.save u = (.ok u, ⟨some (t.replace (Row.ofUser id u))⟩) := by
  cases hc : checkStored u with
  | error f =>
    refine .inl ⟨f, by simp [save, hc], ?_⟩
    rintro id hid rfl
    exact absurd hc (checkStored_ne_notFound u)
  | ok id =>
    obtain ⟨hid, hhash⟩ := checkStored_eq_ok_iff.1 hc
    obtain ⟨_ | t⟩ := db
    · exact .inl ⟨.database .noTable, by simp [save, hc, onTable], by simp⟩
    · cases hrow : t.byId id with
      | none =>
        refine .inl ⟨.notFound, by simp [save, hc, onTable, hrow], ?_⟩
        intro i hi _
        rw [hid, Option.some.injEq] at hi
        simp [hasRow, ← hi, hrow]
      | some row =>
        by_cases hfail : t.faults.updatesFail = true
        · refine .inl ⟨.ofWrite .aborted, ?_, by simp [Failure.ofWrite]⟩
          simp [save, hc, onTable, hrow, Table.save, hfail, Except.map]
        · have hreach : Reaches t u id row := ⟨hid, hhash, hrow, by simpa using hfail⟩
          have hsave := save_of_reaches hreach
          by_cases hvanish : t.faults.rowsVanish = true
          · rw [if_pos hvanish] at hsave
            exact .inr (.inl ⟨t, id, row, rfl, hreach, hvanish, hsave⟩)
          · rw [if_neg hvanish] at hsave
            by_cases htaken : t.isTaken id u.username = true
            · rw [if_pos htaken] at hsave
              exact .inl ⟨Table.clash, hsave, by simp [Table.clash, Failure.ofWrite]⟩
            · rw [if_neg htaken] at hsave
              exact .inr (.inr ⟨t, id, row, rfl, hreach, by simpa using hvanish,
                by simpa using htaken, hsave⟩)

/-- A deletion is refused, and nothing changes, or it removes the row. -/
theorem remove_cases (id : Int) :
    (∃ f, db.remove id = (.error f, db)) ∨
    ∃ t row, db = ⟨some t⟩ ∧ t.byId id = some row ∧
      db.remove id = (.ok (), ⟨some (t.erase id)⟩) := by
  obtain ⟨_ | t⟩ := db
  · exact .inl ⟨.database .noTable, rfl⟩
  · cases hrow : t.byId id with
    | none => exact .inl ⟨.notFound, by simp [remove, onTable, Table.remove, hrow]⟩
    | some row => exact .inr ⟨t, row, rfl, hrow, by simp [remove, onTable, Table.remove, hrow]⟩

end Database

end Accounts
