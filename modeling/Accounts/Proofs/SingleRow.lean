import Accounts.Proofs.Decisions

/-!
# Accounts.Proofs.SingleRow — a change works on one row

A change of an account looks at the row of the account, at the faults of the table and at the names
that other rows hold.  All that it does to the table is to put something in the place of that row
(`Table.put`).  `Changes.onRow` says what it answers and what it puts there, without the table
around the row, and `Service.change_run` that a change in a sound table comes to just that.
-/

namespace Accounts

/-! ### Something in the place of a row -/

namespace Table

/-- The table with `row` in the place of the row of `id`, or without that row. -/
def put (t : Table) (id : Int) (row : Option Row) : Table :=
  { t with rows := t.rows.filterMap fun r => if r.id = id then row else some r }

variable {t : Table} {id : Int} {row : Row} {a : Option Row}

theorem put_none (t : Table) (id : Int) : t.put id none = t.erase id := by
  simp only [put, erase, ← List.filterMap_eq_filter]
  congr 2
  funext r
  by_cases hr : r.id = id <;> simp [hr, Option.guard]

theorem put_some (h : row.id = id) : t.put id (some row) = t.replace row := by
  subst h
  simp only [put, replace, ← List.filterMap_eq_map]
  congr 2
  funext r
  by_cases hr : r.id = row.id <;> simp [hr]

/-- With the row that it has there, the table stays as it is. -/
theorem Sound.put_byId (hs : t.Sound) (id : Int) : t.put id (t.byId id) = t := by
  have hrows : t.rows.filterMap (fun r => if r.id = id then t.byId id else some r) = t.rows := by
    rw [List.filterMap_congr (g := some), List.filterMap_some]
    intro r hr
    by_cases hid : r.id = id
    · rw [if_pos hid, hs.byId_eq_some_iff.2 ⟨hr, hid⟩]
    · rw [if_neg hid]
  rw [put, hrows]

/-- What was put first does not count, as long as a row stays there. -/
theorem put_put (h : row.id = id) (t : Table) (a : Option Row) :
    (t.put id (some row)).put id a = t.put id a := by
  simp only [put, List.filterMap_filterMap]
  congr 2
  funext r
  by_cases hr : r.id = id <;> simp [hr, h]

theorem byId_put (ha : ∀ r ∈ a, r.id = id) (t : Table) (other : Int) :
    (t.put id a).byId other =
      if other = id then (t.byId id).bind fun _ => a else t.byId other := by
  cases a with
  | none =>
    rw [put_none, byId_erase]
    simp
  | some row =>
    have hid : row.id = id := ha row rfl
    rw [put_some hid, byId_replace, hid]
    split_ifs with hother
    · rw [hother]
      cases t.byId id <;> rfl
    · rfl

/-- What is in the place of a row makes no difference to the names that other rows hold. -/
theorem isTaken_put (ha : ∀ r ∈ a, r.id = id) (t : Table) (name : String) :
    (t.put id a).isTaken id name = t.isTaken id name := by
  rw [isTaken, isTaken, put, List.any_filterMap]
  congr 1
  funext r
  by_cases hr : r.id = id
  · cases a with
    | none => simp [hr]
    | some s => simp [hr, ha s rfl]
  · simp [hr]

end Table

/-- What comes of work on the row of `id`, with the rest of the table around it. -/
def Outcome.inTable {α : Type} (o : Outcome (Option Row) α) (t : Table) (id : Int) :
    Outcome Database α :=
  ⟨o.result, o.events, ⟨some (t.put id o.state)⟩⟩

/-! ### A change of a row -/

namespace Changes

/-- What a change answers, and what it puts in the place of its row: the first condition that holds
decides.  `taken` tells which names other rows hold. -/
def onRow (c : Changes) (faults : Faults) (taken : String → Bool) :
    Option Row → Outcome (Option Row) User
  | none => ⟨.error .notFound, [], none⟩
  | some row =>
    let u := row.toUser.change c
    if c = {} then ⟨.ok u, [], some row⟩
    else if u.passwordHash = "" then
      ⟨.error (.validation "Password hash must not be empty"), [], some row⟩
    else if faults.updatesFail then ⟨.error (.database .aborted), [], some row⟩
    else if faults.rowsVanish then ⟨.error .notFound, [], none⟩
    else if taken u.username then ⟨.error Table.clash, [], some row⟩
    else ⟨.ok u, [.userUpdated row.id], some (.ofUser row.id u)⟩

/-- The user can be written: it has a hash, no fault meets it, and no other row has its name. -/
structure Writable (faults : Faults) (taken : String → Bool) (u : User) : Prop where
  hash : u.passwordHash ≠ ""
  no_failure : faults.updatesFail = false
  stays : faults.rowsVanish = false
  free : taken u.username = false

variable {c : Changes} {faults : Faults} {taken : String → Bool} {row : Row} {u : User}

/-- A change of a row goes through if there is nothing to write or it can be written. -/
theorem onRow_of_writable (h : c ≠ {} → Writable faults taken (row.toUser.change c)) :
    (c.onRow faults taken (some row)).result = .ok (row.toUser.change c) ∧
      (c.onRow faults taken (some row)).state =
        some (.ofUser row.id (row.toUser.change c)) := by
  by_cases hempty : c = {}
  · subst hempty
    exact ⟨rfl, rfl⟩
  · obtain ⟨hash, no_failure, stays, free⟩ := h hempty
    simp [onRow, hempty, hash, no_failure, stays, free]

/-- Nothing else goes through. -/
theorem writable_of_onRow {a : Option Row} (h : (c.onRow faults taken a).result = .ok u) :
    ∃ row, a = some row ∧ u = row.toUser.change c ∧
      (c ≠ {} → Writable faults taken (row.toUser.change c)) := by
  cases a with
  | none => cases h
  | some row =>
    simp only [onRow] at h
    split_ifs at h with hempty hash hfail hvanish htaken
    · cases h
      exact ⟨row, rfl, rfl, fun hne => absurd hempty hne⟩
    · cases h
      rw [Bool.not_eq_true] at hfail hvanish htaken
      exact ⟨row, rfl, rfl, fun _ => ⟨hash, hfail, hvanish, htaken⟩⟩

/-- What a change puts in the place of a row has the identifier of the row. -/
theorem id_of_onRow (row : Row) :
    ∀ r ∈ (c.onRow faults taken (some row)).state, r.id = row.id := by
  intro r hr
  simp only [onRow] at hr
  split_ifs at hr <;> cases hr <;> rfl

end Changes

/-! ### A change in a table -/

variable {t : Table} {id : Int} {row : Row} {u : User}

/-- What comes of an update of a row that is there, whatever the faults. -/
theorem Database.save_eq_of_byId (here : t.byId id = some row) (hid : u.id = some id) :
    (⟨some t⟩ : Database).save u =
      if u.passwordHash = "" then
        (.error (.validation "Password hash must not be empty"), ⟨some t⟩)
      else if t.faults.updatesFail then (.error (.database .aborted), ⟨some t⟩)
      else if t.faults.rowsVanish then (.error .notFound, ⟨some (t.erase id)⟩)
      else if t.isTaken id u.username then (.error Table.clash, ⟨some t⟩)
      else (.ok u, ⟨some (t.replace (.ofUser id u))⟩) := by
  by_cases hash : u.passwordHash = ""
  · rw [if_pos hash, save, checkStored_eq u id hid, if_pos hash]
  rw [if_neg hash]
  by_cases hfail : t.faults.updatesFail = true
  · rw [if_pos hfail, save, checkStored_eq u id hid, if_neg hash]
    simp [onTable, here, Table.save, hfail, Except.map, Failure.ofWrite]
  · rw [if_neg hfail]
    exact save_of_reaches ⟨hid, hash, here, by simpa using hfail⟩

/-- **A change works on one row**: in a sound table it answers what it answers with the row alone,
and nothing but this row is touched. -/
theorem Service.change_run (hs : t.Sound) (id : Int) (c : Changes) :
    (change id c).run Database.store ⟨some t⟩ =
      (c.onRow t.faults (t.isTaken id) (t.byId id)).inTable t id := by
  have hput := hs.put_byId id
  rw [change_eq, Plan.run_ask_of_ok (Operation.store_byId t id)]
  cases hrow : t.byId id with
  | none =>
    rw [hrow] at hput
    simp [Changes.onRow, Outcome.inTable, Plan.run, hput]
  | some row =>
    rw [hrow] at hput
    obtain rfl : row.id = id := Table.id_of_byId hrow
    have hid : (row.toUser.change c).id = some row.id := rfl
    have hwritten : (Row.ofUser row.id (row.toUser.change c)).id = row.id := rfl
    simp only [Option.map_some, Option.elim_some, Changes.onRow]
    by_cases hempty : c = {}
    · subst hempty
      simp [changeOf, Outcome.inTable, Plan.run, hput, User.change]
    rw [changeOf_run hempty, Database.save_eq_of_byId hrow hid, if_neg hempty,
      ← Table.put_some hwritten, ← Table.put_none]
    split_ifs <;> simp [Outcome.inTable, Except.toOption, hput]

/-- The same for a table in which the row was replaced before. -/
theorem Service.change_run_put {old : Row} (hs : (t.put id (some row)).Sound)
    (here : t.byId id = some old) (hid : row.id = id) (c : Changes) :
    (change id c).run Database.store ⟨some (t.put id (some row))⟩ =
      (c.onRow t.faults (t.isTaken id) (some row)).inTable t id := by
  have hput : ∀ r ∈ some row, r.id = id := by
    rintro r ⟨⟩
    exact hid
  have htaken : (t.put id (some row)).isTaken id = t.isTaken id :=
    funext (Table.isTaken_put hput t)
  have hrow : (t.put id (some row)).byId id = some row := by
    rw [Table.byId_put hput, if_pos rfl, here, Option.bind_some]
  rw [change_run hs, htaken, hrow, Outcome.inTable, Table.put_put hid]
  rfl

/-- No plan spoils a sound database. -/
theorem Database.Sound.run {α : Type} {db : Database} (hs : db.Sound) (p : Plan α) :
    (p.run Database.store db).state.Sound :=
  (plan_moves p db).sound hs

end Accounts
