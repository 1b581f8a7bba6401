import Accounts.Proofs.LastWrite
import Accounts.Proofs.Numbering

/-!
# Accounts.Proofs.Verdicts — which condition decides a request

A request that writes may be refused for several reasons at once.  `addVerdict`, `saveVerdict` and
`removeVerdict` list the reasons by what is seen from outside, the rows and their usernames byte for
byte, and the first that holds decides.  `requests_decided` says that the database answers so, and
that a username can be given to a new user exactly while no row has it.
-/

namespace Accounts

open Calendar

namespace Database

/-! ### What is seen of a database -/

/-- What goes wrong with the table; without a table there is nothing to go wrong. -/
def faults (db : Database) : Faults :=
  match db.table with
  | none => {}
  | some t => t.faults

/-- At most one fault meets an update. -/
def FaultsApart (db : Database) : Prop :=
  ¬ (db.faults.updatesFail = true ∧ db.faults.rowsVanish = true)

instance (db : Database) : Decidable db.FaultsApart :=
  inferInstanceAs (Decidable (¬ _))

/-- Some row has the username, byte for byte. -/
def Holds (db : Database) (name : String) : Prop :=
  ∃ r ∈ db.rows, bytesOf r.username = bytesOf name

/-- Some row other than that of `id` has the username, byte for byte. -/
def HoldsBeside (db : Database) (id : Int) (name : String) : Prop :=
  ∃ r ∈ db.rows, r.id ≠ id ∧ bytesOf r.username = bytesOf name

instance (db : Database) (name : String) : Decidable (db.Holds name) :=
  inferInstanceAs (Decidable (∃ r ∈ db.rows, _))

instance (db : Database) (id : Int) (name : String) : Decidable (db.HoldsBeside id name) :=
  inferInstanceAs (Decidable (∃ r ∈ db.rows, _))

variable {t : Table} {id : Int} {name : String}

theorem holds_iff : (⟨some t⟩ : Database).Holds name ↔ (t.byName name).isSome = true := by
  rw [Table.byName_isSome_iff, List.mem_map]
  simp only [Holds, rows, bytesOf_inj]

theorem holdsBeside_iff :
    (⟨some t⟩ : Database).HoldsBeside id name ↔ t.isTaken id name = true := by
  simp only [HoldsBeside, rows, bytesOf_inj, Table.isTaken, List.any_eq_true, Bool.and_eq_true,
    decide_eq_true_eq]

theorem mem_ids_iff : id ∈ (⟨some t⟩ : Database).ids ↔ (t.byId id).isSome = true := by
  simp [ids, rows, Table.byId, List.find?_isSome]

/-! ### The verdicts -/

/-- What comes of adding a user: the first condition that holds decides. -/
def addVerdict (db : Database) (u : User) : Except Failure User × Database :=
  if u.id ≠ none then (.error (.validation "User is already persisted"), db)
  else if u.passwordHash = "" then (.error (.validation "Password hash must not be empty"), db)
  else if db.table = none then (.error (.database .noTable), db)
  else if db.faults.insertsFail then (.error (.database .aborted), db)
  else if db.faults.rivalsAppear ∨ db.Holds u.username then (.error (.conflict "Username"), db)
  else (.ok { u with id := some (db.lastId + 1) }, ⟨db.table.map (·.append u)⟩)

/-- What comes of updating a user: the first condition that holds decides. -/
def saveVerdict (db : Database) (u : User) : Except Failure User × Database :=
  match u.id with
  | none => (.error (.validation "User has not been persisted"), db)
  | some id =>
    if u.passwordHash = "" then (.error (.validation "Password hash must not be empty"), db)
    else if db.table = none then (.error (.database .noTable), db)
    else if id ∉ db.ids then (.error .notFound, db)
    else if db.faults.rowsVanish then (.error .notFound, ⟨db.table.map (·.erase id)⟩)
    else if db.faults.updatesFail then (.error (.database .aborted), db)
    else if db.HoldsBeside id u.username then (.error (.conflict "Username"), db)
    else (.ok u, ⟨db.table.map (·.replace (.ofUser id u))⟩)

/-- What comes of deleting a user: the first condition that holds decides. -/
def removeVerdict (db : Database) (id : Int) : Except Failure Unit × Database :=
  if db.table = none then (.error (.database .noTable), db)
  else if id ∉ db.ids then (.error .notFound, db)
  else (.ok (), ⟨db.table.map (·.erase id)⟩)

/-! ### The requests follow the verdicts -/

theorem checkNew_eq (u : User) :
    checkNew u =
      if u.id ≠ none then .error (.validation "User is already persisted")
      else if u.passwordHash = "" then .error (.validation "Password hash must not be empty")
      else .ok () := by
  unfold checkNew User.isStored User.checkStorable
  cases u.id with
  | some id => simp
  | none => by_cases hash : u.passwordHash = "" <;> simp [hash, Invalid.toFailure]

theorem checkStored_eq (u : User) (id : Int) (hid : u.id = some id) :
    checkStored u =
      if u.passwordHash = "" then .error (.validation "Password hash must not be empty")
      else .ok id := by
  rw [checkStored_of_some hid, User.checkStorable]
  by_cases hash : u.passwordHash = "" <;>
    simp [hash, Except.map, Invalid.toFailure]

theorem add_eq_verdict (db : Database) (u : User) : db.add u = db.addVerdict u := by
  rw [add, addVerdict, checkNew_eq]
  by_cases hid : u.id ≠ none
  · rw [if_pos hid, if_pos hid]
  by_cases hash : u.passwordHash = ""
  · rw [if_neg hid, if_neg hid, if_pos hash, if_pos hash]
  rw [if_neg hid, if_neg hid, if_neg hash, if_neg hash]
  obtain ⟨_ | t⟩ := db
  · rfl
  simp only [onTable, Table.insert]
  by_cases hfail : t.faults.insertsFail = true
  · simp [faults, hfail, Except.map, Failure.ofWrite]
  · by_cases hclash : t.faults.rivalsAppear = true ∨ (t.byName u.username).isSome = true
    · simp [faults, hfail, holds_iff, hclash, Except.map, Failure.ofWrite]
    · simp [faults, hfail, holds_iff, hclash, Except.map, lastId]

/-- The verdict on an update holds as long as no two faults meet it. -/
theorem save_eq_verdict {db : Database} (h : db.FaultsApart) (u : User) :
    db.save u = db.saveVerdict u := by
  rw [saveVerdict]
  cases hid : u.id with
  | none => simp only [save, checkStored_of_none hid]
  | some id =>
    rw [save, checkStored_eq u id hid]
    by_cases hash : u.passwordHash = ""
    · simp only [if_pos hash]
    simp only [if_neg hash]
    obtain ⟨_ | t⟩ := db
    · rfl
    cases hrow : t.byId id with
    | none => simp [onTable, hrow, mem_ids_iff]
    | some row =>
      have hu : (Row.ofUser id u).toUser = u := by rw [Row.toUser_ofUser, ← hid]
      have hidrow : (Row.ofUser id u).id = id := rfl
      have hname : (Row.ofUser id u).username = u.username := rfl
      simp only [onTable, hrow, Table.save, hidrow, hname]
      by_cases hvanish : t.faults.rowsVanish = true
      · have hfail : t.faults.updatesFail = false := by
          simpa [FaultsApart, faults, hvanish] using h
        simp [faults, hvanish, hfail, hrow, mem_ids_iff, Except.map, Failure.ofWrite]
      · by_cases hfail : t.faults.updatesFail = true
        · simp [faults, hvanish, hfail, hrow, mem_ids_iff, Except.map, Failure.ofWrite]
        · by_cases htaken : t.isTaken id u.username = true
          · simp [faults, hvanish, hfail, hrow, mem_ids_iff, holdsBeside_iff, htaken, Except.map,
              Failure.ofWrite]
          · simp [faults, hvanish, hfail, hrow, mem_ids_iff, holdsBeside_iff, htaken, Except.map,
              hu]

theorem remove_eq_verdict (db : Database) (id : Int) : db.remove id = db.removeVerdict id := by
  obtain ⟨_ | t⟩ := db
  · rfl
  · cases hrow : t.byId id with
    | none => simp [remove, removeVerdict, onTable, Table.remove, hrow, mem_ids_iff]
    | some row => simp [remove, removeVerdict, onTable, Table.remove, hrow, mem_ids_iff]

/-! ### Usernames that can be given -/

/-- A user can be added exactly if it is new and has a hash, the table is there and takes inserts,
and no row has its username. -/
theorem add_isOk_iff (db : Database) (u : User) :
    (∃ v, (db.add u).1 = .ok v) ↔
      u.id = none ∧ u.passwordHash ≠ "" ∧ db.table ≠ none ∧ db.faults.insertsFail = false ∧
        db.faults.rivalsAppear = false ∧ ¬ db.Holds u.username := by
  rw [add_eq_verdict, addVerdict]
  constructor
  · rintro ⟨v, hv⟩
    split_ifs at hv with hid hash htable hfail hclash
    rw [Bool.not_eq_true] at hfail
    rw [not_or, Bool.not_eq_true] at hclash
    exact ⟨not_not.1 hid, hash, htable, hfail, hclash.1, hclash.2⟩
  · rintro ⟨hid, hash, htable, hfail, hrival, hfree⟩
    exact ⟨_, by simp [hid, hash, htable, hfail, hrival, hfree]; rfl⟩

/-- Once a row is deleted, no row has its username. -/
theorem not_holds_erase (hs : t.Sound) {row : Row} (here : t.byId id = some row) :
    ¬ (⟨some (t.erase id)⟩ : Database).Holds row.username := by
  rintro ⟨r, hr, hname⟩
  have hkept : r ∈ t.rows ∧ r.id ≠ id := by simpa [rows, Table.erase] using hr
  have hsame : r = row :=
    List.inj_on_of_nodup_map hs.names_nodup hkept.1 (Table.mem_of_byId here) (bytesOf_inj.1 hname)
  exact hkept.2 (hsame ▸ Table.id_of_byId here)

/-- Once a row is given another username, no row has the one it had. -/
theorem not_holds_replace (hs : t.Sound) {row new : Row} (here : t.byId new.id = some row)
    (hname : new.username ≠ row.username) :
    ¬ (⟨some (t.replace new)⟩ : Database).Holds row.username := by
  rintro ⟨r, hr, hbytes⟩
  rw [bytesOf_inj] at hbytes
  rcases Table.mem_replace hr with rfl | ⟨hr, hid⟩
  · exact hname hbytes
  · have hsame : r = row :=
      List.inj_on_of_nodup_map hs.names_nodup hr (Table.mem_of_byId here) hbytes
    exact hid (hsame ▸ Table.id_of_byId here)

theorem stored_eq_some {db : Database} {u : User} (h : db.stored id = some u) :
    ∃ t row, db = ⟨some t⟩ ∧ t.byId id = some row ∧ row.username = u.username := by
  simp only [stored, Option.bind_eq_some_iff, Option.map_eq_some_iff] at h
  obtain ⟨t, ht, row, here, rfl⟩ := h
  obtain ⟨table⟩ := db
  subst ht
  exact ⟨t, row, rfl, here, rfl⟩

end Database

/-- **The first condition that holds decides a request**, as the verdicts list them.  A user can be
added exactly if it is new and has a hash, the table is there and takes inserts, and no row has its
username; and a username that a row had is free again once the row is deleted or renamed. -/
theorem requests_decided {db : Database} (hdb : db.Reachable) (apart : db.FaultsApart) :
    (∀ u, db.add u = db.addVerdict u) ∧
    (∀ u, db.save u = db.saveVerdict u) ∧
    (∀ id, db.remove id = db.removeVerdict id) ∧
    (∀ u, (∃ v, (db.add u).1 = .ok v) ↔
      u.id = none ∧ u.passwordHash ≠ "" ∧ db.table ≠ none ∧ db.faults.insertsFail = false ∧
        db.faults.rivalsAppear = false ∧ ¬ db.Holds u.username) ∧
    (∀ id old, db.stored id = some old → (db.remove id).1 = .ok () →
      ¬ (db.remove id).2.Holds old.username) ∧
    ∀ id old u v, db.stored id = some old → u.id = some id → u.username ≠ old.username →
      (db.save u).1 = .ok v → ¬ (db.save u).2.Holds old.username := by
  refine ⟨db.add_eq_verdict, Database.save_eq_verdict apart, db.remove_eq_verdict,
    db.add_isOk_iff, ?_, ?_⟩
  · intro id old hold hok
    obtain ⟨t, row, rfl, here, hname⟩ := Database.stored_eq_some hold
    rcases Database.remove_cases ⟨some t⟩ id with ⟨f, hf⟩ | ⟨t', row', ht, -, hr⟩
    · rw [hf] at hok
      cases hok
    · cases ht
      rw [hr, ← hname]
      exact Database.not_holds_erase (hdb.sound t rfl) here
  · intro id old u v hold hid hne hok
    obtain ⟨t, row, rfl, here, hname⟩ := Database.stored_eq_some hold
    rcases Database.save_cases ⟨some t⟩ u with ⟨f, hf, -⟩ | ⟨t', id', row', ht, -, -, hl⟩ |
      ⟨t', id', row', ht, hreach, -, -, hs⟩
    · rw [hf] at hok
      cases hok
    · rw [hl] at hok
      cases hok
    · cases ht
      obtain rfl : id' = id := Option.some.inj (hreach.stored.symm.trans hid)
      rw [hs, ← hname]
      exact Database.not_holds_replace (hdb.sound t rfl) here (hname ▸ hne)

/-- While rows vanish, an update to a name that is taken is still told that its row is not there,
and one of a row that was never there changes nothing. -/
theorem verdicts_while_rows_vanish :
    (Session.run {} (sampleRun.take 5)).FaultsApart ∧
    (Session.run {} (sampleRun.take 5)).save ⟨some 1, "bob", none, "third", noon⟩ =
      (.error .notFound, ⟨some (vanishingTable.erase 1)⟩) ∧
    (Session.run {} (sampleRun.take 5)).save ⟨some 9, "bob", none, "third", noon⟩ =
      (.error .notFound, ⟨some vanishingTable⟩) ∧
    ((Session.run {} (sampleRun.take 5)).add ⟨none, "bob", none, "third", noon⟩).1 =
      .error (.conflict "Username") ∧
    ((Session.run {} (sampleRun.take 5)).remove 2).1 = .ok () ∧
    ¬ ((Session.run {} (sampleRun.take 5)).remove 2).2.Holds "bob" := by
  have apart : (Session.run {} (sampleRun.take 5)).FaultsApart := by decide +kernel
  obtain ⟨hadd, hsave, hremove, -, hfree, -⟩ := requests_decided ⟨sampleRun.take 5, rfl⟩ apart
  have hdeleted : ((Session.run {} (sampleRun.take 5)).remove 2).1 = .ok () := by
    rw [hremove]
    decide +kernel
  refine ⟨apart, ?_, ?_, ?_, hdeleted, ?_⟩
  · rw [hsave]
    decide +kernel
  · rw [hsave]
    decide +kernel
  · rw [hadd]
    decide +kernel
  · exact hfree 2 ⟨some 2, "bob", none, "second", noon⟩ (by decide +kernel) hdeleted

end Accounts
