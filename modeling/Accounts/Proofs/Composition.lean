import Accounts.Proofs.SingleRow

/-!
# Accounts.Proofs.Composition — two updates in one

`Changes.merge` lists what two updates set between them, where the later one wins.  If one update
and then another go through, the merged update goes through as well, with the same user and the same
table at the end (`updates_compose`): the merged user is the last one that was written, so what let
it pass then lets it pass at once.
-/

namespace Accounts

open Calendar

namespace Changes

/-- What the two list between them; where both set a field, `c₂` counts. -/
def merge (c₁ c₂ : Changes) : Changes :=
  ⟨c₂.username.or c₁.username, c₂.birthDate.or c₁.birthDate, c₂.passwordHash.or c₁.passwordHash⟩

/-! ### Changes of a user -/

theorem change_merge (u : User) (c₁ c₂ : Changes) :
    u.change (c₁.merge c₂) = (u.change c₁).change c₂ := by
  simp only [User.change, merge, Option.getD_or]

theorem change_change (u : User) (c : Changes) : (u.change c).change c = u.change c := by
  obtain ⟨username, birthDate, passwordHash⟩ := c
  cases username <;> cases birthDate <;> cases passwordHash <;> rfl

/-- Changes are empty exactly if they leave every user as it is. -/
theorem isEmpty_iff_change {c : Changes} : c.isEmpty = true ↔ ∀ u : User, u.change c = u := by
  rw [isEmpty_iff]
  constructor
  · rintro rfl u
    rfl
  · intro h
    obtain ⟨username, birthDate, passwordHash⟩ := c
    -- a user that has none of the fields as they would be set
    have hchanged := h ⟨none, username.getD "" ++ "'", if birthDate = some none then
      some noon.date else none, passwordHash.getD "" ++ "'", noon⟩
    simp only [User.change, User.mk.injEq, true_and, and_true] at hchanged
    obtain ⟨hname, hdate, hhash⟩ := hchanged
    have apart : ∀ {a : Option String},
        a.getD (a.getD "" ++ "'") = a.getD "" ++ "'" → a = none := by
      intro a ha
      cases a with
      | none => rfl
      | some s =>
        have hlength := congrArg String.length ha
        simp at hlength
    have hkept : birthDate = none := by
      rcases birthDate with _ | _ | d
      · rfl
      · simp at hdate
      · simp at hdate
    rw [apart hname, apart hhash, hkept]

/-! ### Changes of a row -/

variable {c c₁ c₂ : Changes} {faults : Faults} {taken : String → Bool} {row : Row} {u u₁ u₂ : User}

/-- The row that a change leaves, if it goes through. -/
theorem state_of_onRow (h : (c.onRow faults taken (some row)).result = .ok u) :
    (c.onRow faults taken (some row)).state = some (.ofUser row.id u) := by
  obtain ⟨_, ⟨⟩, rfl, hwritable⟩ := writable_of_onRow h
  exact (onRow_of_writable hwritable).2

/-- Two changes of a row that go through one after the other go through as one. -/
theorem onRow_merge (h₁ : (c₁.onRow faults taken (some row)).result = .ok u₁)
    (h₂ : (c₂.onRow faults taken (some (.ofUser row.id u₁))).result = .ok u₂) :
    ((c₁.merge c₂).onRow faults taken (some row)).result = .ok u₂ := by
  obtain ⟨_, ⟨⟩, rfl, hfirst⟩ := writable_of_onRow h₁
  obtain ⟨_, ⟨⟩, rfl, hsecond⟩ := writable_of_onRow h₂
  have hrow : (Row.ofUser row.id (row.toUser.change c₁)).toUser = row.toUser.change c₁ := rfl
  rw [hrow] at hsecond ⊢
  rw [← change_merge] at hsecond ⊢
  refine (onRow_of_writable fun hne => ?_).1
  by_cases hempty : c₂ = {}
  · -- then the first change wrote the user
    subst hempty
    exact hfirst hne
  · exact hsecond hempty

/-- A change of a row that goes through once goes through again. -/
theorem onRow_again (h : (c.onRow faults taken (some row)).result = .ok u) :
    (c.onRow faults taken (some (.ofUser row.id u))).result = .ok u := by
  obtain ⟨_, ⟨⟩, rfl, hwritable⟩ := writable_of_onRow h
  have hrow : (Row.ofUser row.id (row.toUser.change c)).toUser.change c = row.toUser.change c :=
    change_change row.toUser c
  rw [← hrow] at hwritable
  rw [(onRow_of_writable hwritable).1, hrow]

end Changes

/-! ### Updates of an account -/

/-- An update that goes through finds its row, and writes what the change of this row makes. -/
theorem Service.row_of_change {t : Table} (hs : t.Sound) {id : Int} {c : Changes} {u : User}
    (h : ((change id c).run Database.store ⟨some t⟩).result = .ok u) :
    ∃ row, t.byId id = some row ∧ row.id = id ∧
      (c.onRow t.faults (t.isTaken id) (some row)).result = .ok u ∧
      ((change id c).run Database.store ⟨some t⟩).state =
        ⟨some (t.put id (some (.ofUser id u)))⟩ := by
  rw [change_run hs, Outcome.inTable] at h ⊢
  obtain ⟨row, hrow, -, -⟩ := Changes.writable_of_onRow h
  rw [hrow] at h ⊢
  obtain rfl : row.id = id := Table.id_of_byId hrow
  exact ⟨row, rfl, rfl, h, by rw [Changes.state_of_onRow h]⟩

/-- **Updates compose.**  If one update of an account and then another go through, so does the
update that merges them, with the same user and the same table at the end; and an update that went
through goes through again and then changes nothing.  Changes are empty exactly if they leave every
user as it is, and none touch the identifier or the moment of creation. -/
theorem updates_compose {db : Database} (hdb : db.Reachable) (id : Int) (c₁ c₂ : Changes) :
    let update (c : Changes) (db : Database) := (Service.change id c).run Database.store db
    (∀ u₁ u₂, (update c₁ db).result = .ok u₁ →
      (update c₂ (update c₁ db).state).result = .ok u₂ →
      (update (c₁.merge c₂) db).result = .ok u₂ ∧
        (update (c₁.merge c₂) db).state = (update c₂ (update c₁ db).state).state) ∧
    (∀ u, (update c₁ db).result = .ok u →
      (update c₁ (update c₁ db).state).result = .ok u ∧
        (update c₁ (update c₁ db).state).state = (update c₁ db).state) ∧
    (c₁.isEmpty = true ↔ ∀ u : User, u.change c₁ = u) ∧
    ∀ u : User, (u.change c₁).id = u.id ∧ (u.change c₁).createdAt = u.createdAt := by
  intro update
  -- what a second update does, once a first one went through
  have hagain : ∀ {u₁}, (update c₁ db).result = .ok u₁ → ∃ t row, db = ⟨some t⟩ ∧ t.Sound ∧
      t.byId id = some row ∧ row.id = id ∧
      (c₁.onRow t.faults (t.isTaken id) (some row)).result = .ok u₁ ∧
      (update c₁ db).state = ⟨some (t.put id (some (.ofUser id u₁)))⟩ ∧
      ∀ c, update c (update c₁ db).state =
        (c.onRow t.faults (t.isTaken id) (some (.ofUser id u₁))).inTable t id := by
    intro u₁ h₁
    obtain ⟨_ | t⟩ := db
    · cases h₁
    · have hs : t.Sound := hdb.sound t rfl
      obtain ⟨row, hrow, hid, hon, hstate⟩ := Service.row_of_change hs h₁
      refine ⟨t, row, rfl, hs, hrow, hid, hon, hstate, fun c => ?_⟩
      have hput := hdb.sound.run (Service.change id c₁) _ (congrArg Database.table hstate)
      exact (congrArg (update c) hstate).trans (Service.change_run_put hput hrow rfl c)
  refine ⟨?_, ?_, Changes.isEmpty_iff_change, fun u => ⟨rfl, rfl⟩⟩
  · intro u₁ u₂ h₁ h₂
    obtain ⟨t, row, rfl, hs, hrow, rfl, hon₁, -, hsecond⟩ := hagain h₁
    rw [hsecond] at h₂ ⊢
    have hmerged := Changes.onRow_merge hon₁ h₂
    have hrun : update (c₁.merge c₂) ⟨some t⟩ = _ := Service.change_run hs row.id (c₁.merge c₂)
    rw [hrun, hrow, Outcome.inTable, Outcome.inTable, Changes.state_of_onRow hmerged,
      Changes.state_of_onRow h₂]
    exact ⟨hmerged, rfl⟩
  · intro u h
    obtain ⟨t, row, rfl, hs, hrow, rfl, hon, hstate, hsecond⟩ := hagain h
    have honce := Changes.onRow_again hon
    rw [hsecond, hstate, Outcome.inTable, Changes.state_of_onRow honce]
    exact ⟨honce, rfl⟩

/-- The account gets a new name, a birth date and a new hash. -/
def firstUpdate : Changes :=
  ⟨some "robert", some (some noon.date), some "fifth"⟩

/-- The account gets its old name back and loses the birth date. -/
def secondUpdate : Changes :=
  ⟨some "bob", some none, none⟩

/-- Of both updates as one, only the hash is left to be seen. -/
theorem merged_updates_of_sampleRun :
    ((Service.change 2 firstUpdate).run Database.store (Session.run {} sampleRun)).result =
      .ok ⟨some 2, "robert", some noon.date, "fifth", noon⟩ ∧
    ((Service.change 2 (firstUpdate.merge secondUpdate)).run Database.store
      (Session.run {} sampleRun)).result = .ok ⟨some 2, "bob", none, "fifth", noon⟩ ∧
    ((Service.change 2 (firstUpdate.merge secondUpdate)).run Database.store
      (Session.run {} sampleRun)).state = ⟨some { sampleTable with
        rows := [⟨2, "bob", none, "fifth", noon⟩, ⟨3, "alice", none, "fourth", noon⟩] }⟩ := by
  obtain ⟨hmerge, -⟩ := updates_compose ⟨sampleRun, rfl⟩ 2 firstUpdate secondUpdate
  have hfirst : ((Service.change 2 firstUpdate).run Database.store
      (Session.run {} sampleRun)).result =
        .ok ⟨some 2, "robert", some noon.date, "fifth", noon⟩ := by decide +kernel
  obtain ⟨hresult, hstate⟩ := hmerge _ ⟨some 2, "bob", none, "fifth", noon⟩ hfirst
    (by decide +kernel)
  refine ⟨hfirst, hresult, ?_⟩
  rw [hstate]
  decide +kernel

end Accounts
