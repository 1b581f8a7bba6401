import Accounts.Table
import Mathlib.Data.List.Nodup

/-!
# Accounts.Proofs.Rows — the rows of a sound table

`Table.Sound` says that identifiers and usernames are distinct, that identifiers were counted from
1, and that no password hash is empty.  Every elementary change of a table keeps it
(`Sound.append`, `Sound.replace`, `Sound.erase`), and in a sound table a row is found by its
identifier or its username exactly if it is there.
-/

namespace Accounts

namespace Table

/-- The rows are told apart by identifier and by username, and are fit to be stored. -/
structure Sound (t : Table) : Prop where
  ids_nodup : (t.rows.map Row.id).Nodup
  id_range : ∀ r ∈ t.rows, 1 ≤ r.id ∧ r.id ≤ t.lastId
  names_nodup : (t.rows.map Row.username).Nodup
  hash_ne : ∀ r ∈ t.rows, r.passwordHash ≠ ""

variable {t : Table}

/-! ### Looking rows up -/

theorem byId_eq_none_iff {id : Int} : t.byId id = none ↔ ∀ r ∈ t.rows, r.id ≠ id := by
  simp [byId, List.find?_eq_none]

theorem byName_eq_none_iff {name : String} :
    t.byName name = none ↔ ∀ r ∈ t.rows, r.username ≠ name := by
  simp [byName, List.find?_eq_none]

theorem byName_isSome_iff {name : String} :
    (t.byName name).isSome ↔ name ∈ t.rows.map Row.username := by
  simp [byName]

theorem isTaken_eq_false_iff {id : Int} {name : String} :
    t.isTaken id name = false ↔ ∀ r ∈ t.rows, r.username = name → r.id = id := by
  simp only [isTaken, List.any_eq_false, Bool.and_eq_true, decide_eq_true_eq, not_and]
  constructor
  · intro h r hr hn
    by_contra hid
    exact h r hr hid hn
  · intro h r hr hid hn
    exact hid (h r hr hn)

/-- With distinct keys, the row that is found for a key is the row that has it. -/
theorem find?_eq_some_iff_of_nodup {κ : Type} [DecidableEq κ] {key : Row → κ} {rows : List Row}
    (h : (rows.map key).Nodup) {k : κ} {r : Row} :
    rows.find? (fun r => key r = k) = some r ↔ r ∈ rows ∧ key r = k := by
  constructor
  · intro hr
    exact ⟨List.mem_of_find?_eq_some hr, by simpa using List.find?_some hr⟩
  · rintro ⟨hr, rfl⟩
    have hsome : (rows.find? fun s => key s = key r).isSome := by
      rw [List.find?_isSome]
      exact ⟨r, hr, by simp⟩
    obtain ⟨s, hs⟩ := Option.isSome_iff_exists.1 hsome
    have hkey : key s = key r := by simpa using List.find?_some hs
    rw [hs, List.inj_on_of_nodup_map h (List.mem_of_find?_eq_some hs) hr hkey]

theorem Sound.byId_eq_some_iff (h : t.Sound) {id : Int} {r : Row} :
    t.byId id = some r ↔ r ∈ t.rows ∧ r.id = id :=
  find?_eq_some_iff_of_nodup h.ids_nodup

theorem Sound.byName_eq_some_iff (h : t.Sound) {name : String} {r : Row} :
    t.byName name = some r ↔ r ∈ t.rows ∧ r.username = name :=
  find?_eq_some_iff_of_nodup h.names_nodup

/-- No row has the identifier that is assigned next, nor a later one. -/
theorem Sound.byId_eq_none_of_lt (h : t.Sound) {id : Int} (hid : t.lastId < id) :
    t.byId id = none := by
  rw [byId_eq_none_iff]
  intro r hr he
  have := (h.id_range r hr).2
  omega

/-! ### Elementary changes -/

theorem sound_empty (faults : Faults) : ({ faults } : Table).Sound :=
  ⟨List.nodup_nil, by simp, List.nodup_nil, by simp⟩

theorem Sound.setFaults (h : t.Sound) (faults : Faults) : ({ t with faults } : Table).Sound :=
  ⟨h.ids_nodup, h.id_range, h.names_nodup, h.hash_ne⟩

/-- A new user whose name is free and whose hash is not empty may be added. -/
theorem Sound.append (h : t.Sound) {u : User} (hash : u.passwordHash ≠ "")
    (free : t.byName u.username = none) : (t.append u).Sound where
  ids_nodup := by
    simp only [Table.append, List.map_append, List.map_cons, List.map_nil, Row.ofUser]
    rw [List.nodup_append]
    refine ⟨h.ids_nodup, by simp, ?_⟩
    intro id hid next hnext
    obtain ⟨r, hr, rfl⟩ := List.mem_map.1 hid
    have hle := (h.id_range r hr).2
    rw [List.mem_singleton.1 hnext]
    omega
  id_range := by
    intro r hr
    simp only [Table.append, List.mem_append, List.mem_singleton] at hr ⊢
    rcases hr with hr | rfl
    · have := h.id_range r hr
      omega
    · simp only [Row.ofUser]
      omega
  names_nodup := by
    simp only [Table.append, List.map_append, List.map_cons, List.map_nil, Row.ofUser]
    rw [List.nodup_append]
    refine ⟨h.names_nodup, by simp, ?_⟩
    intro name hname new hnew
    obtain ⟨r, hr, rfl⟩ := List.mem_map.1 hname
    rw [List.mem_singleton.1 hnew]
    exact byName_eq_none_iff.1 free r hr
  hash_ne := by
    intro r hr
    simp only [Table.append, List.mem_append, List.mem_singleton] at hr
    rcases hr with hr | rfl
    · exact h.hash_ne r hr
    · exact hash

theorem map_id_replace (t : Table) (row : Row) :
    (t.replace row).rows.map Row.id = t.rows.map Row.id := by
  simp only [replace, List.map_map]
  apply List.map_congr_left
  intro r _
  by_cases hr : r.id = row.id <;> simp [hr]

theorem mem_replace {row r : Row} (hr : r ∈ (t.replace row).rows) :
    r = row ∨ r ∈ t.rows ∧ r.id ≠ row.id := by
  simp only [replace, List.mem_map] at hr
  obtain ⟨s, hs, rfl⟩ := hr
  by_cases he : s.id = row.id
  · simp [he]
  · simp [he, hs]

/-- The row of an identifier may be written over, if no other row has the new name. -/
theorem Sound.replace (h : t.Sound) {row old : Row} (here : t.byId row.id = some old)
    (hash : row.passwordHash ≠ "") (free : t.isTaken row.id row.username = false) :
    (t.replace row).Sound where
  ids_nodup := by
    rw [map_id_replace]
    exact h.ids_nodup
  id_range := by
    intro r hr
    rcases mem_replace hr with rfl | ⟨hr, -⟩
    · have := h.id_range old (mem_of_byId here)
      rwa [id_of_byId here] at this
    · exact h.id_range r hr
  names_nodup := by
    have hids : t.rows.Pairwise fun r s => r.id ≠ s.id := List.pairwise_map.1 h.ids_nodup
    have hnames : t.rows.Pairwise fun r s => r.username ≠ s.username :=
      List.pairwise_map.1 h.names_nodup
    have hfree := isTaken_eq_false_iff.1 free
    simp only [Table.replace, List.map_map]
    -- only a pair with the rewritten row needs the name to be free
    refine List.pairwise_map.2 ((hids.and hnames).imp_of_mem ?_)
    rintro r s hr hs ⟨hid, hname⟩
    by_cases hrow : r.id = row.id
    · have hsrow : s.id ≠ row.id := fun e => hid (hrow.trans e.symm)
      simp only [Function.comp_apply, if_pos hrow, if_neg hsrow]
      intro e
      exact hsrow (hfree s hs e.symm)
    · by_cases hsrow : s.id = row.id
      · simp only [Function.comp_apply, if_neg hrow, if_pos hsrow]
        intro e
        exact hrow (hfree r hr e)
      · simpa [hrow, hsrow] using hname
  hash_ne := by
    intro r hr
    rcases mem_replace hr with rfl | ⟨hr, -⟩
    · exact hash
    · exact h.hash_ne r hr

theorem erase_sublist (t : Table) (id : Int) : (t.erase id).rows.Sublist t.rows :=
  List.filter_sublist

/-- Any row may be deleted. -/
theorem Sound.erase (h : t.Sound) (id : Int) : (t.erase id).Sound where
  ids_nodup := h.ids_nodup.sublist ((erase_sublist t id).map _)
  id_range := fun r hr => h.id_range r ((erase_sublist t id).subset hr)
  names_nodup := h.names_nodup.sublist ((erase_sublist t id).map _)
  hash_ne := fun r hr => h.hash_ne r ((erase_sublist t id).subset hr)

/-- The row of an identifier stands among rows of other identifiers. -/
theorem Sound.split (h : t.Sound) {id : Int} {row : Row} (here : t.byId id = some row) :
    ∃ front back, t.rows = front ++ row :: back ∧ (∀ r ∈ front, r.id ≠ id) ∧
      ∀ r ∈ back, r.id ≠ id := by
  obtain ⟨hrow, hid⟩ := h.byId_eq_some_iff.1 here
  obtain ⟨front, back, hrows⟩ := List.append_of_mem hrow
  have hnodup := h.ids_nodup
  rw [hrows, List.map_append, List.map_cons, List.nodup_middle, List.nodup_cons,
    List.mem_append, not_or, hid] at hnodup
  obtain ⟨⟨hfront, hback⟩, -⟩ := hnodup
  exact ⟨front, back, hrows, fun r hr e => hfront (e ▸ List.mem_map_of_mem hr),
    fun r hr e => hback (e ▸ List.mem_map_of_mem hr)⟩

/-- Deleting by identifier takes exactly one row out and leaves the others in their order. -/
theorem Sound.erase_eq (h : t.Sound) {id : Int} {row : Row} (here : t.byId id = some row) :
    ∃ front back, t.rows = front ++ row :: back ∧
      t.erase id = { t with rows := front ++ back } := by
  obtain ⟨front, back, hrows, hfront, hback⟩ := h.split here
  refine ⟨front, back, hrows, ?_⟩
  have hkeep : ∀ l : List Row, (∀ r ∈ l, r.id ≠ id) → l.filter (fun r => r.id ≠ id) = l := by
    intro l hl
    rw [List.filter_eq_self]
    intro r hr
    simpa using hl r hr
  have hdrop : (row :: back).filter (fun r => r.id ≠ id) = back := by
    rw [List.filter_cons_of_neg (by simp [id_of_byId here]), hkeep back hback]
  rw [Table.erase, hrows, List.filter_append, hkeep front hfront, hdrop]

/-- Writing over a row changes exactly this one and leaves all in their order. -/
theorem Sound.replace_eq (h : t.Sound) {row old : Row} (here : t.byId row.id = some old) :
    ∃ front back, t.rows = front ++ old :: back ∧
      t.replace row = { t with rows := front ++ row :: back } := by
  obtain ⟨front, back, hrows, hfront, hback⟩ := h.split here
  refine ⟨front, back, hrows, ?_⟩
  have hkeep : ∀ l : List Row, (∀ r ∈ l, r.id ≠ row.id) →
      l.map (fun r => if r.id = row.id then row else r) = l := by
    intro l hl
    rw [List.map_congr_left fun r hr => if_neg (hl r hr), List.map_id']
  rw [Table.replace, hrows, List.map_append, List.map_cons, hkeep front hfront, hkeep back hback,
    if_pos (id_of_byId here)]

end Table

end Accounts
