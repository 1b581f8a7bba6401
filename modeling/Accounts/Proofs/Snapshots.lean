import Accounts.Proofs.BirthDates
import Accounts.Snapshot

/-!
# Accounts.Proofs.Snapshots — a kept database reads back

The text of a record has no line break in it (`Json.newline_not_mem_compact`), so the lines of a
snapshot are its records (`Snapshot.linesOf_flatMap`), each of which reads back.  A database
therefore reads back with all it holds but its faults (`Snapshot.read?_write`), and one that runs of
the program have left has none of those (`Snapshot.kept_by_runs`).
-/

namespace Accounts

open Calendar Text

namespace Json

/-! ### Line breaks -/

/-- A line break inside a string is escaped. -/
theorem newline_not_mem_escape (c : Char) : '\n' ∉ escape c := by
  intro hmem
  rw [escape] at hmem
  split at hmem
  · next letter hletter =>
    have hback := (ofShortEscape?_shortEscape? hletter).1
    simp only [List.mem_cons, List.not_mem_nil, or_false] at hmem
    obtain hslash | rfl := hmem
    · exact absurd hslash (by decide)
    · cases hback
  · next hnone =>
    have hdigit : ∀ n < 16, Nat.digitChar n ≠ '\n' := by decide
    split_ifs at hmem with hcontrol
    · have hhigh := hdigit (c.toNat / 16) (by omega)
      have hlow := hdigit (c.toNat % 16) (by omega)
      simp [hhigh.symm, hlow.symm] at hmem
    · rw [List.mem_singleton] at hmem
      subst hmem
      cases hnone

theorem newline_not_mem_quote (cs : List Char) : '\n' ∉ quote cs := by
  simp [quote, newline_not_mem_escape]

theorem newline_not_mem_digits (n : Nat) : '\n' ∉ digits n :=
  fun hmem => absurd (isDigit_of_mem_digits hmem) (by decide)

theorem newline_not_mem_scalar (v : Scalar) : '\n' ∉ v.toChars := by
  cases v with
  | null => decide
  | number n =>
    cases n with
    | ofNat n => exact newline_not_mem_digits n
    | negSucc n =>
      refine List.not_mem_cons_of_ne_of_not_mem (by decide) ?_
      exact newline_not_mem_digits (n + 1)
  | text s => exact newline_not_mem_quote s.toList

/-- A compact record stands on one line. -/
theorem newline_not_mem_compact (r : Record) : '\n' ∉ r.compact := by
  have hmember : ∀ member, '\n' ∉ Record.memberChars [':'] member := by
    intro member
    simp [Record.memberChars, newline_not_mem_quote, newline_not_mem_scalar]
  have hmembers : '\n' ∉ [','].intercalate (r.map (Record.memberChars [':'])) := by
    induction r with
    | nil => exact List.not_mem_nil
    | cons member r ih =>
      cases r with
      | nil => simpa using hmember member
      | cons next r =>
        simp only [List.map_cons, List.intercalate_cons_cons, List.mem_append, not_or] at ih ⊢
        exact ⟨⟨hmember member, by decide⟩, ih⟩
  simp [Record.compact, hmembers]

/-- A compact record with members reads back. -/
theorem read?_compact {r : Record} (h : r ≠ []) : Record.read? r.compact = some r := by
  rw [compact_eq, compactLayout_sound.read?_chars h]

end Json

theorem Database.clearFaults_of_faults {db : Database} (h : db.faults = {}) :
    db.clearFaults = db := by
  obtain ⟨_ | ⟨rows, lastId, faults⟩⟩ := db
  · rfl
  · cases h
    rfl

namespace Snapshot

open Json

/-! ### Lines -/

/-- Lines that hold something are found again. -/
theorem linesOf_flatMap {lines : List (List Char)} (h : ∀ line ∈ lines, line ≠ [] ∧ '\n' ∉ line) :
    linesOf (lines.flatMap (· ++ ['\n'])) = lines := by
  induction lines with
  | nil => rfl
  | cons line lines ih =>
    obtain ⟨⟨hne, hbreak⟩, hlines⟩ := List.forall_mem_cons.1 h
    have hkeep : (!line.isEmpty) = true := by simpa using hne
    rw [List.flatMap_cons, List.append_assoc, List.singleton_append, linesOf,
      List.splitOn_append_cons_self_of_not_mem hbreak, List.filter_cons, if_pos hkeep]
    exact congrArg (line :: ·) (ih hlines)

theorem linesOf_records (rs : List Record) :
    linesOf (rs.flatMap lineOf) = rs.map Record.compact := by
  have hlines : rs.flatMap lineOf = (rs.map Record.compact).flatMap (· ++ ['\n']) := by
    rw [List.flatMap_map]
    rfl
  rw [hlines]
  refine linesOf_flatMap fun line hline => ?_
  obtain ⟨r, -, rfl⟩ := List.mem_map.1 hline
  exact ⟨List.cons_ne_nil _ _, newline_not_mem_compact r⟩

/-! ### Rows and tables -/

theorem row?_rowRecord (r : Row) : row? (rowRecord r) = some r := by
  simp [row?, rowRecord, Scalar.date?_ofDate, Timestamp.read?_toString]

/-- A row reads back from its line. -/
theorem read?_row (r : Row) : (Record.read? (rowRecord r).compact).bind row? = some r := by
  have hread : Record.read? (rowRecord r).compact = some (rowRecord r) :=
    read?_compact (List.cons_ne_nil _ _)
  rw [hread, Option.bind_some, row?_rowRecord]

/-- The last identifier reads back from the first line. -/
theorem read?_head (t : Table) :
    (Record.read? (headRecord t).compact).bind lastId? = some t.lastId := by
  have hread : Record.read? (headRecord t).compact = some (headRecord t) :=
    read?_compact (List.cons_ne_nil _ _)
  rw [hread, Option.bind_some]
  rfl

theorem read?_rows (rs : List Row) :
    ((rs.map rowRecord).map Record.compact).mapM
        (fun line => (Record.read? line).bind row?) = some rs := by
  induction rs with
  | nil => rfl
  | cons r rs ih =>
    rw [List.map_cons, List.map_cons, List.mapM_cons, read?_row, ih]
    rfl

/-- **A database reads back from its text** with every row, in order, and with the identifier that
was assigned last; only its faults are gone. -/
theorem read?_write (db : Database) : read? (write db) = some db.clearFaults := by
  obtain ⟨_ | t⟩ := db
  · rfl
  · have hlines := linesOf_records (headRecord t :: t.rows.map rowRecord)
    rw [List.map_cons] at hlines
    simp only [read?, write, String.toList_ofList, hlines, read?_head, read?_rows]
    rfl

/-- **What runs of the program leave reads back whole**, as no fault meets it. -/
theorem kept_by_runs (runs : List Invocation) {name : String} {db : Database}
    (h : (Invocation.diskAfter [] runs).get? name = some db) : read? (write db) = some db := by
  obtain ⟨-, hfaults⟩ := Invocation.diskAfter_calm Disk.calm_nil runs name db h
  rw [read?_write, Database.clearFaults_of_faults hfaults]

end Snapshot

end Accounts
