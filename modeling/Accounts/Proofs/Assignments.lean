import Accounts.DotEnv
import Mathlib.Tactic.Common

/-!
# Accounts.Proofs.Assignments — what an assignment file sets

The variables that a file sets become part of the environment while it is read, so that a value may
mention them.  Seen from the outside, the environment is fixed and the file makes a list of
assignments (`assignments`).  Once the file is read, a variable has the text that it had before, or
else that of its first assignment (`text?_load?`).  A file of simple lines `NAME=value` is always
read, and makes exactly these assignments (`assignmentsOf_written`, `load?_written`).
-/

namespace Accounts

namespace Environment

theorem text?_set (env : Environment) (name value : String) :
    (env.set name (.text value)).text? name = some value := by
  rw [text?, get?_set]
  rfl

theorem text?_set_of_ne (env : Environment) {name other : String} (value : Word)
    (h : other ≠ name) : (env.set name value).text? other = env.text? other := by
  rw [text?, get?_set_of_ne env value h, text?]

end Environment

namespace DotEnv

open Text

/-- The assignments `before` and those of the lines, in their order.  A value may mention variables
of the environment and variables that are assigned earlier, whose first assignment counts. -/
def assignments (env : Environment) (before : List (String × String)) :
    List Line → List (String × String)
  | [] => before
  | .unfinished :: _ => before
  | .torn :: _ => before
  | .text line :: rest =>
    match Reading.ofLine (valueIn env before) line with
    | .nothing => assignments env before rest
    | .unreadable => before
    | .assignment name value => assignments env (before ++ [(name, value)]) rest

/-- The assignments of an assignment file. -/
def assignmentsOf (env : Environment) (file : String) : List (String × String) :=
  assignments env [] (lines file)

/-! ### Reading while the environment grows -/

/-- Part of a file is read: it made the assignments `before` and turned `env` into `now`, while the
reader collected `assigned`. -/
structure Progress (env : Environment) (before : List (String × String)) (now : Environment)
    (assigned : List (String × String)) : Prop where
  text? : ∀ name, now.text? name = (env.text? name).or (before.lookup name)
  covers : ∀ name, now.text? name = none → assigned.lookup name = none

variable {env now env' : Environment} {before assigned : List (String × String)}

theorem Progress.start (env : Environment) : Progress env [] env [] where
  text? name := by rw [List.lookup_nil, Option.or_none]
  covers _ _ := rfl

/-- What a value may mention does not depend on how far the environment has grown. -/
theorem Progress.valueIn_eq (h : Progress env before now assigned) :
    valueIn now assigned = valueIn env before := by
  funext name
  unfold valueIn
  rw [← h.text? name]
  cases hnow : now.text? name with
  | none => rw [h.covers name hnow, Option.or_none]
  | some s => rw [Option.some_or]

theorem lookup_singleton_of_ne {name other : String} (value : String) (h : other ≠ name) :
    [(name, value)].lookup other = none := by
  simp [List.lookup_cons, beq_false_of_ne h]

/-- A variable that has a text keeps it. -/
theorem Progress.keep (h : Progress env before now assigned) {name : String} (value : String)
    (hset : (now.text? name).isSome) :
    Progress env (before ++ [(name, value)]) now ((name, value) :: assigned) where
  text? other := by
    rw [List.lookup_append, ← Option.or_assoc, ← h.text? other]
    by_cases hother : other = name
    · subst hother
      rw [Option.or_of_isSome hset]
    · rw [lookup_singleton_of_ne value hother, Option.or_none]
  covers other hnone := by
    have hother : other ≠ name := by
      rintro rfl
      rw [hnone] at hset
      cases hset
    rw [List.lookup_cons, beq_false_of_ne hother]
    exact h.covers other hnone

/-- A variable without a text takes the assigned one. -/
theorem Progress.set (h : Progress env before now assigned) {name : String} (value : String)
    (hunset : now.text? name = none) :
    Progress env (before ++ [(name, value)]) (now.set name (.text value))
      ((name, value) :: assigned) where
  text? other := by
    rw [List.lookup_append, ← Option.or_assoc, ← h.text? other]
    by_cases hother : other = name
    · subst hother
      rw [Environment.text?_set, hunset, Option.none_or, List.lookup_cons_self]
    · rw [Environment.text?_set_of_ne now _ hother, lookup_singleton_of_ne value hother,
        Option.or_none]
  covers other hnone := by
    by_cases hother : other = name
    · subst hother
      rw [Environment.text?_set] at hnone
      cases hnone
    · rw [Environment.text?_set_of_ne now _ hother] at hnone
      rw [List.lookup_cons, beq_false_of_ne hother]
      exact h.covers other hnone

theorem Progress.text?_fill? {ls : List Line} (h : Progress env before now assigned)
    (hfill : fill? now assigned ls = some env') (name : String) :
    env'.text? name = (env.text? name).or ((assignments env before ls).lookup name) := by
  -- on the lines that are left; `Progress` holds at each of them
  induction ls generalizing before now assigned with
  | nil =>
    cases hfill
    exact h.text? name
  | cons l rest ih =>
    cases l with
    | unfinished =>
      cases hfill
      exact h.text? name
    | torn => cases hfill
    | text line =>
      cases hread : Reading.ofLine (valueIn env before) line with
      | nothing =>
        simp only [fill?, h.valueIn_eq, hread] at hfill
        simp only [assignments, hread]
        exact ih h hfill
      | unreadable =>
        simp only [fill?, h.valueIn_eq, hread] at hfill
        simp only [assignments, hread]
        cases hfill
        exact h.text? name
      | assignment target value =>
        simp only [fill?, h.valueIn_eq, hread] at hfill
        simp only [assignments, hread]
        split_ifs at hfill with hset hnul
        · exact ih (h.keep value hset) hfill
        · exact ih (h.set value (by simpa using hset)) hfill

/-- **What an assignment file sets.** -/
theorem text?_load? {file : String} (h : load? file env = some env') (name : String) :
    env'.text? name = (env.text? name).or ((assignmentsOf env file).lookup name) :=
  (Progress.start env).text?_fill? h name

/-! ### Simple lines -/

/-- A character that stands for itself in a value. -/
def IsBare (c : Char) : Prop :=
  isBlank c = false ∧ c ∉ ['\'', '"', '\\', '$', '#', '\x00']

instance (c : Char) : Decidable (IsBare c) :=
  inferInstanceAs (Decidable (_ ∧ _))

/-- The assignment can be written as it is: its name is made of the characters of a name and its
value of characters that stand for themselves. -/
structure IsSimple (a : String × String) : Prop where
  start : ∃ c ∈ a.1.toList.head?, startsName c = true
  name : ∀ c ∈ a.1.toList, continuesName c = true
  value : ∀ c ∈ a.2.toList, IsBare c

theorem isSimple_iff {a : String × String} : IsSimple a ↔
    a.1.toList.head?.any startsName = true ∧ a.1.toList.all continuesName = true ∧
      (a.2.toList.all fun c => decide (IsBare c)) = true := by
  simp only [Option.any_eq_true, List.all_eq_true, decide_eq_true_eq]
  exact ⟨fun h => ⟨h.start, h.name, h.value⟩, fun h => ⟨h.1, h.2.1, h.2.2⟩⟩

/-- The characters are tested one after the other. -/
instance (a : String × String) : Decidable (IsSimple a) :=
  decidable_of_iff _ isSimple_iff.symm

/-- The line of an assignment. -/
def lineOf (a : String × String) : List Char :=
  a.1.toList ++ '=' :: a.2.toList

/-- The file with a line for each assignment. -/
def written (as : List (String × String)) : String :=
  String.ofList (as.flatMap fun a => lineOf a ++ ['\n'])

/-- A character that neither ends a line nor starts a quote, an escape or a comment there. -/
def IsQuiet (c : Char) : Prop :=
  isBlank c = false ∧ c ∉ ['\'', '"', '\\']

instance (c : Char) : Decidable (IsQuiet c) :=
  inferInstanceAs (Decidable (_ ∧ _))

theorem IsBare.isQuiet {c : Char} (h : IsBare c) : IsQuiet c := by
  refine ⟨h.1, fun hmem => h.2 ?_⟩
  exact List.mem_append_left ['$', '#', '\x00'] hmem

theorem isAlpha_bounds {c : Char} (h : c.isAlpha = true) :
    (65 ≤ c.toNat ∧ c.toNat ≤ 90) ∨ (97 ≤ c.toNat ∧ c.toNat ≤ 122) := by
  have hcase : c.isUpper = true ∨ c.isLower = true := Bool.or_eq_true_iff.1 h
  rcases hcase with hupper | hlower
  · exact .inl (of_decide_eq_true hupper)
  · exact .inr ((Bool.and_eq_true_iff.1 hlower).imp of_decide_eq_true of_decide_eq_true)

theorem continuesName_bounds {c : Char} (h : continuesName c = true) :
    46 ≤ c.toNat ∧ c.toNat ≤ 122 ∧ c.toNat ≠ 92 := by
  simp only [continuesName, Char.isAlphanum, Bool.or_eq_true, decide_eq_true_eq, or_assoc] at h
  rcases h with hletter | hdigit | rfl | rfl
  · have hbounds := isAlpha_bounds hletter
    omega
  · have hlow : 48 ≤ c.toNat := (Char.isDigit_iff_toNat.1 hdigit).1
    have hhigh : c.toNat ≤ 57 := (Char.isDigit_iff_toNat.1 hdigit).2
    omega
  · decide
  · decide

theorem isQuiet_of_continuesName {c : Char} (h : continuesName c = true) : IsQuiet c := by
  have hbounds := continuesName_bounds h
  refine ⟨isBlank_eq_false (by omega) (by omega), fun hmem => ?_⟩
  simp only [List.mem_cons, List.not_mem_nil, or_false] at hmem
  rcases hmem with rfl | rfl | rfl <;> revert hbounds <;> decide

variable {a : String × String} {cs rest : List Char} {lookup : String → String}

theorem IsSimple.quiet (h : IsSimple a) : ∀ c ∈ lineOf a, IsQuiet c := by
  intro c hc
  rcases List.mem_append.1 hc with hc | hc
  · exact isQuiet_of_continuesName (h.name c hc)
  · rcases List.mem_cons.1 hc with rfl | hc
    · decide
    · exact (h.value c hc).isQuiet

/-- The line starts with the first character of its name. -/
theorem IsSimple.lineOf_eq (h : IsSimple a) :
    ∃ c cs, lineOf a = c :: cs ∧ startsName c = true := by
  obtain ⟨c, hc, hstart⟩ := h.start
  obtain ⟨cs, hcs⟩ := List.head?_eq_some_iff.1 hc
  exact ⟨c, cs ++ '=' :: a.2.toList, by rw [lineOf, hcs, List.cons_append], hstart⟩

theorem ne_sharp_of_startsName {c : Char} (h : startsName c = true) : c ≠ '#' := by
  rintro rfl
  cases h

theorem skipBlanks_eq_self (h : ∀ c ∈ cs, isBlank c = false) : skipBlanks cs = cs := by
  cases cs with
  | nil => rfl
  | cons c cs => exact skipBlanks_cons_of_not (h c List.mem_cons_self) cs

theorem dropTrailingBlanks_eq_self (h : ∀ c ∈ cs, isBlank c = false) :
    dropTrailingBlanks cs = cs := by
  have hreverse : skipBlanks cs.reverse = cs.reverse :=
    skipBlanks_eq_self fun c hc => h c (List.mem_reverse.1 hc)
  rw [dropTrailingBlanks, ← skipBlanks, hreverse, List.reverse_reverse]

/-! ### The line of an assignment -/

theorem takeName?_lineOf (h : IsSimple a) :
    takeName? (lineOf a) = some (a.1.toList, '=' :: a.2.toList) := by
  have htake : (lineOf a).takeWhile continuesName = a.1.toList := by
    rw [lineOf, List.takeWhile_append_of_pos h.name,
      List.takeWhile_cons_of_neg (by decide), List.append_nil]
  have hdrop : (lineOf a).dropWhile continuesName = '=' :: a.2.toList := by
    rw [lineOf, List.dropWhile_append_of_pos h.name, List.dropWhile_cons_of_neg (by decide)]
  obtain ⟨c, cs, hline, hstart⟩ := h.lineOf_eq
  rw [hline] at htake hdrop ⊢
  rw [takeName?, if_pos hstart, htake, hdrop, skipBlanks_cons_of_not (by decide)]

theorem takeTarget?_lineOf (h : IsSimple a) :
    takeTarget? (lineOf a) = some (a.1.toList, a.2.toList) := by
  rw [takeTarget?, takeName?_lineOf h]
  rfl

theorem value?_bare_cons {c : Char} (h : IsBare c) (cs : List Char) :
    value? lookup .bare (c :: cs) = (value? lookup .bare cs).map (c :: ·) := by
  obtain ⟨hblank, hc⟩ := h
  simp only [List.mem_cons, List.not_mem_nil, or_false, not_or] at hc
  obtain ⟨hsingle, hdouble, hescape, hname, -, -⟩ := hc
  have hspace : ¬ (c = ' ' ∨ c = '\t') := by
    rintro (rfl | rfl) <;> exact absurd hblank (by decide)
  show (if c = '$' then _ else _) = _
  rw [if_neg hname, if_neg hsingle, if_neg hdouble, if_neg hescape, if_neg hspace]

theorem value?_bare (h : ∀ c ∈ cs, IsBare c) : value? lookup .bare cs = some cs := by
  induction cs with
  | nil => rfl
  | cons c cs ih =>
    obtain ⟨hc, hcs⟩ := List.forall_mem_cons.1 h
    rw [value?_bare_cons hc, ih hcs, Option.map_some]

theorem isVoid_of_bare (h : ∀ c ∈ cs, IsBare c) (hvoid : isVoid cs = true) : cs = [] := by
  cases cs with
  | nil => rfl
  | cons c cs =>
    have hc : c = '#' := by simpa [isVoid] using hvoid
    subst hc
    exact absurd (h '#' List.mem_cons_self) (by decide)

theorem not_isVoid_lineOf (h : IsSimple a) : isVoid (lineOf a) = false := by
  obtain ⟨c, cs, hline, hstart⟩ := h.lineOf_eq
  simp [isVoid, hline, ne_sharp_of_startsName hstart]

/-- A simple line is read as the assignment that it is made of. -/
theorem ofLine_lineOf (h : IsSimple a) :
    Reading.ofLine lookup (lineOf a) = .assignment a.1 a.2 := by
  have hline : ∀ c ∈ lineOf a, isBlank c = false := fun c hc => (h.quiet c hc).1
  have hvalue : ∀ c ∈ a.2.toList, isBlank c = false := fun c hc => (h.value c hc).1
  simp only [Reading.ofLine, dropTrailingBlanks_eq_self hline, skipBlanks_eq_self hline,
    not_isVoid_lineOf h, takeTarget?_lineOf h, skipBlanks_eq_self hvalue, value?_bare h.value,
    String.ofList_toList, Bool.false_eq_true, if_false]
  split_ifs with hvoid
  · rw [String.toList_eq_nil_iff.1 (isVoid_of_bare h.value hvoid)]
  · rfl

/-! ### The lines of a file -/

theorem textLines_line (h : '\n' ∉ cs) :
    textLines (cs ++ '\n' :: rest) = (cs ++ ['\n']) :: textLines rest := by
  induction cs with
  | nil => rw [List.nil_append, textLines, List.nil_append]
  | cons c cs ih =>
    obtain ⟨hc, hcs⟩ := not_or.1 (mt List.mem_cons.2 h)
    rw [List.cons_append, textLines.eq_3 _ _ fun hbreak => hc hbreak.symm, ih hcs]
    rfl

theorem next_outside {c : Char} (h : IsQuiet c) : Position.outside.next c = .outside := by
  obtain ⟨hblank, hc⟩ := h
  simp only [List.mem_cons, List.not_mem_nil, or_false, not_or] at hc
  obtain ⟨hsingle, hdouble, hescape⟩ := hc
  have henter : Position.enter c = .outside := by
    unfold Position.enter
    split
    · contradiction
    · contradiction
    · contradiction
    · rfl
  simp only [Position.next, hblank]
  exact henter

theorem lineEnd_quiet (h : ∀ c ∈ cs, IsQuiet c) (offset : Nat) :
    lineEnd .outside offset (cs ++ ['\n']) = .reached .outside := by
  induction cs generalizing offset with
  | nil => rfl
  | cons c cs ih =>
    obtain ⟨hc, hcs⟩ := List.forall_mem_cons.1 h
    rw [List.cons_append, lineEnd, next_outside hc, if_neg fun hblank => nomatch hblank.1]
    exact ih hcs _

theorem dropLineBreak_quiet (h : ∀ c ∈ cs, IsQuiet c) : dropLineBreak (cs ++ ['\n']) = cs := by
  have hreverse : (cs ++ ['\n']).reverse = '\n' :: cs.reverse := by simp
  unfold dropLineBreak
  split
  · next r hr =>
    rw [hreverse] at hr
    have hmem : '\r' ∈ cs := by
      rw [← List.mem_reverse, (List.cons.inj hr).2]
      exact List.mem_cons_self
    exact absurd (h '\r' hmem) (by decide)
  · next r _ hr =>
    rw [hreverse] at hr
    rw [← (List.cons.inj hr).2, List.reverse_reverse]
  · next _ hno => exact absurd hreverse (hno _)

theorem joinLines_line (h : IsSimple a) (ls : List (List Char)) :
    joinLines .outside [] ((lineOf a ++ ['\n']) :: ls) =
      .text (lineOf a) :: joinLines .outside [] ls := by
  have hcomment : isComment (lineOf a ++ ['\n']) = false := by
    obtain ⟨c, cs, hline, hstart⟩ := h.lineOf_eq
    have hblank : isBlank c = false := (h.quiet c (hline ▸ List.mem_cons_self)).1
    simp [isComment, hline, skipBlanks_cons_of_not hblank, ne_sharp_of_startsName hstart]
  simp only [joinLines, List.nil_append, hcomment, lineEnd_quiet h.quiet,
    dropLineBreak_quiet h.quiet, Bool.false_eq_true, if_false]

variable {as : List (String × String)}

/-- A file of simple lines is made of these lines. -/
theorem lines_written (h : ∀ a ∈ as, IsSimple a) :
    lines (written as) = as.map fun a => .text (lineOf a) := by
  have hjoin : joinLines .outside [] (textLines (written as).toList) =
      as.map fun a => .text (lineOf a) := by
    rw [written, String.toList_ofList]
    induction as with
    | nil => rfl
    | cons a as ih =>
      obtain ⟨ha, has⟩ := List.forall_mem_cons.1 h
      have hbreak : '\n' ∉ lineOf a := fun hmem => absurd (ha.quiet _ hmem) (by decide)
      rw [List.flatMap_cons, List.append_assoc, List.singleton_append, textLines_line hbreak,
        joinLines_line ha, ih has, List.map_cons]
  unfold lines
  split
  · next cs hmark =>
    -- the first character of the file starts a name
    cases as with
    | nil => cases hmark
    | cons a as =>
      obtain ⟨ha, -⟩ := List.forall_mem_cons.1 h
      obtain ⟨c, ds, hline, hstart⟩ := ha.lineOf_eq
      rw [written, String.toList_ofList, List.flatMap_cons, hline] at hmark
      rw [(List.cons.inj hmark).1] at hstart
      cases hstart
  · exact hjoin

/-! ### Simple files -/

theorem assignments_simple (h : ∀ a ∈ as, IsSimple a) :
    assignments env before (as.map fun a => .text (lineOf a)) = before ++ as := by
  induction as generalizing before with
  | nil => rw [List.map_nil, assignments, List.append_nil]
  | cons a as ih =>
    obtain ⟨ha, has⟩ := List.forall_mem_cons.1 h
    simp only [List.map_cons, assignments, ofLine_lineOf ha, ih has, List.append_assoc,
      List.singleton_append]

/-- **A simple file makes the assignments that it is made of.** -/
theorem assignmentsOf_written (h : ∀ a ∈ as, IsSimple a) :
    assignmentsOf env (written as) = as := by
  rw [assignmentsOf, lines_written h, assignments_simple h, List.nil_append]

theorem fill?_simple (h : ∀ a ∈ as, IsSimple a) :
    (fill? now assigned (as.map fun a => .text (lineOf a))).isSome := by
  induction as generalizing now assigned with
  | nil => rfl
  | cons a as ih =>
    obtain ⟨ha, has⟩ := List.forall_mem_cons.1 h
    have hnul : '\x00' ∉ a.2.toList := fun hmem => absurd (ha.value _ hmem) (by decide)
    simp only [List.map_cons, fill?, ofLine_lineOf ha, if_neg hnul]
    split_ifs
    · exact ih has
    · exact ih has

/-- **A simple file is always read**, whatever is set before. -/
theorem load?_written (h : ∀ a ∈ as, IsSimple a) : (load? (written as) env).isSome := by
  rw [load?, lines_written h]
  exact fill?_simple h

end DotEnv

end Accounts
