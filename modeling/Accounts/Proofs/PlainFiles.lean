import Accounts.DotEnv
import Mathlib.Tactic.Common

/-!
# Accounts.Proofs.PlainFiles — assignment files that are always read

Filling in variables from a file comes to nothing in two cases: a line is torn, or a value holds a
NUL.  Neither happens with a file of plain characters, each of one byte and none of them NUL, in an
environment without NULs (`DotEnv.load?_of_plain`): a text of one-byte characters is not torn
wherever it is cut off, and a value is made of characters of its line and of earlier values.
-/

namespace Accounts

open Text

/-- No variable of the environment has a text with a NUL. -/
def Environment.NulFree (env : Environment) : Prop :=
  ∀ name, ∀ s ∈ env.text? name, '\x00' ∉ s.toList

theorem Environment.NulFree.set {env : Environment} (h : env.NulFree) (name : String)
    {value : String} (hvalue : '\x00' ∉ value.toList) : (env.set name (.text value)).NulFree := by
  intro other s hs
  by_cases hother : other = name
  · subst hother
    rw [text?, get?_set] at hs
    cases hs
    exact hvalue
  · rw [text?, get?_set_of_ne _ _ hother] at hs
    exact h other s hs

namespace DotEnv

/-- Every character is one byte and is not NUL. -/
def Plain (cs : List Char) : Prop :=
  ∀ c ∈ cs, c.utf8Size = 1 ∧ c ≠ '\x00'

instance (cs : List Char) : Decidable (Plain cs) :=
  inferInstanceAs (Decidable (∀ c ∈ cs, _))

variable {cs ds : List Char}

theorem Plain.nil : Plain [] :=
  fun _ hc => by cases hc

theorem Plain.mono (h : Plain ds) (hsub : cs ⊆ ds) : Plain cs :=
  fun c hc => h c (hsub hc)

theorem Plain.append (h : Plain cs) (h' : Plain ds) : Plain (cs ++ ds) := by
  intro c hc
  rcases List.mem_append.1 hc with hc | hc
  · exact h c hc
  · exact h' c hc

theorem Plain.no_nul (h : Plain cs) : '\x00' ∉ cs :=
  fun hc => (h _ hc).2 rfl

/-! ### Lines -/

theorem textLines_flatten (cs : List Char) : (textLines cs).flatten = cs := by
  induction cs using textLines.induct with
  | case1 => rfl
  | case2 cs ih => rw [textLines, List.flatten_cons, ih, List.singleton_append]
  | case3 c cs hbreak hnone ih =>
    rw [hnone] at ih
    rw [textLines.eq_3 _ _ hbreak, hnone, ← ih]
    rfl
  | case4 c cs hbreak line rest hsome ih =>
    rw [hsome] at ih
    rw [textLines.eq_3 _ _ hbreak, hsome, ← ih]
    rfl

/-- Characters of one byte are not torn. -/
theorem takeBytes?_of_plain (h : Plain cs) (n : Nat) : takeBytes? n cs = some (cs.take n) := by
  induction cs generalizing n with
  | nil => simp [takeBytes?]
  | cons c cs ih =>
    have hrest := ih (h.mono (List.subset_cons_self c cs))
    cases n with
    | zero => simp [takeBytes?]
    | succ n => simp [takeBytes?, (h c List.mem_cons_self).1, hrest n]

theorem dropLineBreak_subset (cs : List Char) : dropLineBreak cs ⊆ cs := by
  unfold dropLineBreak
  split
  · next r hr =>
    intro c hc
    rw [← List.mem_reverse, hr]
    exact .tail _ (.tail _ (List.mem_reverse.1 hc))
  · next r _ hr =>
    intro c hc
    rw [← List.mem_reverse, hr]
    exact .tail _ (List.mem_reverse.1 hc)
  · exact List.Subset.refl cs

/-- The line can be read, and is made of plain characters. -/
def Line.IsPlain : Line → Prop
  | .text chars => Plain chars
  | .unfinished => True
  | .torn => False

theorem joinLines_plain {ls : List (List Char)} {p : Position} (before : Plain cs)
    (h : ∀ line ∈ ls, Plain line) : ∀ l ∈ joinLines p cs ls, l.IsPlain := by
  induction ls generalizing p cs with
  | nil =>
    simp only [joinLines]
    split <;> simp [Line.IsPlain]
  | cons line rest ih =>
    obtain ⟨hline, hrest⟩ := List.forall_mem_cons.1 h
    have hwhole : Plain (cs ++ line) := before.append hline
    simp only [joinLines]
    split
    · exact List.forall_mem_cons.2 ⟨.nil, ih .nil hrest⟩
    · split
      · rw [takeBytes?_of_plain hwhole]
        exact List.forall_mem_cons.2 ⟨hwhole.mono (List.take_subset _ _), ih .nil hrest⟩
      · exact List.forall_mem_cons.2 ⟨hwhole.mono (dropLineBreak_subset _), ih .nil hrest⟩
      · exact ih hwhole hrest

theorem lines_plain {file : String} (h : Plain file.toList) : ∀ l ∈ lines file, l.IsPlain := by
  have hjoin : ∀ cs, Plain cs → ∀ l ∈ joinLines .outside [] (textLines cs), l.IsPlain := by
    intro cs hcs
    have hlines : ∀ line ∈ textLines cs, Plain line := by
      intro line hline
      refine hcs.mono fun c hc => ?_
      rw [← textLines_flatten cs]
      exact List.mem_flatten.2 ⟨line, hline, hc⟩
    exact joinLines_plain .nil hlines
  unfold lines
  split
  · next cs hfile =>
    rw [hfile] at h
    exact hjoin cs (h.mono (List.subset_cons_self _ _))
  · exact hjoin _ h

/-! ### Values -/

/-- No variable's value holds a NUL. -/
def NulFree (lookup : String → String) : Prop :=
  ∀ name, '\x00' ∉ (lookup name).toList

variable {lookup : String → String}

/-- The text that is read, if one is read, holds no NUL. -/
def Clean (read? : Option (List Char)) : Prop :=
  ∀ v ∈ read?, '\x00' ∉ v

theorem Clean.none : Clean none :=
  fun _ hv => by cases hv

theorem Clean.some (h : '\x00' ∉ cs) : Clean (some cs) := by
  rintro v ⟨⟩
  exact h

theorem Clean.ite {p : Prop} [Decidable p] {a b : Option (List Char)} (ha : Clean a)
    (hb : Clean b) : Clean (if p then a else b) := by
  by_cases h : p
  · rwa [if_pos h]
  · rwa [if_neg h]

section Append

variable {read? : Option (List Char)}

theorem Clean.append (h : Clean read?) (hds : '\x00' ∉ ds) : Clean (read?.map (ds ++ ·)) := by
  intro v hv
  obtain ⟨w, hw, rfl⟩ := Option.map_eq_some_iff.1 hv
  exact fun hmem => (List.mem_append.1 hmem).elim hds (h w hw)

theorem Clean.cons (h : Clean read?) {c : Char} (hc : '\x00' ≠ c) :
    Clean (read?.map (c :: ·)) :=
  h.append (List.not_mem_cons_of_ne_of_not_mem hc List.not_mem_nil)

theorem Clean.append_cons (h : Clean read?) (hds : '\x00' ∉ ds) {c : Char} (hc : '\x00' ≠ c) :
    Clean (read?.map (ds ++ c :: ·)) := by
  have hmap := (h.cons hc).append hds
  rwa [Option.map_map] at hmap

end Append

theorem ofEscape?_ne_nul {c e : Char} (hc : '\x00' ≠ c) (h : ofEscape? c = some e) :
    '\x00' ≠ e := by
  unfold ofEscape? at h
  split_ifs at h
  · rwa [← Option.some.inj h]
  · rw [← Option.some.inj h]
    decide

theorem clean_value?_nil (h : NulFree lookup) (m : Mode) : Clean (value? lookup m []) := by
  cases m with
  | bare => exact .some List.not_mem_nil
  | single => exact .none
  | double => exact .none
  | escape quoted => cases quoted <;> [exact .some List.not_mem_nil; exact .none]
  | closing => exact .some List.not_mem_nil
  | name quoted read => cases quoted <;> [exact .some (h _); exact .none]
  | braced quoted read => exact .none

/-- A value is made of characters of its text, of line breaks and of the values of variables. -/
theorem clean_value? (h : NulFree lookup) (hcs : '\x00' ∉ cs) (m : Mode) :
    Clean (value? lookup m cs) := by
  induction cs generalizing m with
  | nil => exact clean_value?_nil h m
  | cons c cs ih =>
    obtain ⟨hc, hcs⟩ := not_or.1 (mt List.mem_cons.2 hcs)
    have rest : ∀ m, Clean (value? lookup m cs) := ih hcs
    -- in every mode a chain of tests on `c` says how the rest is read and what is put before it
    cases m with
    | bare =>
      exact .ite (rest _) (.ite (rest _) (.ite (rest _) (.ite (rest _) (.ite (rest _)
        ((rest _).cons hc)))))
    | single => exact .ite (rest _) ((rest _).cons hc)
    | double => exact .ite (rest _) (.ite (rest _) (.ite (rest _) ((rest _).cons hc)))
    | escape quoted =>
      intro v hv
      cases quoted <;>
        obtain ⟨e, he, hv⟩ := Option.bind_eq_some_iff.1 hv <;>
          exact (rest _).cons (ofEscape?_ne_nul hc he) v hv
    | closing => exact .ite (rest _) (.ite (.some List.not_mem_nil) .none)
    | name quoted read =>
      have hvalue := h (String.ofList read.reverse)
      cases quoted <;>
        exact .ite (rest _) (.ite (rest _) (.ite ((rest _).append hvalue)
          ((rest _).append_cons hvalue hc)))
    | braced quoted read => exact .ite ((rest _).append (h _)) (rest _)

/-! ### Assignments -/

theorem takeName?_subset {name rest : List Char} (h : takeName? cs = some (name, rest)) :
    rest ⊆ cs := by
  unfold takeName? at h
  split at h
  · split_ifs at h
    cases h
    exact List.Subset.trans (List.dropWhile_subset _) (List.dropWhile_subset _)
  · cases h

theorem takeEquals?_subset {rest : List Char} (h : takeEquals? cs = some rest) : rest ⊆ cs := by
  unfold takeEquals? at h
  split at h
  · cases h
    exact List.subset_cons_self _ _
  · cases h

theorem takeTarget?_subset {name rest : List Char} (h : takeTarget? cs = some (name, rest)) :
    rest ⊆ cs := by
  obtain ⟨⟨first, more⟩, hfirst, h⟩ := Option.bind_eq_some_iff.1 h
  have hmore := takeName?_subset hfirst
  dsimp only at h
  split at h
  · next value hvalue =>
    cases h
    exact List.Subset.trans (takeEquals?_subset hvalue) hmore
  · split_ifs at h
    obtain ⟨⟨second, behind⟩, hsecond, h⟩ := Option.bind_eq_some_iff.1 h
    obtain ⟨value, hvalue, h⟩ := Option.bind_eq_some_iff.1 h
    cases h
    have hbehind : behind ⊆ more := takeName?_subset hsecond
    exact List.Subset.trans (takeEquals?_subset hvalue) (List.Subset.trans hbehind hmore)

/-- The value that a line assigns holds no NUL. -/
theorem ofLine_no_nul (h : NulFree lookup) {line : List Char} (hline : '\x00' ∉ line)
    {name value : String} (hread : Reading.ofLine lookup line = .assignment name value) :
    '\x00' ∉ value.toList := by
  have htext : skipBlanks (dropTrailingBlanks line) ⊆ line := by
    intro c hc
    have hdropped : c ∈ dropTrailingBlanks line := List.dropWhile_subset _ hc
    exact List.mem_reverse.1 (List.dropWhile_subset _ (List.mem_reverse.1 hdropped))
  unfold Reading.ofLine at hread
  dsimp only at hread
  split_ifs at hread
  split at hread
  · cases hread
  · next hrest =>
    split_ifs at hread
    · cases hread
      exact List.not_mem_nil
    · split at hread
      · next v hv =>
        cases hread
        rw [String.toList_ofList]
        refine clean_value? h (fun hmem => hline ?_) .bare v hv
        exact htext (takeTarget?_subset hrest (List.dropWhile_subset _ hmem))
      · cases hread

/-! ### Files -/

theorem nulFree_valueIn {env : Environment} {assigned : List (String × String)}
    (henv : env.NulFree) (hassigned : ∀ p ∈ assigned, '\x00' ∉ p.2.toList) :
    NulFree (valueIn env assigned) := by
  intro name
  cases hvalue : (env.text? name).or (assigned.lookup name) with
  | none =>
    rw [valueIn, hvalue]
    exact List.not_mem_nil
  | some s =>
    rw [valueIn, hvalue]
    rcases Option.or_eq_some_iff.1 hvalue with hs | ⟨-, hs⟩
    · exact henv name s hs
    · obtain ⟨front, back, rfl, -⟩ := List.lookup_eq_some_iff.1 hs
      exact hassigned (name, s) (List.mem_append_right _ List.mem_cons_self)

theorem fill?_isSome {ls : List Line} {env : Environment} {assigned : List (String × String)}
    (henv : env.NulFree) (hassigned : ∀ p ∈ assigned, '\x00' ∉ p.2.toList)
    (hls : ∀ l ∈ ls, l.IsPlain) : (fill? env assigned ls).isSome := by
  induction ls generalizing env assigned with
  | nil => rfl
  | cons l rest ih =>
    obtain ⟨hl, hrest⟩ := List.forall_mem_cons.1 hls
    cases l with
    | unfinished => rfl
    | torn => exact hl.elim
    | text line =>
      rw [fill?]
      split
      · exact ih henv hassigned hrest
      · rfl
      · next name value hread =>
        have hvalue : '\x00' ∉ value.toList :=
          ofLine_no_nul (nulFree_valueIn henv hassigned) (Plain.no_nul hl) hread
        have hassigned' : ∀ p ∈ (name, value) :: assigned, '\x00' ∉ p.2.toList :=
          List.forall_mem_cons.2 ⟨hvalue, hassigned⟩
        split_ifs
        · exact ih henv hassigned' hrest
        · exact ih (henv.set name hvalue) hassigned' hrest

/-- **A plain file is always read.** -/
theorem load?_of_plain {file : String} (h : Plain file.toList) {env : Environment}
    (henv : env.NulFree) : (load? file env).isSome :=
  fill?_isSome henv (fun _ hp => by cases hp) (lines_plain h)

/-- A NUL in a value, and a comment whose offset falls into a character of an earlier line. -/
example : load? "A=\x00" [] = none ∧ load? "A='é\n'   #" [] = none := by decide +kernel

end DotEnv

end Accounts
