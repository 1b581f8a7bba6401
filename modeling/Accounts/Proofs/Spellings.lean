import Accounts.Proofs.Tokens

/-!
# Accounts.Proofs.Spellings — the words that spell the arguments of a subcommand

`Spelled` says which words stand for which arguments, in the order in which they are given: an
option with its value in one word or in two, a positional argument that cannot be taken for an
option, and two hyphens at the end, after which one may stand that can.

Reading defers the value of an argument to the next one, which only decides which of two mistakes
is found first.  A reader that is given whole arguments, one after the other (`Draft.take`), comes
to the same end: it takes what is spelled (`draft?_of_spelled`), and nothing else is taken
(`spelled_of_draft?`).
-/

namespace Accounts.CommandLine

open Calendar

/-! ### Arguments and the words that give them -/

/-- An argument of a subcommand. -/
inductive Argument where
  | field (field : Field) (value : String)
  | clearBirthDate
  | id (text : String)
  deriving DecidableEq

/-- The words that give one argument: an option with its value attached or in a word of its own, or
a positional one that does not look like an option. -/
inductive Argument.Group : Argument → List Word → Prop
  | attached (f : Field) (value : String) :
    Group (.field f value) [.text ("--" ++ f.name ++ "=" ++ value)]
  | apart (f : Field) {value : String} (h : IsValue value) :
    Group (.field f value) [.text ("--" ++ f.name), .text value]
  | clearBirthDate : Group .clearBirthDate [.text "--clear-birth-date"]
  | id {text : String} (h : IsPlain text) : Group (.id text) [.text text]

/-- The words that give some arguments in this order.  Two hyphens may end them, and then a
positional argument may follow that looks like an option. -/
inductive Spelled : List Argument → List Word → Prop
  | nil : Spelled [] []
  | cons {a : Argument} {as : List Argument} {group ws : List Word} (h : a.Group group)
      (rest : Spelled as ws) : Spelled (a :: as) (group ++ ws)
  | hyphens : Spelled [] [.text "--"]
  | afterHyphens (text : String) : Spelled [.id text] [.text "--", .text text]

/-! ### Drafts -/

theorem toOption_bind {ε α β : Type} (e : Except ε α) (f : α → Except ε β) :
    (e >>= f).toOption = e.toOption.bind fun a => (f a).toOption := by
  cases e <;> rfl

theorem toOption_mapError {ε ε' α : Type} (e : Except ε α) (f : ε → ε') :
    (e.mapError f).toOption = e.toOption := by
  cases e <;> rfl

theorem toOption_textOf (w : Word) : (textOf w).toOption = w.text? := by
  cases w <;> rfl

theorem toOption_valid {α : Type} (o : Option α) : (valid o).toOption = o := by
  cases o <;> rfl

namespace Draft

/-- The draft with the value of an option read into it. -/
def with? (d : Draft) (f : Field) (value : String) : Option Draft :=
  match f with
  | .username => some { d with username := some value }
  | .passwordHash => some { d with passwordHash := some value }
  | .birthDate => (Date.read? value.toList).map fun date => { d with birthDate := some date }

theorem toOption_put (d : Draft) (f : Field) (value : String) :
    (d.put f value).toOption = d.with? f value := by
  cases f with
  | username | passwordHash => rfl
  | birthDate =>
    rw [put, toOption_bind, toOption_valid, with?]
    cases Date.read? value.toList <;> rfl

theorem toOption_takeField (d : Draft) (f : Field) (w : Word) :
    (d.takeField f w).toOption = if d.has f then none else w.text?.bind (d.with? f) := by
  rw [takeField]
  split_ifs
  · rfl
  · rw [toOption_bind, toOption_textOf]
    exact congrArg w.text?.bind (funext (d.toOption_put f))

theorem toOption_takeClear (d : Draft) :
    d.takeClear.toOption =
      if d.clearBirthDate then none else some { d with clearBirthDate := true } := by
  rw [takeClear]
  split_ifs <;> rfl

theorem toOption_takeId (d : Draft) (w : Word) :
    (d.takeId w).toOption = (w.text?.bind readId?).map fun id => { d with id := some id } := by
  rw [takeId, toOption_bind, toOption_textOf]
  cases w.text? with
  | none => rfl
  | some text =>
    rw [Option.bind_some, Option.bind_some, toOption_bind, toOption_valid]
    cases readId? text <;> rfl

theorem with?_id {d d' : Draft} {f : Field} {value : String} (h : d.with? f value = some d') :
    d'.id = d.id := by
  cases f with
  | username | passwordHash =>
    cases h
    rfl
  | birthDate =>
    obtain ⟨date, -, rfl⟩ := Option.map_eq_some_iff.1 h
    rfl

/-- Takes a whole argument into the draft, if the subcommand has it, it was not given before and it
can be read. -/
def take (s : Subcommand) (d : Draft) : Argument → Option Draft
  | .field f value => if s.takesFields && !d.has f then d.with? f value else none
  | .clearBirthDate =>
    if s = .change ∧ d.clearBirthDate = false then some { d with clearBirthDate := true } else none
  | .id text =>
    if s.takesId && d.id.isNone then (readId? text).map fun id => { d with id := some id } else none

end Draft

/-! ### What is made of the words -/

namespace Progress

variable {p : Progress} {d : Draft} {s : Subcommand}

/-- Everything that was begun is in the draft. -/
def settled (d : Draft) : Progress :=
  ⟨d, .none, d.id.isSome⟩

/-- An option waits for its value. -/
def IsWaiting (p : Progress) : Prop :=
  ∃ f, p.pending = .option f

theorem word_eq (h : ¬ p.IsWaiting) (w : Word) : p.word s w = p.positional s w := by
  unfold word
  split
  · next f hf => exact absurd ⟨f, hf⟩ h
  · rfl

theorem toOption_positional (p : Progress) (w : Word) :
    (p.positional s w).toOption = if s.takesId && !p.hasId then
      p.settle.toOption.map fun d => ⟨d, .id w, true⟩ else none := by
  rw [positional]
  cases s.takesId <;> cases p.hasId <;> cases p.settle <;> rfl

theorem toOption_field (p : Progress) (f : Field) (value : Option Word) :
    (p.field f value).toOption = p.settle.toOption.bind fun d =>
      match value with
      | some w => (d.takeField f w).toOption.map fun d => ⟨d, .none, p.hasId⟩
      | none => some ⟨d, .option f, p.hasId⟩ := by
  rw [field, toOption_bind]
  congr 1
  funext d
  cases value with
  | none => rfl
  | some w =>
    dsimp only
    cases d.takeField f w <;> rfl

theorem toOption_clear (p : Progress) :
    p.clear.toOption = p.settle.toOption.bind fun d =>
      d.takeClear.toOption.map fun d => ⟨d, .none, p.hasId⟩ := by
  rw [clear, toOption_bind]
  congr 1
  funext d
  cases d.takeClear <;> rfl

theorem toOption_long (p : Progress) (name : String) (value : Option Word) :
    (p.long s name value).toOption =
      match s.flag? name, value with
      | some (.field f), value => (p.field f value).toOption
      | some .clearBirthDate, none => p.clear.toOption
      | _, _ => none := by
  unfold long
  rcases s.flag? name with _ | f | _ | _ <;> cases value <;>
    first | rfl | exact toOption_mapError _ _

end Progress

/-- The draft that is made of the words, if they can all be taken. -/
def draft? (s : Subcommand) (p : Progress) (ws : List Word) : Option Draft :=
  (readWords s p ws).toOption.bind fun p => p.settle.toOption

theorem draft?_nil (s : Subcommand) (p : Progress) : draft? s p [] = p.settle.toOption := rfl

/-- What is made of the words after two hyphens. -/
def draftOfValues? (s : Subcommand) (p : Progress) (ws : List Word) : Option Draft :=
  (readValues s p ws).toOption.bind fun p => p.settle.toOption

theorem draft?_cons (s : Subcommand) (p : Progress) (w : Word) (ws : List Word) :
    draft? s p (w :: ws) =
      match Token.ofWord w with
      | .endOfOptions => draftOfValues? s p ws
      | .helpLetter | .stray => none
      | .long name value => (p.long s name value).toOption.bind fun p => draft? s p ws
      | .value w => (p.word s w).toOption.bind fun p => draft? s p ws := by
  rw [draft?, readWords]
  cases Token.ofWord w with
  | endOfOptions | helpLetter | stray => rfl
  | long name value =>
    dsimp only
    rw [toOption_bind, Option.bind_assoc]
    rfl
  | value w =>
    dsimp only
    rw [toOption_bind, toOption_mapError, Option.bind_assoc]
    rfl

theorem draftOfValues?_nil (s : Subcommand) (p : Progress) :
    draftOfValues? s p [] = p.settle.toOption := rfl

theorem draftOfValues?_cons (s : Subcommand) (p : Progress) (w : Word) (ws : List Word) :
    draftOfValues? s p (w :: ws) =
      (p.positional s w).toOption.bind fun p => draftOfValues? s p ws := by
  rw [draftOfValues?, readValues, toOption_bind, toOption_mapError, Option.bind_assoc]
  rfl

/-- Unless an option waits for its value, what was begun may as well be settled at once. -/
theorem draft?_settle {p : Progress} (h : ¬ p.IsWaiting) (s : Subcommand) (ws : List Word) :
    draft? s p ws = p.settle.toOption.bind fun d => draft? s ⟨d, .none, p.hasId⟩ ws := by
  have hnone : ∀ d hasId, ¬ (⟨d, .none, hasId⟩ : Progress).IsWaiting := by
    rintro d hasId ⟨f, hf⟩
    cases hf
  cases ws with
  | nil =>
    simp only [draft?_nil]
    cases p.settle <;> rfl
  | cons w ws =>
    simp only [draft?_cons]
    cases Token.ofWord w with
    | helpLetter | stray => cases p.settle <;> rfl
    | endOfOptions =>
      cases ws with
      | nil =>
        simp only [draftOfValues?_nil]
        cases p.settle <;> rfl
      | cons w ws =>
        simp only [draftOfValues?_cons, Progress.toOption_positional]
        cases p.settle <;> cases s.takesId <;> cases p.hasId <;> rfl
    | long name value =>
      simp only [Progress.toOption_long, Progress.toOption_field, Progress.toOption_clear]
      cases p.settle <;> rcases s.flag? name with _ | f | _ | _ <;> cases value <;> rfl
    | value w =>
      simp only [Progress.word_eq h, Progress.word_eq (hnone _ _), Progress.toOption_positional]
      cases p.settle <;> cases s.takesId <;> cases p.hasId <;> rfl

/-! ### What is spelled is taken -/

theorem Field.name_ne_empty (f : Field) : f.name ≠ "" := by
  cases f <;> decide

theorem Field.ne_of_mem_name (f : Field) : ∀ c ∈ f.name.toList, c ≠ '=' := by
  have hall : f.name.toList.all (· ≠ '=') = true := by cases f <;> rfl
  intro c hc
  exact of_decide_eq_true (List.all_eq_true.1 hall c hc)

variable {s : Subcommand} {d : Draft}

/-- A positional argument is taken as a whole. -/
theorem draft?_positional (s : Subcommand) (d : Draft) (text : String) (ws : List Word) :
    (((Progress.settled d).positional s (.text text)).toOption.bind fun p => draft? s p ws) =
      (d.take s (.id text)).bind fun d => draft? s (.settled d) ws := by
  have hsettle : (Progress.settled d).settle.toOption = some d := rfl
  have hwaiting : ¬ (⟨d, .id (.text text), true⟩ : Progress).IsWaiting := by
    rintro ⟨f, hf⟩
    cases hf
  have hlater := draft?_settle hwaiting s ws
  have hid : (⟨d, .id (.text text), true⟩ : Progress).settle.toOption =
      (readId? text).map fun id => { d with id := some id } := d.toOption_takeId (.text text)
  have hnew : (!(Progress.settled d).hasId) = d.id.isNone := Option.not_isSome _
  rw [Progress.toOption_positional, hsettle, hnew, Draft.take]
  split_ifs
  · rw [Option.map_some, Option.bind_some, hlater, hid, Option.bind_map, Option.bind_map]
    rfl
  · rfl

theorem Draft.take_field (h : s.takesFields = true) (d : Draft) (f : Field) (value : String) :
    d.take s (.field f value) = (d.takeField f (.text value)).toOption := by
  rw [take, h, toOption_takeField]
  cases d.has f <;> rfl

theorem Draft.take_field_of_not (h : s.takesFields = false) (d : Draft) (f : Field)
    (value : String) : d.take s (.field f value) = none := by
  rw [take, h]
  rfl

/-- An option and its value are taken as a whole, if the subcommand has the option. -/
theorem draft?_field (h : s.takesFields = true) (d : Draft) (f : Field) (value : String)
    (ws : List Word) :
    ((d.takeField f (.text value)).toOption.bind fun d' => draft? s ⟨d', .none, d.id.isSome⟩ ws) =
      (d.take s (.field f value)).bind fun d => draft? s (.settled d) ws := by
  rw [Draft.take_field h]
  cases htake : (d.takeField f (.text value)).toOption with
  | none => rfl
  | some d' =>
    have hid : d'.id = d.id := by
      rw [Draft.toOption_takeField] at htake
      split_ifs at htake
      exact Draft.with?_id htake
    rw [Option.bind_some, Option.bind_some, Progress.settled, hid]

/-- The words of one argument are taken as a whole. -/
theorem draft?_group {a : Argument} {group : List Word} (h : a.Group group) (s : Subcommand)
    (d : Draft) (ws : List Word) :
    draft? s (.settled d) (group ++ ws) =
      (d.take s a).bind fun d => draft? s (.settled d) ws := by
  have hsettle : (Progress.settled d).settle.toOption = some d := rfl
  cases h with
  | attached f value =>
    rw [List.singleton_append, draft?_cons, Token.ofWord_longValue f.ne_of_mem_name]
    dsimp only
    rw [Progress.toOption_long]
    cases hfields : s.takesFields with
    | false =>
      rw [Subcommand.flag?_field_name_of_not hfields, Draft.take_field_of_not hfields]
      rfl
    | true =>
      rw [Subcommand.flag?_field_name hfields]
      dsimp only
      rw [Progress.toOption_field, hsettle, Option.bind_some, Option.bind_map]
      exact draft?_field hfields d f value ws
  | @apart f value hvalue =>
    rw [List.cons_append, List.singleton_append, draft?_cons,
      Token.ofWord_longName f.name_ne_empty f.ne_of_mem_name]
    dsimp only
    rw [Progress.toOption_long]
    cases hfields : s.takesFields with
    | false =>
      rw [Subcommand.flag?_field_name_of_not hfields, Draft.take_field_of_not hfields]
      rfl
    | true =>
      have hwaiting : ¬ (⟨d, .value f (.text value), d.id.isSome⟩ : Progress).IsWaiting := by
        rintro ⟨f, hf⟩
        cases hf
      rw [Subcommand.flag?_field_name hfields]
      dsimp only
      rw [Progress.toOption_field, hsettle, Option.bind_some, Option.bind_some, draft?_cons,
        Token.ofWord_of_isValue hvalue]
      exact (draft?_settle hwaiting s ws).trans (draft?_field hfields d f value ws)
  | clearBirthDate =>
    have hname : Token.ofWord (.text "--clear-birth-date") = .long clearName none := by
      decide +kernel
    rw [List.singleton_append, draft?_cons, hname]
    dsimp only
    rw [Progress.toOption_long, Subcommand.flag?_clearName, Draft.take]
    by_cases hchange : s = .change
    · rw [if_pos hchange]
      dsimp only
      rw [Progress.toOption_clear, hsettle, Option.bind_some, Draft.toOption_takeClear]
      cases hclear : d.clearBirthDate with
      | true => simp
      | false =>
        simp only [hchange]
        rfl
    · simp [hchange]
  | id hplain =>
    rw [List.singleton_append, draft?_cons, Token.ofWord_of_isValue (.inr hplain)]
    exact draft?_positional s d _ ws

theorem draft?_hyphens (s : Subcommand) (p : Progress) (ws : List Word) :
    draft? s p (.text "--" :: ws) = draftOfValues? s p ws := by
  have hword : Token.ofWord (.text "--") = .endOfOptions := by decide +kernel
  rw [draft?_cons, hword]

theorem draftOfValues?_positional (s : Subcommand) (d : Draft) (text : String) :
    draftOfValues? s (.settled d) [.text text] = d.take s (.id text) := by
  have h := draft?_positional s d text []
  simp only [draft?_nil] at h
  rw [draftOfValues?_cons]
  exact h.trans (Option.bind_fun_some _)

/-- What is spelled is taken, one argument after the other. -/
theorem draft?_of_spelled {as : List Argument} {ws : List Word} (h : Spelled as ws)
    (s : Subcommand) (d : Draft) :
    draft? s (.settled d) ws = as.foldlM (Draft.take s) d := by
  induction h generalizing d with
  | nil => rfl
  | cons hgroup _ ih =>
    rw [draft?_group hgroup, List.foldlM_cons]
    exact congrArg _ (funext ih)
  | hyphens => rw [draft?_hyphens]; rfl
  | afterHyphens text =>
    rw [draft?_hyphens, draftOfValues?_positional, List.foldlM_cons]
    exact (Option.bind_fun_some _).symm

/-! ### Nothing else is taken -/

variable {ws : List Word} {d' : Draft}

/-- After two hyphens there is nothing, or a single positional argument. -/
theorem eq_of_draftOfValues? (h : draftOfValues? s (.settled d) ws = some d') :
    ws = [] ∨ ∃ text, ws = [.text text] := by
  cases ws with
  | nil => exact .inl rfl
  | cons w ws =>
    rw [draftOfValues?_cons, Progress.toOption_positional] at h
    obtain ⟨p, hp, hrest⟩ := Option.bind_eq_some_iff.1 h
    split_ifs at hp
    cases hp
    cases ws with
    | nil =>
      have hid : (d.takeId w).toOption = some d' := hrest
      cases w with
      | text text => exact .inr ⟨text, rfl⟩
      | bytes bytes => cases hid
    | cons w' ws =>
      rw [draftOfValues?_cons, Progress.toOption_positional, Bool.not_true, Bool.and_false] at hrest
      cases hrest

/-- An option that waits for its value gets the next word, which has to look like a value. -/
theorem value_of_isWaiting {p : Progress} (hp : p.IsWaiting) (h : draft? s p ws = some d') :
    ∃ value rest, ws = .text value :: rest ∧ IsValue value := by
  obtain ⟨f, hf⟩ := hp
  have hsettle : p.settle.toOption = none := by
    rw [Progress.settle, hf]
    rfl
  cases ws with
  | nil =>
    rw [draft?_nil, hsettle] at h
    cases h
  | cons w ws =>
    rw [draft?_cons] at h
    have htaken := Token.taken_ofWord w
    generalize Token.ofWord w = token at h htaken
    cases htaken with
    | helpLetter | stray => cases h
    | endOfOptions =>
      cases ws with
      | nil =>
        rw [draftOfValues?_nil, hsettle] at h
        cases h
      | cons w ws =>
        dsimp only at h
        rw [draftOfValues?_cons, Progress.toOption_positional, hsettle] at h
        split_ifs at h <;> cases h
    | longName | longValue | longBytes =>
      dsimp only at h
      simp only [Progress.toOption_long, Progress.toOption_field, Progress.toOption_clear, hsettle,
        Option.bind_none] at h
      split at h <;> cases h
    | text hvalue => exact ⟨_, ws, rfl, hvalue⟩
    | bytes bytes =>
      -- the value is only read at the next argument, but then it is no text
      have hnone : draft? s { p with pending := .value f (.bytes bytes) } ws = none := by
        have hwaiting : ¬ ({ p with pending := .value f (.bytes bytes) } : Progress).IsWaiting := by
          rintro ⟨f, hf⟩
          cases hf
        have hfield : ({ p with pending := .value f (.bytes bytes) } : Progress).settle.toOption =
            none := by
          refine (p.draft.toOption_takeField f _).trans ?_
          split_ifs <;> rfl
        rw [draft?_settle hwaiting, hfield]
        rfl
      have hword : p.word s (.bytes bytes) = .ok { p with pending := .value f (.bytes bytes) } := by
        simp only [Progress.word, hf]
      dsimp only at h
      rw [hword] at h
      exact absurd (hnone.symm.trans h) (by simp)

/-- Bytes that are no text are no positional argument either. -/
theorem draft?_bytes (s : Subcommand) (d : Draft) (bytes : List UInt8) (ws : List Word) :
    (((Progress.settled d).positional s (.bytes bytes)).toOption.bind fun p => draft? s p ws) =
      none := by
  have hwaiting : ¬ (⟨d, .id (.bytes bytes), true⟩ : Progress).IsWaiting := by
    rintro ⟨f, hf⟩
    cases hf
  have hnone : draft? s ⟨d, .id (.bytes bytes), true⟩ ws = none := by
    rw [draft?_settle hwaiting]
    rfl
  rw [Progress.toOption_positional]
  split_ifs
  · exact hnone
  · rfl

/-- What comes first is the words of one argument, or two hyphens and what may follow them. -/
theorem front_of_draft? {w : Word} (h : draft? s (.settled d) (w :: ws) = some d') :
    (∃ as, Spelled as (w :: ws)) ∨
      ∃ a group rest, Argument.Group a group ∧ w :: ws = group ++ rest := by
  have hsettle : (Progress.settled d).settle.toOption = some d := rfl
  rw [draft?_cons] at h
  have htaken := Token.taken_ofWord w
  generalize Token.ofWord w = token at h htaken
  cases htaken with
  | helpLetter | stray => cases h
  | endOfOptions =>
    rcases eq_of_draftOfValues? h with rfl | ⟨text, rfl⟩
    · exact .inl ⟨[], .hyphens⟩
    · exact .inl ⟨[.id text], .afterHyphens text⟩
  | longName name =>
    obtain ⟨p, hp, hrest⟩ := Option.bind_eq_some_iff.1 h
    rw [Progress.toOption_long] at hp
    rcases hflag : s.flag? name with _ | f | _ | _ <;> rw [hflag] at hp
    · cases hp
    · obtain ⟨rfl, -⟩ := Subcommand.of_flag?_field hflag
      have hwaiting : p.IsWaiting := by
        simp only [Progress.toOption_field, hsettle, Option.bind_some, Option.some.injEq] at hp
        exact ⟨f, by rw [← hp]⟩
      obtain ⟨value, rest, rfl, hvalue⟩ := value_of_isWaiting hwaiting hrest
      exact .inr ⟨_, _, rest, .apart f hvalue, rfl⟩
    · obtain ⟨rfl, -⟩ := Subcommand.of_flag?_clear hflag
      exact .inr ⟨_, _, ws, .clearBirthDate, rfl⟩
    · cases hp
  | longValue name value =>
    obtain ⟨p, hp, -⟩ := Option.bind_eq_some_iff.1 h
    rw [Progress.toOption_long] at hp
    rcases hflag : s.flag? name with _ | f | _ | _ <;> rw [hflag] at hp
    · cases hp
    · obtain ⟨rfl, -⟩ := Subcommand.of_flag?_field hflag
      exact .inr ⟨_, _, ws, .attached f value, rfl⟩
    · cases hp
    · cases hp
  | longBytes _ name bytes =>
    obtain ⟨p, hp, -⟩ := Option.bind_eq_some_iff.1 h
    rw [Progress.toOption_long] at hp
    rcases hflag : s.flag? name with _ | f | _ | _ <;> rw [hflag] at hp
    · cases hp
    · simp only [Progress.toOption_field, hsettle, Option.bind_some, Draft.toOption_takeField,
        Word.text?, Option.bind_none, ite_self, Option.map_none] at hp
      cases hp
    · cases hp
    · cases hp
  | text hvalue =>
    have h : (((Progress.settled d).positional s _).toOption.bind fun p => draft? s p ws) =
      some d' := h
    rcases hvalue with rfl | hplain
    · -- a lone hyphen is no identifier
      have hread : readId? "-" = none := by decide +kernel
      rw [draft?_positional, Draft.take, hread, Option.map_none, ite_self] at h
      cases h
    · exact .inr ⟨_, _, ws, .id hplain, rfl⟩
  | bytes bytes =>
    exact absurd ((draft?_bytes s d bytes ws).symm.trans h) (by simp)

/-- What is taken is spelled. -/
theorem spelled_of_draft? (h : draft? s (.settled d) ws = some d') : ∃ as, Spelled as ws := by
  induction hn : ws.length using Nat.strong_induction_on generalizing ws d with
  | h n ih =>
    cases ws with
    | nil => exact ⟨[], .nil⟩
    | cons w ws =>
      rcases front_of_draft? h with hspelled | ⟨a, group, rest, hgroup, heq⟩
      · exact hspelled
      · rw [heq, draft?_group hgroup] at h
        obtain ⟨d₁, -, hrest⟩ := Option.bind_eq_some_iff.1 h
        have hlength : rest.length < n := by
          have hpos : 0 < group.length := by cases hgroup <;> simp
          have := congrArg List.length heq
          rw [List.length_append] at this
          omega
        obtain ⟨as, has⟩ := ih rest.length hlength hrest rfl
        exact ⟨a :: as, heq ▸ .cons hgroup has⟩

end Accounts.CommandLine
