import Accounts.Proofs.Spellings
import Accounts.Proofs.WrittenDates

/-!
# Accounts.Proofs.CommandLines — which command lines ask for which action

`Spells` is the grammar of the command line: the name of a subcommand and words that spell, in any
order, the arguments with which it asks for an action (`Asks`).  Reading accepts what the grammar
has and nothing else (`read_eq_ok_iff_spells`).

The order does not matter because a draft takes two arguments in either order
(`Draft.Takes.swap`); that every argument which was taken counts is what `Draft.MadeOf` keeps.
-/

namespace Accounts

/-- The identifier that an action names, if it names one. -/
def Action.id? : Action → Option Int
  | .setUp | .register .. => none
  | .view id | .change id _ | .remove id => some id

namespace CommandLine

open Calendar Text

/-! ### The grammar -/

/-- The option that gives a value, if there is one. -/
def given (f : Field) (value : Option String) : List Argument :=
  (value.map (Argument.field f)).toList

/-- The arguments that ask for a change of a birth date: none that keep it, one that clears it or
one that sets it. -/
inductive AsksForBirthDate : List Argument → Option (Option Date) → Prop
  | keep : AsksForBirthDate [] none
  | clear : AsksForBirthDate [.clearBirthDate] (some none)
  | set {text : String} {date : Date} (h : Date.read? text.toList = some date) :
    AsksForBirthDate [.field .birthDate text] (some (some date))

/-- The arguments, in one order, with which a subcommand asks for an action. -/
inductive Asks (env : Environment) : Subcommand → List Argument → Action → Prop
  | setUp : Asks env .setUp [] .setUp
  | register (username : String) {hash : Option String} {passwordHash : String}
      {dates : List Argument} {birthDate : Option Date}
      (hhash : hash.or (env.text? passwordHashVariable) = some passwordHash)
      (hdates : AsksForBirthDate dates (birthDate.map some)) :
    Asks env .register (.field .username username :: (given .passwordHash hash ++ dates))
      (.register username passwordHash birthDate)
  | view {text : String} {id : Int} (h : readId? text = some id) :
    Asks env .view [.id text] (.view id)
  | change {text : String} {id : Int} {dates : List Argument} {changes : Changes}
      (h : readId? text = some id) (hdates : AsksForBirthDate dates changes.birthDate) :
    Asks env .change
      (.id text :: (given .username changes.username ++
        (given .passwordHash changes.passwordHash ++ dates)))
      (.change id changes)
  | remove {text : String} {id : Int} (h : readId? text = some id) :
    Asks env .remove [.id text] (.remove id)

/-- The words ask for an action: they name a subcommand and spell, in some order, the arguments with
which it asks for it. -/
def Spells (env : Environment) (ws : List Word) (a : Action) : Prop :=
  ∃ s spelled asked rest, ws = .text s.name :: rest ∧ Spelled spelled rest ∧
    spelled.Perm asked ∧ Asks env s asked a

/-! ### One argument -/

variable {env : Environment} {s : Subcommand} {d d' : Draft} {a b : Argument}
  {as bs : List Argument} {action : Action}

/-- The subcommand has the argument. -/
def Subcommand.Has (s : Subcommand) : Argument → Prop
  | .field _ _ => s.takesFields = true
  | .clearBirthDate => s = .change
  | .id _ => s.takesId = true

namespace Draft

/-- All that it takes, and makes of the draft, to take an argument. -/
inductive Takes (s : Subcommand) (d : Draft) : Argument → Draft → Prop
  | username (h : s.takesFields = true) (hnew : d.username = none) (value : String) :
    Takes s d (.field .username value) { d with username := some value }
  | passwordHash (h : s.takesFields = true) (hnew : d.passwordHash = none) (value : String) :
    Takes s d (.field .passwordHash value) { d with passwordHash := some value }
  | birthDate (h : s.takesFields = true) (hnew : d.birthDate = none) {text : String} {date : Date}
      (hread : Date.read? text.toList = some date) :
    Takes s d (.field .birthDate text) { d with birthDate := some date }
  | clearBirthDate (h : s = .change) (hnew : d.clearBirthDate = false) :
    Takes s d .clearBirthDate { d with clearBirthDate := true }
  | id (h : s.takesId = true) (hnew : d.id = none) {text : String} {id : Int}
      (hread : readId? text = some id) :
    Takes s d (.id text) { d with id := some id }

theorem eq_none_of_isSome {α : Type} {o : Option α} (h : o.isSome = false) : o = none :=
  Option.isNone_iff_eq_none.1 (Option.isSome_eq_false_iff.1 h)

theorem take_eq_some_iff : d.take s a = some d' ↔ d.Takes s a d' := by
  constructor
  · intro h
    cases a with
    | field f value =>
      rw [take] at h
      split_ifs at h with hif
      rw [Bool.and_eq_true, Bool.not_eq_true'] at hif
      cases f with
      | username =>
        cases h
        exact .username hif.1 (eq_none_of_isSome hif.2) value
      | passwordHash =>
        cases h
        exact .passwordHash hif.1 (eq_none_of_isSome hif.2) value
      | birthDate =>
        obtain ⟨date, hread, rfl⟩ := Option.map_eq_some_iff.1 h
        exact .birthDate hif.1 (eq_none_of_isSome hif.2) hread
    | clearBirthDate =>
      rw [take] at h
      split_ifs at h with hif
      cases h
      exact .clearBirthDate hif.1 hif.2
    | id text =>
      rw [take] at h
      split_ifs at h with hif
      rw [Bool.and_eq_true, Option.isNone_iff_eq_none] at hif
      obtain ⟨id, hread, rfl⟩ := Option.map_eq_some_iff.1 h
      exact .id hif.1 hif.2 hread
  · intro h
    cases h with
    | username hs hnew | passwordHash hs hnew => simp [take, has, with?, hs, hnew]
    | birthDate hs hnew hread => simp [take, has, with?, hs, hnew, hread]
    | clearBirthDate hs hnew => simp [take, hs, hnew]
    | id hs hnew hread => simp [take, hs, hnew, hread]

theorem Takes.has (h : d.Takes s a d') : s.Has a := by
  cases h <;> assumption

/-- Two arguments that can be taken in one order can be taken in the other, with the same draft at
the end. -/
theorem Takes.swap {d₁ d₂ : Draft} (h₁ : d.Takes s a d₁) (h₂ : d₁.Takes s b d₂) :
    ∃ d₃, d.Takes s b d₃ ∧ d₃.Takes s a d₂ := by
  -- either both want the same place, which the second finds taken, or each leaves the other's alone
  cases h₁ <;> cases h₂
  all_goals first
    | contradiction
    | exact ⟨_, by constructor <;> assumption, by constructor <;> assumption⟩

/-! ### All arguments -/

theorem foldlM_take_cons : (a :: as).foldlM (take s) d = some d' ↔
    ∃ d₁, d.Takes s a d₁ ∧ as.foldlM (take s) d₁ = some d' := by
  simp only [List.foldlM_cons, Option.bind_eq_bind, Option.bind_eq_some_iff, take_eq_some_iff]

/-- Arguments can be taken in any order. -/
theorem foldlM_take_perm (h : as.Perm bs) (hd : as.foldlM (take s) d = some d') :
    bs.foldlM (take s) d = some d' := by
  induction h generalizing d with
  | nil => exact hd
  | cons a _ ih =>
    obtain ⟨d₁, ha, hrest⟩ := foldlM_take_cons.1 hd
    exact foldlM_take_cons.2 ⟨d₁, ha, ih hrest⟩
  | swap a b as =>
    obtain ⟨d₁, hb, hd⟩ := foldlM_take_cons.1 hd
    obtain ⟨d₂, ha, hrest⟩ := foldlM_take_cons.1 hd
    obtain ⟨d₃, ha', hb'⟩ := hb.swap ha
    exact foldlM_take_cons.2 ⟨d₃, ha', foldlM_take_cons.2 ⟨d₂, hb', hrest⟩⟩
  | trans _ _ ih₁ ih₂ => exact ih₂ (ih₁ hd)

/-- The arguments, in one order, that make a draft whose birth date and identifier were given by
these texts. -/
def arguments (d : Draft) (date id : Option String) : List Argument :=
  (id.map Argument.id).toList ++ (given .username d.username ++
    (given .passwordHash d.passwordHash ++ (given .birthDate date ++
      if d.clearBirthDate then [.clearBirthDate] else [])))

/-- The draft is made of exactly these arguments, all of which the subcommand has. -/
def MadeOf (s : Subcommand) (d : Draft) (as : List Argument) : Prop :=
  (∀ a ∈ as, s.Has a) ∧ ∃ date id,
    Option.Rel (fun text date => Date.read? text.toList = some date) date d.birthDate ∧
    Option.Rel (fun text id => readId? text = some id) id d.id ∧
    as.Perm (d.arguments date id)

theorem madeOf_nil (s : Subcommand) : ({} : Draft).MadeOf s [] :=
  ⟨by simp, none, none, .none, .none, .refl _⟩

/-- What is put past a list may be put further. -/
theorem perm_past {rest rest' : List Argument} (h : (a :: rest).Perm rest') :
    (a :: (as ++ rest)).Perm (as ++ rest') :=
  List.perm_middle.symm.trans (h.append_left as)

/-- An argument that is taken counts among those that the draft is made of. -/
theorem MadeOf.cons (h : d.MadeOf s as) (ht : d.Takes s a d') : d'.MadeOf s (a :: as) := by
  obtain ⟨hhas, date, id, hdate, hid, hperm⟩ := h
  refine ⟨List.forall_mem_cons.2 ⟨ht.has, hhas⟩, ?_⟩
  have hcons : (a :: as).Perm (a :: d.arguments date id) := hperm.cons a
  -- the place of the argument in the list was empty
  cases ht with
  | username _ hnew value =>
    refine ⟨date, id, hdate, hid, hcons.trans ?_⟩
    simp only [arguments, given, hnew]
    exact perm_past (.refl _)
  | passwordHash _ hnew value =>
    refine ⟨date, id, hdate, hid, hcons.trans ?_⟩
    simp only [arguments, given, hnew]
    exact perm_past (perm_past (.refl _))
  | @birthDate _ hnew text _ hread =>
    rw [hnew] at hdate
    cases hdate
    refine ⟨some text, id, .some hread, hid, hcons.trans ?_⟩
    exact perm_past (perm_past (perm_past (.refl _)))
  | clearBirthDate _ hnew =>
    refine ⟨date, id, hdate, hid, hcons.trans ?_⟩
    simp only [arguments, hnew]
    exact perm_past (perm_past (perm_past (perm_past (.refl _))))
  | @id _ hnew text _ hread =>
    rw [hnew] at hid
    cases hid
    exact ⟨date, some text, hdate, .some hread, hcons⟩

theorem MadeOf.perm (h : d.MadeOf s as) (hperm : as.Perm bs) : d.MadeOf s bs := by
  obtain ⟨hhas, date, id, hdate, hid, harguments⟩ := h
  exact ⟨fun b hb => hhas b (hperm.mem_iff.2 hb), date, id, hdate, hid,
    hperm.symm.trans harguments⟩

/-- So do all that are taken one after the other. -/
theorem madeOf_of_foldlM (h : as.foldlM (take s) d = some d') (hd : d.MadeOf s bs) :
    d'.MadeOf s (as ++ bs) := by
  induction as generalizing d bs with
  | nil =>
    cases h
    exact hd
  | cons a as ih =>
    obtain ⟨d₁, ha, hrest⟩ := foldlM_take_cons.1 h
    have hd₁ := ih hrest (hd.cons ha)
    exact hd₁.perm List.perm_middle

/-- What the subcommand does not have is not among the arguments. -/
theorem eq_none_of_has {date id : Option String} (h : ∀ b ∈ d.arguments date id, s.Has b) :
    (s.takesId = false → id = none) ∧
      (s.takesFields = false → d.username = none ∧ d.passwordHash = none ∧ date = none) ∧
      (s ≠ .change → d.clearBirthDate = false) := by
  have hgiven : ∀ {f : Field} {value : Option String},
      (∀ b ∈ given f value, s.Has b) → s.takesFields = false → value = none := by
    intro f value hvalue hs
    cases value with
    | none => rfl
    | some value =>
      have hhas : s.takesFields = true := hvalue _ (List.mem_singleton_self _)
      rw [hs] at hhas
      cases hhas
  simp only [arguments, List.forall_mem_append] at h
  obtain ⟨hid, husername, hhash, hdate, hclear⟩ := h
  refine ⟨fun hs => ?_, fun hs => ⟨hgiven husername hs, hgiven hhash hs, hgiven hdate hs⟩,
    fun hs => ?_⟩
  · cases id with
    | none => rfl
    | some id =>
      have hhas : s.takesId = true := hid _ (List.mem_singleton_self _)
      rw [hs] at hhas
      cases hhas
  · by_contra hc
    rw [Bool.not_eq_false] at hc
    rw [hc] at hclear
    exact hs (hclear _ (List.mem_singleton_self _))

end Draft

/-! ### All arguments and the action they make -/

/-- The action that a subcommand and its arguments make, if they make one. -/
def action? (env : Environment) (s : Subcommand) (d : Draft) : Option Action :=
  match s with
  | .setUp => some .setUp
  | .register => do
    return .register (← d.username) (← d.passwordHash.or (env.text? passwordHashVariable))
      d.birthDate
  | .view => d.id.map .view
  | .change =>
    if d.clearBirthDate && d.birthDate.isSome then none
    else d.id.map (.change · ⟨d.username, birthDateChange d, d.passwordHash⟩)
  | .remove => d.id.map .remove

theorem toOption_actionOf (env : Environment) (s : Subcommand) (d : Draft) :
    (actionOf env s d).toOption = action? env s d := by
  obtain ⟨id, username, passwordHash, birthDate, clearBirthDate⟩ := d
  cases s with
  | setUp => rfl
  | view | remove => cases id <;> rfl
  | register =>
    rw [actionOf, action?, fillPasswordHash, Environment.text?]
    rcases env.get? passwordHashVariable with _ | _ | _ <;>
      cases username <;> cases passwordHash <;> rfl
  | change =>
    rw [actionOf, action?]
    split_ifs
    · rfl
    · cases id <;> rfl

/-- The draft with the change of a birth date that arguments ask for. -/
def Draft.withDates (d : Draft) (change : Option (Option Date)) : Draft :=
  { d with birthDate := change.join, clearBirthDate := change == some none }

theorem foldlM_dates {dates : List Argument} {change : Option (Option Date)}
    (h : AsksForBirthDate dates change) (hs : s.takesFields = true)
    (hclear : change = some none → s = .change) (hdate : d.birthDate = none)
    (hnot : d.clearBirthDate = false) :
    dates.foldlM (Draft.take s) d = some (d.withDates change) := by
  obtain ⟨id, username, passwordHash, _, _⟩ := d
  cases hdate
  cases hnot
  cases h with
  | keep => rfl
  | clear => exact Draft.foldlM_take_cons.2 ⟨_, .clearBirthDate (hclear rfl) rfl, rfl⟩
  | set hread => exact Draft.foldlM_take_cons.2 ⟨_, .birthDate hs rfl hread, rfl⟩

theorem foldlM_fields {dates : List Argument} {change : Option (Option Date)}
    {username passwordHash : Option String} {id : Option Int} (h : AsksForBirthDate dates change)
    (hs : s.takesFields = true) (hclear : change = some none → s = .change) :
    (given .username username ++ (given .passwordHash passwordHash ++ dates)).foldlM (Draft.take s)
      { id := id } = some (Draft.withDates ⟨id, username, passwordHash, none, false⟩ change) := by
  have husername : (given .username username).foldlM (Draft.take s) { id := id } =
      some ⟨id, username, none, none, false⟩ := by
    cases username with
    | none => rfl
    | some username => exact Draft.foldlM_take_cons.2 ⟨_, .username hs rfl username, rfl⟩
  have hhash : (given .passwordHash passwordHash).foldlM (Draft.take s)
      ⟨id, username, none, none, false⟩ = some ⟨id, username, passwordHash, none, false⟩ := by
    cases passwordHash with
    | none => rfl
    | some hash => exact Draft.foldlM_take_cons.2 ⟨_, .passwordHash hs rfl hash, rfl⟩
  rw [List.foldlM_append, husername, Option.bind_eq_bind, Option.bind_some, List.foldlM_append,
    hhash]
  exact foldlM_dates h hs hclear rfl rfl

/-- The arguments of an action, taken one after the other, make it. -/
theorem action?_of_asks (h : Asks env s as action) :
    ∃ d, as.foldlM (Draft.take s) {} = some d ∧ action? env s d = some action := by
  cases h with
  | setUp => exact ⟨_, rfl, rfl⟩
  | @view _ id hread | @remove _ id hread =>
    exact ⟨{ id := some id }, Draft.foldlM_take_cons.2 ⟨_, .id rfl rfl hread, rfl⟩, rfl⟩
  | @register username hash passwordHash dates birthDate hhash hdates =>
    have hclear : birthDate.map some = some none → Subcommand.register = .change := by
      cases birthDate <;> simp
    refine ⟨Draft.withDates ⟨none, some username, hash, none, false⟩ (birthDate.map some), ?_, ?_⟩
    · exact @foldlM_fields .register dates _ (some username) hash none hdates rfl hclear
    · rw [action?, Draft.withDates, hhash]
      cases birthDate <;> rfl
  | @change text id dates changes hread hdates =>
    refine ⟨Draft.withDates ⟨some id, changes.username, changes.passwordHash, none, false⟩
      changes.birthDate, ?_, ?_⟩
    · exact Draft.foldlM_take_cons.2
        ⟨_, .id rfl rfl hread, foldlM_fields hdates rfl fun _ => rfl⟩
    · obtain ⟨username, birthDate, passwordHash⟩ := changes
      rcases birthDate with _ | _ | date <;> rfl

/-- Of the two options for a birth date, a draft that has at most one asks for its change. -/
theorem asksForBirthDate_arguments {date : Option String}
    (h : Option.Rel (fun text date => Date.read? text.toList = some date) date d.birthDate)
    (hone : ¬ (d.clearBirthDate && d.birthDate.isSome) = true) :
    AsksForBirthDate (given .birthDate date ++ if d.clearBirthDate then [.clearBirthDate] else [])
      (birthDateChange d) := by
  obtain ⟨id, username, passwordHash, birthDate, clearBirthDate⟩ := d
  cases h with
  | none =>
    cases clearBirthDate with
    | false => exact .keep
    | true => exact .clear
  | some hread =>
    cases clearBirthDate with
    | false => exact .set hread
    | true => exact absurd rfl hone

/-- The arguments that make a draft ask for the action that is made of it. -/
theorem asks_of_madeOf (h : d.MadeOf s as) (ha : action? env s d = some action) :
    ∃ bs, as.Perm bs ∧ Asks env s bs action := by
  obtain ⟨hhas, date, id, hdate, hid, hperm⟩ := h
  obtain ⟨hnoId, hnoFields, hnoClear⟩ :=
    Draft.eq_none_of_has fun b hb => hhas b (hperm.mem_iff.2 hb)
  refine ⟨_, hperm, ?_⟩
  cases s with
  | setUp =>
    obtain ⟨husername, hhash, rfl⟩ := hnoFields rfl
    obtain rfl := hnoId rfl
    cases ha
    rw [Draft.arguments, husername, hhash, hnoClear (by simp)]
    exact .setUp
  | register =>
    obtain rfl := hnoId rfl
    obtain ⟨username, husername, ha⟩ := Option.bind_eq_some_iff.1 ha
    obtain ⟨passwordHash, hhash, ha⟩ := Option.bind_eq_some_iff.1 ha
    cases ha
    have hclear := hnoClear (by simp)
    have hdates := asksForBirthDate_arguments hdate (by simp [hclear])
    have hchange : birthDateChange d = d.birthDate.map some := by simp [birthDateChange, hclear]
    rw [Draft.arguments, husername]
    exact .register username hhash (hchange ▸ hdates)
  | change =>
    rw [action?] at ha
    split_ifs at ha with hone
    obtain ⟨id, hsome, rfl⟩ := Option.map_eq_some_iff.1 ha
    rw [hsome] at hid
    cases hid with
    | @some text _ hread =>
      exact @Asks.change env text id _ ⟨d.username, birthDateChange d, d.passwordHash⟩ hread
        (asksForBirthDate_arguments hdate hone)
  | view | remove =>
    obtain ⟨husername, hhash, rfl⟩ := hnoFields rfl
    obtain ⟨id, hsome, rfl⟩ := Option.map_eq_some_iff.1 ha
    rw [hsome] at hid
    cases hid with
    | some hread =>
      rw [Draft.arguments, husername, hhash, hnoClear (by simp)]
      first | exact .view hread | exact .remove hread

/-! ### Whole command lines -/

theorem toOption_readSubcommand (env : Environment) (s : Subcommand) (ws : List Word) :
    (readSubcommand env s ws).toOption = (draft? s (.settled {}) ws).bind (action? env s) := by
  have hstart : ({} : Progress) = .settled {} := rfl
  rw [readSubcommand, toOption_bind, hstart, draft?, Option.bind_assoc]
  congr 1
  funext p
  rw [toOption_bind, toOption_mapError]
  congr 1
  funext d
  rw [toOption_mapError, toOption_actionOf]

theorem toOption_eq_some_iff {ε α : Type} {e : Except ε α} {a : α} :
    e.toOption = some a ↔ e = .ok a := by
  cases e <;> simp [Except.toOption]

/-- Only a command line that begins with the name of a subcommand asks for an action. -/
theorem toOption_read_eq_some_iff {ws : List Word} :
    (read env ws).toOption = some action ↔ ∃ s rest, ws = .text s.name :: rest ∧
      (readSubcommand env s rest).toOption = some action := by
  constructor
  · intro h
    rcases ws with _ | ⟨name | bytes, rest⟩
    · cases h
    · rw [read] at h
      split at h
      · next s hs =>
        obtain rfl := Subcommand.name_of_ofName? hs
        exact ⟨s, rest, rfl, h⟩
      · split_ifs at h <;> cases h
    · cases h
  · rintro ⟨s, rest, rfl, h⟩
    rw [read, Subcommand.ofName?_name]
    exact h

/-- A command line is accepted as an action exactly if it spells it. -/
theorem read_eq_ok_iff_spells {ws : List Word} :
    read env ws = .ok action ↔ Spells env ws action := by
  rw [← toOption_eq_some_iff, toOption_read_eq_some_iff]
  constructor
  · rintro ⟨s, rest, rfl, h⟩
    rw [toOption_readSubcommand] at h
    obtain ⟨d, hd, haction⟩ := Option.bind_eq_some_iff.1 h
    obtain ⟨spelled, hspelled⟩ := spelled_of_draft? hd
    rw [draft?_of_spelled hspelled] at hd
    have hmade := Draft.madeOf_of_foldlM hd (Draft.madeOf_nil s)
    rw [List.append_nil] at hmade
    obtain ⟨asked, hperm, hasks⟩ := asks_of_madeOf hmade haction
    exact ⟨s, spelled, asked, rest, rfl, hspelled, hperm, hasks⟩
  · rintro ⟨s, spelled, asked, rest, rfl, hspelled, hperm, hasks⟩
    obtain ⟨d, hd, haction⟩ := action?_of_asks hasks
    refine ⟨s, rest, rfl, ?_⟩
    rw [toOption_readSubcommand, draft?_of_spelled hspelled,
      Draft.foldlM_take_perm hperm.symm hd, Option.bind_some]
    exact haction

/-! ### Every action has a command line -/

/-- The number has 64 bits. -/
def IsId (id : Int) : Prop :=
  -9223372036854775808 ≤ id ∧ id ≤ 9223372036854775807

theorem isId_of_readId? {text : String} {id : Int} (h : readId? text = some id) : IsId id := by
  obtain ⟨-, hbounds⟩ := Option.filter_eq_some_iff.1 h
  rwa [Bool.and_eq_true, decide_eq_true_iff, decide_eq_true_iff] at hbounds

/-- A number that is written is read. -/
theorem readSigned?_signedDigits (least greatest id : Int) :
    readSigned? least greatest (signedDigits id) =
      (some id).filter fun n => least ≤ n && n ≤ greatest := by
  cases id with
  | negSucc n =>
    rw [signedDigits, readSigned?, readDigits?_digits]
    rfl
  | ofNat n =>
    have hsign : ∀ {c : Char} {ds : List Char}, digits n = c :: ds → c.isDigit = true := by
      intro c ds hds
      exact isDigit_of_mem_digits (hds ▸ List.mem_cons_self)
    rw [signedDigits, readSigned?.eq_def]
    split
    · next hds => exact absurd (hsign hds) (by decide)
    · next hds => exact absurd (hsign hds) (by decide)
    · rw [readDigits?_digits]
      rfl

theorem readId?_signedDigits {id : Int} (h : IsId id) :
    readId? (String.ofList (signedDigits id)) = some id := by
  rw [readId?, String.toList_ofList, readSigned?_signedDigits]
  refine Option.filter_eq_some_iff.2 ⟨rfl, ?_⟩
  rwa [Bool.and_eq_true, decide_eq_true_iff, decide_eq_true_iff]

/-- Options can be spelled in front of anything else. -/
theorem exists_spelled_append {ws : List Word} (h : ∀ a ∈ as, ∀ text, a ≠ .id text)
    (hbs : Spelled bs ws) : ∃ ws, Spelled (as ++ bs) ws := by
  induction as with
  | nil => exact ⟨ws, hbs⟩
  | cons a as ih =>
    obtain ⟨ha, has⟩ := List.forall_mem_cons.1 h
    obtain ⟨ws, hws⟩ := ih has
    cases a with
    | field f value => exact ⟨_, .cons (.attached f value) hws⟩
    | clearBirthDate => exact ⟨_, .cons .clearBirthDate hws⟩
    | id text => exact absurd rfl (ha text)

theorem ne_id_of_mem_given {f : Field} {value : Option String} :
    ∀ a ∈ given f value, ∀ text, a ≠ .id text := by
  intro a ha text
  obtain ⟨value, -, rfl⟩ := Option.map_eq_some_iff.1 (Option.mem_toList.1 ha)
  simp

theorem ne_id_of_asksForBirthDate {change : Option (Option Date)} (h : AsksForBirthDate as change) :
    ∀ a ∈ as, ∀ text, a ≠ .id text := by
  cases h <;> simp

/-- Whatever can be asked for can be spelled. -/
theorem exists_spells_of_asks (h : Asks env s as action) : ∃ ws, Spells env ws action := by
  have hfields : ∀ {username passwordHash : Option String} {dates : List Argument}
      {change : Option (Option Date)}, AsksForBirthDate dates change →
      ∀ a ∈ given .username username ++ (given .passwordHash passwordHash ++ dates),
        ∀ text, a ≠ .id text := by
    intro username passwordHash dates change hdates
    rw [List.forall_mem_append, List.forall_mem_append]
    exact ⟨ne_id_of_mem_given, ne_id_of_mem_given, ne_id_of_asksForBirthDate hdates⟩
  have hasks := h
  cases h with
  | setUp => exact ⟨_, .setUp, [], [], [], rfl, .nil, .refl _, hasks⟩
  | view => exact ⟨_, .view, _, _, _, rfl, .afterHyphens _, .refl _, hasks⟩
  | remove => exact ⟨_, .remove, _, _, _, rfl, .afterHyphens _, .refl _, hasks⟩
  | @register username hash _ dates _ _ hdates =>
    obtain ⟨ws, hws⟩ := exists_spelled_append (@hfields (some username) hash _ _ hdates) .nil
    rw [List.append_nil] at hws
    exact ⟨_, .register, _, _, ws, rfl, hws, .refl _, hasks⟩
  | @change text _ _ changes _ hdates =>
    -- the identifier, which may look like an option, is best given last
    obtain ⟨ws, hws⟩ := exists_spelled_append
      (@hfields changes.username changes.passwordHash _ _ hdates) (.afterHyphens text)
    exact ⟨_, .change, _, _, ws, rfl, hws, List.perm_append_singleton _ _, hasks⟩

theorem exists_asksForBirthDate (change : Option (Option Date)) :
    ∃ dates, AsksForBirthDate dates change := by
  rcases change with _ | _ | date
  · exact ⟨_, .keep⟩
  · exact ⟨_, .clear⟩
  · exact ⟨_, .set (Date.read?_toString date)⟩

/-- Every action can be asked for, as long as the identifier in it has 64 bits. -/
theorem exists_asks (env : Environment) (h : ∀ id, action.id? = some id → IsId id) :
    ∃ s as, Asks env s as action := by
  cases action with
  | setUp => exact ⟨_, _, .setUp⟩
  | register username passwordHash birthDate =>
    obtain ⟨dates, hdates⟩ := exists_asksForBirthDate (birthDate.map some)
    exact ⟨_, _, @Asks.register env username (some passwordHash) _ _ _ rfl hdates⟩
  | view id => exact ⟨_, _, .view (readId?_signedDigits (h id rfl))⟩
  | change id changes =>
    obtain ⟨dates, hdates⟩ := exists_asksForBirthDate changes.birthDate
    exact ⟨_, _, .change (readId?_signedDigits (h id rfl)) hdates⟩
  | remove id => exact ⟨_, _, .remove (readId?_signedDigits (h id rfl))⟩

theorem isId_of_asks (h : Asks env s as action) {id : Int} (hid : action.id? = some id) :
    IsId id := by
  cases h with
  | setUp | register => cases hid
  | view hread | remove hread | change hread =>
    cases hid
    exact isId_of_readId? hread

/-! ### The command line -/

/-- A command line is accepted as an action exactly if it spells it; otherwise it asks for help or
is a mistake.  No command line spells two actions, and every action has a command line, as long as
the identifier in it has 64 bits. -/
theorem command_lines_read (env : Environment) :
    (∀ ws action, read env ws = .ok action ↔ Spells env ws action) ∧
      (∀ ws, (∀ action, ¬ Spells env ws action) ↔
        read env ws = .error .help ∨ ∃ mistake, read env ws = .error (.usage mistake)) ∧
      (∀ ws action other, Spells env ws action → Spells env ws other → action = other) ∧
      ∀ action, (∃ ws, Spells env ws action) ↔ ∀ id, action.id? = some id → IsId id := by
  have hread : ∀ ws action, read env ws = .ok action ↔ Spells env ws action :=
    fun ws action => read_eq_ok_iff_spells
  refine ⟨hread, fun ws => ⟨fun h => ?_, fun h action hspells => ?_⟩,
    fun ws action other h h' => ?_, fun action => ⟨?_, fun h => ?_⟩⟩
  · cases hws : read env ws with
    | ok action => exact absurd ((hread ws action).1 hws) (h action)
    | error stop =>
      cases stop with
      | help => exact .inl rfl
      | usage mistake => exact .inr ⟨mistake, rfl⟩
  · rw [(hread ws action).2 hspells] at h
    rcases h with h | ⟨mistake, h⟩ <;> cases h
  · have h := ((hread ws action).2 h).symm.trans ((hread ws other).2 h')
    cases h
    rfl
  · rintro ⟨ws, s, spelled, asked, rest, -, -, -, hasks⟩ id hid
    exact isId_of_asks hasks hid
  · obtain ⟨s, as, hasks⟩ := exists_asks env h
    exact exists_spells_of_asks hasks

/-- An update whose every part needs its own form: a lone hyphen as a value, a cleared birth date
and, behind two hyphens, a negative identifier. -/
theorem command_line_of_update :
    read [] [.text "update", .text "--clear-birth-date", .text "--username", .text "-", .text "--",
      .text "-5"] = .ok (.change (-5) ⟨some "-", some none, none⟩) := by
  have hspelled : Spelled [.clearBirthDate, .field .username "-", .id "-5"]
      [.text "--clear-birth-date", .text "--username", .text "-", .text "--", .text "-5"] :=
    .cons .clearBirthDate (.cons (.apart .username (.inl rfl)) (.afterHyphens "-5"))
  have hid : readId? "-5" = some (-5) := by decide +kernel
  have hasks : Asks [] .change [.id "-5", .field .username "-", .clearBirthDate]
      (.change (-5) ⟨some "-", some none, none⟩) :=
    @Asks.change [] "-5" (-5) _ ⟨some "-", some none, none⟩ hid .clear
  have hperm : [Argument.clearBirthDate, .field .username "-", .id "-5"].Perm
      [.id "-5", .field .username "-", .clearBirthDate] := by decide
  exact ((command_lines_read []).1 _ _).2 ⟨.change, _, _, _, rfl, hspelled, hperm, hasks⟩

end CommandLine

end Accounts
