import Accounts.CommandLine
import Mathlib.Data.List.TakeWhile
import Mathlib.Tactic.Common

/-!
# Accounts.Proofs.Tokens — what the words of a command line are taken for

The names that a command line is made of, and all that a word can be taken for (`Token.Taken`): an
option by its name alone, one with a value attached, two hyphens, or a value.  A text is taken for a
value exactly if it does not begin with a hyphen or is nothing else.
-/

namespace Accounts.CommandLine

/-! ### Names -/

/-- The name of a subcommand. -/
def Subcommand.name : Subcommand → String
  | .setUp => "init-schema"
  | .register => "create"
  | .view => "show"
  | .change => "update"
  | .remove => "delete"

/-- The name of an option with a value. -/
def Field.name : Field → String
  | .username => "username"
  | .passwordHash => "password-hash"
  | .birthDate => "birth-date"

/-- The name of the option that clears the birth date. -/
def clearName : String := "clear-birth-date"

namespace Subcommand

theorem ofName?_name (s : Subcommand) : ofName? s.name = some s := by
  cases s <;> rfl

theorem name_of_ofName? {name : String} {s : Subcommand} (h : ofName? name = some s) :
    name = s.name := by
  unfold ofName? at h
  split_ifs at h <;> cases h <;> assumption

theorem flag?_field_name {s : Subcommand} (h : s.takesFields = true) (f : Field) :
    s.flag? f.name = some (.field f) := by
  cases f <;> simp [flag?, Field.name, h]

theorem flag?_field_name_of_not {s : Subcommand} (h : s.takesFields = false) (f : Field) :
    s.flag? f.name = none := by
  cases f <;> simp [flag?, Field.name, h]

theorem flag?_clearName (s : Subcommand) :
    s.flag? clearName = if s = .change then some .clearBirthDate else none := by
  simp [flag?, clearName]

theorem of_flag?_field {s : Subcommand} {name : String} {f : Field}
    (h : s.flag? name = some (.field f)) : name = f.name ∧ s.takesFields = true := by
  unfold flag? at h
  split_ifs at h with _ hname hhash hbirth <;> cases h
  · exact hname
  · exact hhash
  · exact hbirth

theorem of_flag?_clear {s : Subcommand} {name : String}
    (h : s.flag? name = some .clearBirthDate) : name = clearName ∧ s = .change := by
  unfold flag? at h
  split_ifs at h with _ _ _ _ hclear <;> cases h
  exact hclear

end Subcommand

/-! ### Words and what they are taken for -/

/-- The text does not look like an option. -/
def IsPlain (text : String) : Prop :=
  text.toList.head? ≠ some '-'

/-- The text can be the value of an option in a word of its own. -/
def IsValue (text : String) : Prop :=
  text = "-" ∨ IsPlain text

namespace Token

theorem ofWord_of_isValue {text : String} (h : IsValue text) :
    ofWord (.text text) = .value (.text text) := by
  rcases h with rfl | h
  · rfl
  · have hplain : ∀ cs, text.toList ≠ '-' :: cs := by
      intro cs hcs
      exact h (by rw [hcs]; rfl)
    rw [ofWord, ofChars.eq_def]
    split
    · next hcs => exact absurd hcs (hplain _)
    · next hcs => exact absurd hcs (hplain _)
    · next hcs => exact absurd hcs (hplain _)
    · next hcs => exact absurd hcs (hplain _)
    · rw [String.ofList_toList]

/-- Two hyphens and more make a long option. -/
theorem ofChars_long {cs : List Char} (h : cs ≠ []) :
    ofChars ('-' :: '-' :: cs) = longOfChars cs := by
  rw [ofChars]
  exact h

theorem ofWord_longName {name : String} (hname : name ≠ "") (h : ∀ c ∈ name.toList, c ≠ '=') :
    ofWord (.text ("--" ++ name)) = .long name none := by
  have hdecide : ∀ c ∈ name.toList, decide (c ≠ '=') = true :=
    fun c hc => decide_eq_true (h c hc)
  have hfront : name.toList.takeWhile (· ≠ '=') = name.toList :=
    List.takeWhile_eq_self_iff.2 hdecide
  have hback : name.toList.dropWhile (· ≠ '=') = [] := List.dropWhile_eq_nil_iff.2 hdecide
  have hchars : ("--" ++ name).toList = '-' :: '-' :: name.toList := by simp
  have hne : name.toList ≠ [] := fun hnil => hname (String.toList_inj.1 hnil)
  rw [ofWord, hchars, ofChars_long hne]
  simp only [longOfChars, hfront, hback, String.ofList_toList]

theorem ofWord_longValue {name : String} (h : ∀ c ∈ name.toList, c ≠ '=') (value : String) :
    ofWord (.text ("--" ++ name ++ "=" ++ value)) = .long name (some (.text value)) := by
  have hdecide : ∀ c ∈ name.toList, decide (c ≠ '=') = true :=
    fun c hc => decide_eq_true (h c hc)
  have hfront : (name.toList ++ '=' :: value.toList).takeWhile (· ≠ '=') = name.toList := by
    rw [List.takeWhile_append_of_pos hdecide, List.takeWhile_cons_of_neg (by simp), List.append_nil]
  have hback : (name.toList ++ '=' :: value.toList).dropWhile (· ≠ '=') = '=' :: value.toList := by
    rw [List.dropWhile_append_of_pos hdecide, List.dropWhile_cons_of_neg (by simp)]
  have hchars : ("--" ++ name ++ "=" ++ value).toList =
      '-' :: '-' :: (name.toList ++ '=' :: value.toList) := by simp
  rw [ofWord, hchars, ofChars_long (by simp)]
  simp only [longOfChars, hfront, hback, String.ofList_toList]

/-- All that a word can be taken for. -/
inductive Taken : Word → Token → Prop
  | endOfOptions : Taken (.text "--") .endOfOptions
  | longName (name : String) : Taken (.text ("--" ++ name)) (.long name none)
  | longValue (name value : String) :
    Taken (.text ("--" ++ name ++ "=" ++ value)) (.long name (some (.text value)))
  | longBytes (w : Word) (name : String) (bytes : List UInt8) :
    Taken w (.long name (some (.bytes bytes)))
  | helpLetter (w : Word) : Taken w .helpLetter
  | stray (w : Word) : Taken w .stray
  | text {text : String} (h : IsValue text) : Taken (.text text) (.value (.text text))
  | bytes (bytes : List UInt8) : Taken (.bytes bytes) (.value (.bytes bytes))

theorem taken_ofBytes (bytes : List UInt8) : Taken (.bytes bytes) (ofBytes bytes) := by
  rw [ofBytes.eq_def]
  split
  · unfold longOfBytes
    dsimp only
    split
    · split
      · exact .stray _
      · exact .longBytes _ _ _
    · exact .stray _
  · exact .helpLetter _
  · exact .stray _
  · exact .bytes _

/-- What follows two hyphens is a name, up to the first equals sign, and a value. -/
theorem taken_longOfChars (cs : List Char) :
    Taken (.text ("--" ++ String.ofList cs)) (longOfChars cs) := by
  unfold longOfChars
  have hsplit := List.takeWhile_append_dropWhile (p := (· ≠ '=')) (l := cs)
  dsimp only
  split
  · next hrest =>
    rw [hrest, List.append_nil] at hsplit
    rw [hsplit]
    exact .longName _
  · next c rest hrest =>
    have hc : c = '=' := by
      by_contra hne
      have hhead := List.head?_dropWhile_not (fun c => decide (c ≠ '=')) cs
      rw [hrest, List.head?_cons] at hhead
      exact absurd hhead (by simp [hne])
    have hword : "--" ++ String.ofList cs = "--" ++ String.ofList (cs.takeWhile (· ≠ '=')) ++ "=" ++
        String.ofList rest := by
      rw [hrest, hc] at hsplit
      apply String.toList_inj.1
      simpa using hsplit.symm
    rw [hword]
    exact .longValue _ _

theorem taken_ofWord (w : Word) : Taken w (ofWord w) := by
  cases w with
  | bytes bytes => exact taken_ofBytes bytes
  | text s =>
    by_cases hvalue : IsValue s
    · rw [ofWord_of_isValue hvalue]
      exact .text hvalue
    · rw [ofWord, ofChars.eq_def]
      split
      · next hs =>
        obtain rfl : s = "--" := String.toList_inj.1 hs
        exact .endOfOptions
      · next cs _ hs =>
        obtain rfl : s = "--" ++ String.ofList cs := String.toList_inj.1 (by simp [hs])
        exact taken_longOfChars cs
      · exact .helpLetter _
      · exact .stray _
      · next h₂ h₃ h₄ h₅ =>
        -- a text that begins with a hyphen and something else is an option
        refine absurd ?_ hvalue
        cases hs : s.toList with
        | nil => exact .inr (by rw [IsPlain, hs]; simp)
        | cons c cs =>
          by_cases hc : c = '-'
          · cases cs with
            | nil => exact .inl (String.toList_inj.1 (by rw [hs, hc]; rfl))
            | cons d ds => exact absurd (by rw [hs, hc]) (h₅ d ds)
          · exact .inr (by rw [IsPlain, hs]; simpa using hc)

end Token

end Accounts.CommandLine
