import Accounts.Proofs.WrittenDates
import Accounts.User

/-!
# Accounts.Proofs.JsonTexts — what a JSON text of a user holds

A text between quotes ends where its own quotes say and nowhere else (`Json.unquote?_quote`), so a
record reads back from its tokens however they are spaced (`Json.Layout.Sound.read?_chars`), and
taking the white space between them away makes a pretty text compact (`Json.squeeze_pretty`).  Both
texts of a user hold the same, which is all of it but the hash (`shown_of_json`).
-/

namespace Accounts

open Calendar Text

namespace Json

/-! ### Texts between quotes -/

theorem ofShortEscape?_shortEscape? {c letter : Char} (h : shortEscape? c = some letter) :
    ofShortEscape? letter = some c ∧ letter ≠ 'u' := by
  unfold shortEscape? at h
  split at h <;> cases h <;> exact ⟨rfl, by decide⟩

theorem ne_of_shortEscape?_eq_none {c : Char} (h : shortEscape? c = none) : c ≠ '"' ∧ c ≠ '\\' := by
  constructor <;> rintro rfl <;> cases h

theorem hexValue?_digitChar {n : Nat} (h : n < 16) : hexValue? (Nat.digitChar n) = some n := by
  have hall : ∀ n < 16, hexValue? (Nat.digitChar n) = some n := by decide
  exact hall n h

/-- The long escape of a control character numbers it. -/
theorem ofHex?_of_lt {c : Char} (h : c.toNat < 0x20) :
    ofHex? '0' '0' (Nat.digitChar (c.toNat / 16)) (Nat.digitChar (c.toNat % 16)) = some c := by
  have hzero : hexValue? '0' = some 0 := rfl
  have hhigh : hexValue? (Nat.digitChar (c.toNat / 16)) = some (c.toNat / 16) :=
    hexValue?_digitChar (by omega)
  have hlow : hexValue? (Nat.digitChar (c.toNat % 16)) = some (c.toNat % 16) :=
    hexValue?_digitChar (by omega)
  have hvalue : 4096 * 0 + 256 * 0 + 16 * (c.toNat / 16) + c.toNat % 16 = c.toNat := by omega
  simp only [ofHex?, hzero, hhigh, hlow, Option.bind_eq_bind, Option.bind_some, hvalue]
  exact (if_pos c.valid).trans (congrArg some (Char.ofNat_toNat c))

/-- A character that was escaped reads back as itself, and what follows is read as it stands. -/
theorem unquote?_escape (c : Char) (rest : List Char) :
    unquote? (escape c ++ rest) = (unquote? rest).map (consRead c) := by
  unfold escape
  split
  · next letter hletter =>
    obtain ⟨hback, hu⟩ := ofShortEscape?_shortEscape? hletter
    simp [unquote?, hback, hu]
  · next hnone =>
    obtain ⟨hquote, hslash⟩ := ne_of_shortEscape?_eq_none hnone
    split_ifs with hcontrol
    · simp [unquote?, ofHex?_of_lt hcontrol]
    · simp [unquote?, hslash, hcontrol]

/-- A text between quotes ends at its closing quote. -/
theorem unquote?_quote (cs rest : List Char) :
    unquote? (cs.flatMap escape ++ '"' :: rest) = some (cs, rest) := by
  induction cs with
  | nil => rw [List.flatMap_nil, List.nil_append, unquote?]
  | cons c cs ih =>
    rw [List.flatMap_cons, List.append_assoc, unquote?_escape, ih]
    rfl

/-! ### Tokens -/

/-- The piece of text stands for a token, whatever follows. -/
def Spells (piece : List Char) (token : Token) : Prop :=
  ∀ rest, tokens? (piece ++ rest) = (tokens? rest).map (token :: ·)

theorem tokens?_spaces {spaces : List Char} (h : spaces.all isSpace = true) (rest : List Char) :
    tokens? (spaces ++ rest) = tokens? rest := by
  induction spaces with
  | nil => rfl
  | cons c spaces ih =>
    obtain ⟨hc, hspaces⟩ := Bool.and_eq_true_iff.1 h
    rw [List.cons_append, tokens?.eq_def]
    exact (if_pos hc).trans (ih hspaces)

/-- White space may stand on either side of a token. -/
theorem Spells.spaced {piece : List Char} {token : Token} (h : Spells piece token)
    (before after : List Char) (hbefore : before.all isSpace = true)
    (hafter : after.all isSpace = true) : Spells (before ++ piece ++ after) token := by
  intro rest
  rw [List.append_assoc, List.append_assoc, tokens?_spaces hbefore, h, tokens?_spaces hafter]

theorem spells_punctuation {c : Char} {token : Token} (hspace : isSpace c = false)
    (h : punctuation? c = some token) : Spells [c] token := by
  intro rest
  rw [List.singleton_append, tokens?.eq_def]
  simp [hspace, h]

theorem spells_quote (s : String) : Spells (quote s.toList) (.scalar (.text s)) := by
  intro rest
  have hread := unquote?_quote s.toList rest
  have hspace : isSpace '"' = false := by decide
  have hpunctuation : punctuation? '"' = none := rfl
  rw [quote, List.cons_append, List.cons_append, List.append_assoc, List.singleton_append,
    tokens?.eq_def]
  simp only [hspace, hpunctuation, Bool.false_eq_true, if_false, if_true]
  split
  · next text after hafter =>
    rw [hread] at hafter
    cases hafter
    rw [String.ofList_toList]
  · next hafter =>
    rw [hread] at hafter
    cases hafter

theorem punctuation?_of_isDigit {c : Char} (h : c.isDigit = true) :
    isSpace c = false ∧ punctuation? c = none ∧ c ≠ '"' ∧ c ≠ 'n' ∧ c ≠ '-' := by
  have hne : ∀ d : Char, d.isDigit = false → c ≠ d := by
    rintro d hd rfl
    rw [hd] at h
    cases h
  refine ⟨?_, ?_, hne _ (by decide), hne _ (by decide), hne _ (by decide)⟩
  · simp [isSpace, hne ' ' (by decide), hne '\n' (by decide), hne '\r' (by decide),
      hne '\t' (by decide)]
  · unfold punctuation?
    split <;> first | rfl | exact absurd h (by decide)

/-- A number ends where the text stops. -/
theorem tokens?_digits (n : Nat) {rest : List Char} (hrest : Stops rest) :
    tokens? (digits n ++ rest) = (tokens? rest).map (.scalar (.number n) :: ·) := by
  have hds : ∀ c ∈ digits n, c.isDigit = true := fun _ => isDigit_of_mem_digits
  obtain ⟨d, ds, hcons⟩ := List.exists_cons_of_ne_nil (digits_ne_nil n)
  have hread := readDigits?_digits n
  rw [hcons] at hds hread ⊢
  obtain ⟨hd, hds⟩ := List.forall_mem_cons.1 hds
  obtain ⟨hspace, hpunctuation, hquote, hn, hminus⟩ := punctuation?_of_isDigit hd
  rw [List.cons_append, tokens?.eq_def]
  simp only [hspace, hpunctuation, hquote, hn, hminus, hd, Bool.false_eq_true, if_false, if_true,
    takeWhile_isDigit_append hds hrest, dropWhile_isDigit_append hds hrest, hread,
    Option.bind_eq_bind, Option.bind_some]

theorem tokens?_minus (n : Nat) {rest : List Char} (hrest : Stops rest) :
    tokens? ('-' :: digits n ++ rest) =
      (tokens? rest).map (.scalar (.number (-(n : Int))) :: ·) := by
  have hds : ∀ c ∈ digits n, c.isDigit = true := fun _ => isDigit_of_mem_digits
  have hspace : isSpace '-' = false := by decide
  have hpunctuation : punctuation? '-' = none := rfl
  have hquote : ¬ '-' = '"' := by decide
  have hn : ¬ '-' = 'n' := by decide
  rw [List.cons_append, tokens?.eq_def]
  simp only [hspace, hpunctuation, hquote, hn, Bool.false_eq_true, if_false, if_true,
    takeWhile_isDigit_append hds hrest, dropWhile_isDigit_append hds hrest, readDigits?_digits,
    Option.bind_eq_bind, Option.bind_some]

/-- A scalar is one token, if the text stops after it. -/
theorem tokens?_scalar (v : Scalar) {rest : List Char} (hrest : Stops rest) :
    tokens? (v.toChars ++ rest) = (tokens? rest).map (.scalar v :: ·) := by
  cases v with
  | null =>
    have hspace : isSpace 'n' = false := by decide
    have hpunctuation : punctuation? 'n' = none := rfl
    rw [Scalar.toChars, List.cons_append, tokens?.eq_def]
    simp [hspace, hpunctuation]
  | number n =>
    cases n with
    | ofNat n => exact tokens?_digits n hrest
    | negSucc n => exact tokens?_minus (n + 1) hrest
  | text s => exact spells_quote s rest

/-! ### Records -/

/-- The tokens of a record's members. -/
def memberTokens : Record → List Token
  | [] => []
  | [(key, value)] => [.scalar (.text key), .colon, .scalar value]
  | (key, value) :: r => .scalar (.text key) :: .colon :: .scalar value :: .comma :: memberTokens r

theorem members?_memberTokens {r : Record} (h : r ≠ []) :
    Record.members? (memberTokens r ++ [.closeBrace]) = some r := by
  induction r with
  | nil => exact absurd rfl h
  | cons member r ih =>
    obtain ⟨key, value⟩ := member
    cases r with
    | nil => rfl
    | cons next r =>
      have hrest := ih (List.cons_ne_nil next r)
      simp only [memberTokens, List.cons_append, Record.members?] at hrest ⊢
      rw [hrest, Option.map_some]

/-- How a record is laid out: the pieces of text around its members and in them. -/
structure Layout where
  opening : List Char
  colon : List Char
  comma : List Char
  closing : List Char

namespace Layout

/-- A record with members, laid out. -/
def chars (layout : Layout) (r : Record) : List Char :=
  layout.opening ++ layout.comma.intercalate (r.map (Record.memberChars layout.colon)) ++
    layout.closing

/-- Each piece stands for its token, and no number runs on into the next piece. -/
structure Sound (layout : Layout) : Prop where
  opening : Spells layout.opening .openBrace
  colon : Spells layout.colon .colon
  comma : Spells layout.comma .comma
  closing : Spells layout.closing .closeBrace
  comma_stops : ∀ rest, Stops (layout.comma ++ rest)
  closing_stops : ∀ rest, Stops (layout.closing ++ rest)

variable {layout : Layout}

theorem Sound.tokens?_member (h : layout.Sound) (member : String × Scalar) {rest : List Char}
    (hrest : Stops rest) :
    tokens? (Record.memberChars layout.colon member ++ rest) =
      (tokens? rest).map fun ts =>
        .scalar (.text member.1) :: .colon :: .scalar member.2 :: ts := by
  rw [Record.memberChars, List.append_assoc, List.append_assoc, spells_quote, h.colon,
    tokens?_scalar member.2 hrest, Option.map_map, Option.map_map]
  rfl

theorem Sound.tokens?_members (h : layout.Sound) (r : Record) {rest : List Char}
    (hrest : Stops rest) :
    tokens? (layout.comma.intercalate (r.map (Record.memberChars layout.colon)) ++ rest) =
      (tokens? rest).map (memberTokens r ++ ·) := by
  induction r with
  | nil => simp [memberTokens]
  | cons member r ih =>
    cases r with
    | nil =>
      rw [List.map_cons, List.map_nil, List.intercalate_singleton, h.tokens?_member member hrest]
      rfl
    | cons next r =>
      rw [List.map_cons, List.map_cons, List.intercalate_cons_cons, List.append_assoc,
        List.append_assoc, h.tokens?_member member (h.comma_stops _), h.comma, ← List.map_cons, ih,
        Option.map_map, Option.map_map]
      rfl

/-- A record reads back from its text, however it is laid out. -/
theorem Sound.read?_chars (h : layout.Sound) {r : Record} (hr : r ≠ []) :
    Record.read? (layout.chars r) = some r := by
  have hclosing : tokens? layout.closing = some [.closeBrace] := by
    have := h.closing []
    rwa [List.append_nil, tokens?, Option.map_some] at this
  have hstops : Stops layout.closing := by
    have := h.closing_stops []
    rwa [List.append_nil] at this
  have htokens : tokens? (layout.chars r) =
      some (.openBrace :: (memberTokens r ++ [.closeBrace])) := by
    rw [chars, List.append_assoc, h.opening, h.tokens?_members r hstops, hclosing,
      Option.map_some, Option.map_some]
  obtain ⟨member, r, rfl⟩ := List.exists_cons_of_ne_nil hr
  have hmembers := members?_memberTokens hr
  cases r <;> simp only [Record.read?, htokens, memberTokens, List.cons_append] at hmembers ⊢ <;>
    exact hmembers

end Layout

/-- The layout on one line. -/
def compactLayout : Layout :=
  ⟨['\x7b'], [':'], [','], ['\x7d']⟩

/-- The layout with a line for each member. -/
def prettyLayout : Layout :=
  ⟨['\x7b', '\n', ' ', ' '], [':', ' '], [',', '\n', ' ', ' '], ['\n', '\x7d']⟩

theorem compactLayout_sound : compactLayout.Sound where
  opening := spells_punctuation (by decide) rfl
  colon := spells_punctuation (by decide) rfl
  comma := spells_punctuation (by decide) rfl
  closing := spells_punctuation (by decide) rfl
  comma_stops := Stops.cons (by decide)
  closing_stops := Stops.cons (by decide)

theorem prettyLayout_sound : prettyLayout.Sound where
  opening := (spells_punctuation (c := '\x7b') (by decide) rfl).spaced [] ['\n', ' ', ' '] rfl rfl
  colon := (spells_punctuation (c := ':') (by decide) rfl).spaced [] [' '] rfl rfl
  comma := (spells_punctuation (c := ',') (by decide) rfl).spaced [] ['\n', ' ', ' '] rfl rfl
  closing := (spells_punctuation (c := '\x7d') (by decide) rfl).spaced ['\n'] [] rfl rfl
  comma_stops := fun _ => Stops.cons (by decide) _
  closing_stops := fun _ => Stops.cons (by decide) _

theorem compact_eq (r : Record) : r.compact = compactLayout.chars r := rfl

theorem pretty_eq {r : Record} (h : r ≠ []) : r.pretty = prettyLayout.chars r := by
  obtain ⟨member, r, rfl⟩ := List.exists_cons_of_ne_nil h
  rfl

/-! ### White space -/

/-- The text without the white space outside its strings.  The flag tells whether the text begins
inside a string, where a backslash takes the next character with it. -/
def squeeze : Bool → List Char → List Char
  | _, [] => []
  | true, '\\' :: c :: rest => '\\' :: c :: squeeze true rest
  | true, c :: rest => c :: squeeze (c ≠ '"') rest
  | false, c :: rest => if isSpace c then squeeze false rest else c :: squeeze (c = '"') rest

/-- Outside of strings, the piece of text is squeezed to another, whatever follows. -/
def SqueezesTo (piece squeezed : List Char) : Prop :=
  ∀ rest, squeeze false (piece ++ rest) = squeezed ++ squeeze false rest

theorem SqueezesTo.append {piece piece' squeezed squeezed' : List Char}
    (h : SqueezesTo piece squeezed) (h' : SqueezesTo piece' squeezed') :
    SqueezesTo (piece ++ piece') (squeezed ++ squeezed') := by
  intro rest
  rw [List.append_assoc, h, h', List.append_assoc]

theorem squeezesTo_spaces {spaces : List Char} (h : spaces.all isSpace = true) :
    SqueezesTo spaces [] := by
  intro rest
  induction spaces with
  | nil => rfl
  | cons c spaces ih =>
    obtain ⟨hc, hspaces⟩ := Bool.and_eq_true_iff.1 h
    rw [List.cons_append, squeeze, if_pos hc, ih hspaces]

/-- The character is neither white space nor the beginning of a string. -/
def isBare (c : Char) : Bool :=
  !isSpace c && c ≠ '"'

/-- Text without white space and without strings stays. -/
theorem squeezesTo_self {piece : List Char} (h : piece.all isBare = true) :
    SqueezesTo piece piece := by
  intro rest
  induction piece with
  | nil => rfl
  | cons c piece ih =>
    obtain ⟨hc, hpiece⟩ := Bool.and_eq_true_iff.1 h
    rw [isBare, Bool.and_eq_true, Bool.not_eq_true', decide_eq_true_iff] at hc
    obtain ⟨hspace, hquote⟩ := hc
    have hout : decide (c = '"') = false := decide_eq_false hquote
    rw [List.cons_append, squeeze, hspace, if_neg Bool.false_ne_true, hout, ih hpiece,
      List.cons_append]

/-- Inside a string, an escaped character stays, and the string goes on after it. -/
theorem squeeze_escape (c : Char) (rest : List Char) :
    squeeze true (escape c ++ rest) = escape c ++ squeeze true rest := by
  unfold escape
  split
  · simp [squeeze]
  · next hnone =>
    obtain ⟨hquote, hslash⟩ := ne_of_shortEscape?_eq_none hnone
    have hdigit : ∀ n < 16, Nat.digitChar n ≠ '"' ∧ Nat.digitChar n ≠ '\\' := by decide
    split_ifs with hcontrol
    · obtain ⟨hhigh, hhigh'⟩ := hdigit (c.toNat / 16) (by omega)
      obtain ⟨hlow, hlow'⟩ := hdigit (c.toNat % 16) (by omega)
      simp [squeeze, hhigh, hhigh', hlow, hlow']
    · simp [squeeze, hquote, hslash]

theorem squeeze_quote (cs rest : List Char) :
    squeeze true (cs.flatMap escape ++ '"' :: rest) =
      cs.flatMap escape ++ '"' :: squeeze false rest := by
  induction cs with
  | nil => simp [squeeze]
  | cons c cs ih => rw [List.flatMap_cons, List.append_assoc, squeeze_escape, ih, List.append_assoc]

/-- A string stays as it is. -/
theorem squeezesTo_quote (cs : List Char) : SqueezesTo (quote cs) (quote cs) := by
  intro rest
  have hspace : isSpace '"' = false := by decide
  rw [quote, List.cons_append, List.cons_append, List.append_assoc, List.singleton_append, squeeze,
    hspace, if_neg Bool.false_ne_true, decide_eq_true rfl, squeeze_quote, List.cons_append,
    List.append_assoc, List.singleton_append]

theorem squeezesTo_scalar (v : Scalar) : SqueezesTo v.toChars v.toChars := by
  have hdigits : ∀ n, (digits n).all isBare = true := by
    intro n
    refine List.all_eq_true.2 fun c hc => ?_
    obtain ⟨hspace, -, hquote, -⟩ := punctuation?_of_isDigit (isDigit_of_mem_digits hc)
    simp [isBare, hspace, hquote]
  cases v with
  | null => exact squeezesTo_self rfl
  | number n =>
    cases n with
    | ofNat n => exact squeezesTo_self (hdigits n)
    | negSucc n => exact squeezesTo_self (hdigits (n + 1))
  | text s => exact squeezesTo_quote s.toList

theorem squeezesTo_members (r : Record) :
    SqueezesTo (prettyLayout.comma.intercalate (r.map (Record.memberChars prettyLayout.colon)))
      (compactLayout.comma.intercalate (r.map (Record.memberChars compactLayout.colon))) := by
  have hmember : ∀ member, SqueezesTo (Record.memberChars prettyLayout.colon member)
      (Record.memberChars compactLayout.colon member) := by
    intro member
    have hcolon : SqueezesTo prettyLayout.colon compactLayout.colon :=
      (@squeezesTo_self [':'] rfl).append
        (@squeezesTo_spaces [' '] rfl)
    exact ((squeezesTo_quote _).append hcolon).append (squeezesTo_scalar member.2)
  have hcomma : SqueezesTo prettyLayout.comma compactLayout.comma :=
    (@squeezesTo_self [','] rfl).append
      (@squeezesTo_spaces ['\n', ' ', ' '] rfl)
  induction r with
  | nil => exact fun rest => rfl
  | cons member r ih =>
    cases r with
    | nil => simpa using hmember member
    | cons next r =>
      simp only [List.map_cons, List.intercalate_cons_cons] at ih ⊢
      exact ((hmember member).append hcomma).append ih

/-- A pretty text is the compact one with white space between its tokens. -/
theorem squeeze_pretty {r : Record} (h : r ≠ []) : squeeze false r.pretty = r.compact := by
  have hopening : SqueezesTo prettyLayout.opening compactLayout.opening :=
    (@squeezesTo_self ['\x7b'] rfl).append
      (@squeezesTo_spaces ['\n', ' ', ' '] rfl)
  have hclosing : SqueezesTo prettyLayout.closing compactLayout.closing :=
    (@squeezesTo_spaces ['\n'] rfl).append
      (@squeezesTo_self ['\x7d'] rfl)
  have hall := (hopening.append (squeezesTo_members r)).append hclosing []
  rw [List.append_nil, squeeze, List.append_nil] at hall
  rw [pretty_eq h, compact_eq]
  exact hall

end Json

/-! ### Users -/

/-- What is shown of a user. -/
structure ShownUser where
  id : Option Int
  username : String
  birthDate : Option Date
  createdAt : Timestamp
  deriving DecidableEq

/-- What the JSON of a user shows. -/
def User.shown (u : User) : ShownUser :=
  ⟨u.id, u.username, u.birthDate, u.createdAt⟩

theorem Json.Scalar.date?_ofDate (date : Option Date) : (Scalar.ofDate date).date? = some date := by
  cases date with
  | none => rfl
  | some d => rw [ofDate, Option.elim_some, date?, Date.read?_toString, Option.map_some]

theorem User.record_ne_nil (u : User) : u.record ≠ [] :=
  List.cons_ne_nil _ _

namespace ShownUser

open Json

def idOf? : Scalar → Option (Option Int)
  | .null => some none
  | .number n => some (some n)
  | .text _ => none

def textOf? : Scalar → Option String
  | .text s => some s
  | .null | .number _ => none

/-- Reads the JSON of a user, in any layout. -/
def decode (text : String) : Option ShownUser := do
  let r ← Record.read? text.toList
  let id ← (r.lookup "id").bind idOf?
  let username ← (r.lookup "username").bind textOf?
  let birthDate ← (r.lookup "birthDate").bind Scalar.date?
  let createdAt ← (r.lookup "createdAt").bind textOf?
  let createdAt ← Timestamp.read? createdAt.toList
  return ⟨id, username, birthDate, createdAt⟩

/-- A text whose record is that of a user is decoded to what the record shows. -/
theorem decode_of_record {text : String} {u : User} (h : Record.read? text.toList = some u.record) :
    decode text = some u.shown := by
  have hid : idOf? (u.id.elim .null .number) = some u.id := by
    cases u.id <;> rfl
  have hmembers : u.record.lookup "id" = some (u.id.elim .null .number) ∧
      u.record.lookup "username" = some (.text u.username) ∧
      u.record.lookup "birthDate" = some (.ofDate u.birthDate) ∧
      u.record.lookup "createdAt" = some (.text (toString u.createdAt)) :=
    ⟨rfl, rfl, rfl, rfl⟩
  obtain ⟨hidMember, hnameMember, hbirthMember, hcreatedMember⟩ := hmembers
  simp [decode, h, hidMember, hnameMember, hbirthMember, hcreatedMember, hid, Scalar.date?_ofDate,
    Timestamp.read?_toString, textOf?, User.shown]

theorem decode_compactJson (u : User) : decode u.compactJson = some u.shown := by
  refine decode_of_record ?_
  rw [User.compactJson, String.toList_ofList, compact_eq,
    compactLayout_sound.read?_chars u.record_ne_nil]

theorem decode_prettyJson (u : User) : decode u.prettyJson = some u.shown := by
  refine decode_of_record ?_
  rw [User.prettyJson, String.toList_ofList, pretty_eq u.record_ne_nil,
    prettyLayout_sound.read?_chars u.record_ne_nil]

end ShownUser

theorem User.shown_eq_iff {u v : User} :
    u.shown = v.shown ↔
      u.id = v.id ∧ u.username = v.username ∧ u.birthDate = v.birthDate ∧
        u.createdAt = v.createdAt := by
  rw [shown, shown, ShownUser.mk.injEq]

/-- The record of a user is made of what is shown of it. -/
theorem User.record_of_shown {u v : User} (h : u.shown = v.shown) : u.record = v.record := by
  obtain ⟨hid, hname, hbirth, hcreated⟩ := shown_eq_iff.1 h
  rw [record, record, hid, hname, hbirth, hcreated]

/-- **The JSON of a user loses nothing that it is meant to show.**  Both texts decode to the
identifier, the username, the birth date and the moment of creation; the pretty one without the
white space outside its strings is the compact one; and two users have the same text exactly if
they agree in these four. -/
theorem shown_of_json :
    (∀ u : User, ShownUser.decode u.compactJson =
        some ⟨u.id, u.username, u.birthDate, u.createdAt⟩ ∧
      ShownUser.decode u.prettyJson = some ⟨u.id, u.username, u.birthDate, u.createdAt⟩) ∧
    (∀ u : User, String.ofList (Json.squeeze false u.prettyJson.toList) = u.compactJson) ∧
    ∀ u v : User,
      (u.compactJson = v.compactJson ↔ u.id = v.id ∧ u.username = v.username ∧
        u.birthDate = v.birthDate ∧ u.createdAt = v.createdAt) ∧
      (u.prettyJson = v.prettyJson ↔ u.id = v.id ∧ u.username = v.username ∧
        u.birthDate = v.birthDate ∧ u.createdAt = v.createdAt) := by
  refine ⟨?_, ?_, ?_⟩
  · intro u
    exact ⟨ShownUser.decode_compactJson u, ShownUser.decode_prettyJson u⟩
  · intro u
    rw [User.prettyJson, String.toList_ofList, Json.squeeze_pretty u.record_ne_nil,
      User.compactJson]
  · intro u v
    simp only [← User.shown_eq_iff]
    refine ⟨⟨?_, ?_⟩, ⟨?_, ?_⟩⟩
    · intro h
      have hdecode := ShownUser.decode_compactJson u
      rw [h, ShownUser.decode_compactJson] at hdecode
      exact (Option.some.inj hdecode).symm
    · intro h
      rw [User.compactJson, User.compactJson, User.record_of_shown h]
    · intro h
      have hdecode := ShownUser.decode_prettyJson u
      rw [h, ShownUser.decode_prettyJson] at hdecode
      exact (Option.some.inj hdecode).symm
    · intro h
      rw [User.prettyJson, User.prettyJson, User.record_of_shown h]

end Accounts
