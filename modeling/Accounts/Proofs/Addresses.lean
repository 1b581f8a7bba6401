import Accounts.Disk
import Mathlib.Data.List.TakeWhile

/-!
# Accounts.Proofs.Addresses — addresses that mean what they say

Most names of files can be written into an address as they are, but some letters have a meaning of
their own there or in a path, and some files belong to others.  `Location.IsFile` picks out names
that are free of all this: such an address leads to the file of the name (`Location.ofUrl?_file`).
`Location.IsPlain` collects these addresses with those of the databases that are not kept in files.
-/

namespace Accounts

namespace Location

/-- A database that is opened at the location is found or made. -/
def opens : Location → Bool
  | .memory => true
  | .named _ create => create
  | .elsewhere | .server => false

/-! ### Names of plain files -/

/-- A letter, a digit, an underscore or a dot: none of them stands for anything else in an address
or in a path. -/
def isPlainChar (c : Char) : Bool :=
  c.isAlphanum || c = '_' || c = '.'

/-- The name of a file that an address and a path can show as it is, and that no other file is kept
beside: there is no hyphen, which the names of journals have. -/
structure IsFile (name : String) : Prop where
  nonempty : name ≠ ""
  plain : name.toList.all isPlainChar = true
  no_dot : name.toList.head? ≠ some '.'
  short : (bytesOf name).length ≤ nameBound

variable {name : String} {cs : List Char}

instance (name : String) : Decidable (IsFile name) :=
  decidable_of_iff (name ≠ "" ∧ name.toList.all isPlainChar = true ∧
      name.toList.head? ≠ some '.' ∧ (bytesOf name).length ≤ nameBound)
    ⟨fun ⟨a, b, c, d⟩ => ⟨a, b, c, d⟩, fun ⟨a, b, c, d⟩ => ⟨a, b, c, d⟩⟩

/-- A character with a meaning of its own does not stand in the name. -/
theorem IsFile.not_mem (h : IsFile name) {c : Char} (hc : isPlainChar c = false) :
    c ∉ name.toList := by
  intro hmem
  rw [List.all_eq_true.1 h.plain c hmem] at hc
  cases hc

theorem IsFile.ne_nil (h : IsFile name) : name.toList ≠ [] :=
  mt String.toList_eq_nil_iff.1 h.nonempty

/-! ### From the name to the file -/

theorem percentDecode_of_not_mem (h : '%' ∉ cs) :
    percentDecode cs = cs.flatMap String.utf8EncodeChar := by
  fun_induction percentDecode cs with
  | case1 => simp at h
  | case2 => simp at h
  | case3 c cs _ ih =>
    rw [List.flatMap_cons, ih (List.not_mem_of_not_mem_cons h)]
  | case4 => rfl

theorem flatMap_utf8EncodeChar (s : String) :
    s.toList.flatMap String.utf8EncodeChar = bytesOf s := by
  rw [bytesOf, ← String.ofList_toList (s := s), String.toByteArray_ofList, List.utf8Encode,
    String.toList_ofList, List.data_toByteArray]

/-- Bytes that no per cent sign hides are those of the text. -/
theorem text?_percentDecode (h : '%' ∉ name.toList) :
    (Word.ofBytes (percentDecode name.toList)).text? = some name := by
  rw [Word.text?_ofBytes, percentDecode_of_not_mem h, flatMap_utf8EncodeChar]

theorem IsFile.parts_eq (h : IsFile name) : parts name.toList = [name.toList] := by
  have hslash : '/' ∉ name.toList := h.not_mem (by decide)
  have hdot : name.toList ≠ ['.'] := fun e => h.no_dot (by rw [e]; rfl)
  rw [parts, List.splitOn_eq_singleton hslash, List.filter_cons_of_pos (by simp [h.ne_nil, hdot])]
  rfl

theorem IsFile.canName (h : IsFile name) : canName name.toList = true := by
  have hdots : name.toList ≠ ['.', '.'] := fun e => h.no_dot (by rw [e]; rfl)
  have hnul : '\x00' ∉ name.toList := h.not_mem (by decide)
  simp [Location.canName, hdots, hnul, String.ofList_toList, h.short]

/-- The path of a plain file leads to the file. -/
theorem IsFile.ofPath_eq (h : IsFile name) (create : Bool) :
    ofPath name create = .named name create := by
  have hmemory : name ≠ ":memory:" := by
    rintro rfl
    exact h.not_mem (c := ':') (by decide) (by decide)
  have hroot : name.toList.head? ≠ some '/' :=
    fun e => h.not_mem (c := '/') (by decide) (List.mem_of_mem_head? e)
  rw [ofPath, if_neg (not_or.2 ⟨h.nonempty, hmemory⟩), if_neg hroot, h.parts_eq]
  simp only [h.canName, if_true, String.ofList_toList]

theorem IsFile.ofName?_eq (h : IsFile name) (create : Bool) :
    ofName? name.toList create = some (.named name create) := by
  rw [ofName?, text?_percentDecode (h.not_mem (by decide)), Option.map_some, h.ofPath_eq]

/-! ### From the address to the name -/

theorem afterStart?_append (start cs : List Char) : afterStart? start (start ++ cs) = some cs := by
  have hprefix : start.isPrefixOf (start ++ cs) = true :=
    List.isPrefixOf_iff_prefix.2 (List.prefix_append start cs)
  rw [afterStart?, if_pos hprefix, List.drop_left]

theorem IsFile.dropSlashes?_append (h : IsFile name) (rest : List Char) :
    dropSlashes? (name.toList ++ rest) = some (name.toList ++ rest) := by
  have hslash : '/' ∉ name.toList := h.not_mem (by decide)
  cases hlist : name.toList with
  | nil => exact absurd hlist h.ne_nil
  | cons c cs =>
    have hc : c ≠ '/' := fun e => hslash (by simp [hlist, e])
    unfold dropSlashes?
    split
    · next heq => exact absurd (List.cons.inj heq).1 hc
    · rfl

/-- The ways to open a file that an address can name, and whether a missing file is then made. -/
inductive Mode : String → Bool → Prop
  | plain : Mode "" false
  | existing : Mode "?mode=rw" false
  | create : Mode "?mode=rwc" true

theorem IsFile.ofFile?_eq (h : IsFile name) {mode : String} {create : Bool}
    (hmode : Mode mode create) :
    ofFile? (name.toList ++ mode.toList) = some (.named name create) := by
  have hplain : ∀ c ∈ name.toList, decide (c ≠ '?') = true := by
    intro c hc
    rw [decide_eq_true_iff]
    rintro rfl
    exact h.not_mem (by decide) hc
  have htake : ∀ rest, (name.toList ++ '?' :: rest).takeWhile (· ≠ '?') = name.toList := by
    intro rest
    rw [List.takeWhile_append_of_pos hplain]
    simp
  have hdrop : ∀ rest, (name.toList ++ '?' :: rest).dropWhile (· ≠ '?') = '?' :: rest := by
    intro rest
    rw [List.dropWhile_append_of_pos hplain]
    simp
  cases hmode with
  | plain =>
    have htext : name.toList ++ "".toList = name.toList := List.append_nil _
    rw [htext, ofFile?, List.takeWhile_eq_self_iff.2 hplain, List.dropWhile_eq_nil_iff.2 hplain]
    exact h.ofName?_eq false
  | existing =>
    have htext : "?mode=rw".toList = '?' :: "mode=rw".toList := rfl
    rw [htext, ofFile?, htake, hdrop]
    exact h.ofName?_eq false
  | create =>
    have htext : "?mode=rwc".toList = '?' :: "mode=rwc".toList := rfl
    rw [htext, ofFile?, htake, hdrop]
    exact h.ofName?_eq true

/-- The address of a plain file leads to the file. -/
theorem ofUrl?_file (h : IsFile name) {mode : String} {create : Bool} (hmode : Mode mode create) :
    ofUrl? ("sqlite:" ++ name ++ mode) = some (.named name create) := by
  have hlist : ("sqlite:" ++ name ++ mode).toList =
      "sqlite:".toList ++ (name.toList ++ mode.toList) := by
    simp only [String.toList_append, List.append_assoc]
  rw [ofUrl?, hlist, afterStart?_append]
  simp only [h.dropSlashes?_append, Option.bind_some, h.ofFile?_eq hmode]

/-- The address of a database that is made if it is missing. -/
def addressOf (name : String) : String :=
  "sqlite:" ++ name ++ "?mode=rwc"

theorem ofUrl?_addressOf (h : IsFile name) : ofUrl? (addressOf name) = some (.named name true) :=
  ofUrl?_file h .create

theorem ofUrl?_memory : ofUrl? "sqlite::memory:" = some .memory := by decide +kernel

theorem addressOf_inj {name other : String} (h : IsFile name) (hother : IsFile other)
    (heq : addressOf name = addressOf other) : name = other := by
  have hsame := congrArg ofUrl? heq
  rw [ofUrl?_addressOf h, ofUrl?_addressOf hother] at hsame
  cases hsame
  rfl

/-- The address is that of a database which nothing keeps, or of a plain file that is made if it is
missing. -/
def IsKept (url : String) : Prop :=
  url = "sqlite::memory:" ∨ ∃ name, IsFile name ∧ url = addressOf name

/-- Such an address leads to a location where a database is found or made. -/
theorem IsKept.location {url : String} (h : IsKept url) :
    ∃ location, ofUrl? url = some location ∧ location.opens = true := by
  rcases h with rfl | ⟨name, hname, rfl⟩
  · exact ⟨.memory, ofUrl?_memory, rfl⟩
  · exact ⟨.named name true, ofUrl?_addressOf hname, rfl⟩

/-- The file that an address leads to. -/
def fileOf? (url : String) : Option String :=
  match ofUrl? url with
  | some (.named name _) => some name
  | _ => none

/-- The name of the file can only be the one that the address leads to. -/
theorem isKept_iff {url : String} : IsKept url ↔
    url = "sqlite::memory:" ∨ ∃ name ∈ fileOf? url, IsFile name ∧ url = addressOf name := by
  refine or_congr_right ⟨?_, ?_⟩
  · rintro ⟨name, hname, rfl⟩
    refine ⟨name, ?_, hname, rfl⟩
    rw [fileOf?, ofUrl?_addressOf hname]
    rfl
  · rintro ⟨name, -, h⟩
    exact ⟨name, h⟩

instance (url : String) : Decidable (IsKept url) :=
  decidable_of_iff _ isKept_iff.symm

/-- A name can also be written in other ways, and a path can lead elsewhere. -/
example :
    ofUrl? "sqlite:.//a%2Edb?mode=rwc" = some (.named "a.db" true) ∧
    ofUrl? "sqlite:nodir/a?mode=rwc" = some .elsewhere ∧ ofUrl? "sqlite:%ff" = none := by
  decide +kernel

/-! ### Plain addresses -/

/-- The address means what it says: it is that of a plain file, of a database that is kept nowhere,
or the standard one, which is that of a server. -/
inductive IsPlain : String → Prop
  | memory : IsPlain "sqlite::memory:"
  | standard : IsPlain ({} : Settings).url
  | file {name mode : String} {create : Bool} (h : IsFile name) (hmode : Mode mode create) :
    IsPlain ("sqlite:" ++ name ++ mode)

/-- A plain address names a location. -/
theorem IsPlain.isSome_ofUrl? {url : String} (h : IsPlain url) : (ofUrl? url).isSome = true := by
  cases h with
  | memory => rw [ofUrl?_memory]; rfl
  | standard => decide +kernel
  | file h hmode => rw [ofUrl?_file h hmode]; rfl

end Location

/-- The limits on connections are the standard ones. -/
def Settings.HasStandardLimits (s : Settings) : Prop :=
  s.maxConnections = ({} : Settings).maxConnections ∧
    s.minConnections = ({} : Settings).minConnections

instance (s : Settings) : Decidable s.HasStandardLimits :=
  inferInstanceAs (Decidable (_ ∧ _))

end Accounts
