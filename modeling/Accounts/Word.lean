import Accounts.Capacity

/-!
# Accounts.Word — what arguments and variables are made of

Most words are texts.  A word that is no text is kept as its bytes: some rules look at them, but
nothing can be stored of it.
-/

namespace Accounts

/-- An argument or the value of a variable. -/
inductive Word where
  | text (value : String)
  /-- Bytes that are not the UTF-8 form of a text. -/
  | bytes (value : List UInt8)
  deriving DecidableEq

/-- The text of a word, if it is one. -/
def Word.text? : Word → Option String
  | .text s => some s
  | .bytes _ => none

/-- The word that some bytes make. -/
def Word.ofBytes (bytes : List UInt8) : Word :=
  match String.fromUTF8? ⟨bytes.toArray⟩ with
  | some s => .text s
  | none => .bytes bytes

/-- The bytes of a text are the only ones that make it. -/
theorem Word.text?_ofBytes {bytes : List UInt8} {s : String} :
    (Word.ofBytes bytes).text? = some s ↔ bytes = bytesOf s := by
  by_cases hvalid : ByteArray.IsValidUTF8 ⟨bytes.toArray⟩
  · have hword : Word.ofBytes bytes = .text (String.fromUTF8 ⟨bytes.toArray⟩ hvalid) := by
      rw [Word.ofBytes, String.fromUTF8?, dif_pos hvalid]
    have hbytes : bytesOf (String.fromUTF8 ⟨bytes.toArray⟩ hvalid) = bytes := rfl
    rw [hword, Word.text?, Option.some.injEq, ← bytesOf_inj, hbytes]
  · have hword : Word.ofBytes bytes = .bytes bytes := by
      rw [Word.ofBytes, String.fromUTF8?, dif_neg hvalid]
    rw [hword]
    refine iff_of_false (fun h => by cases h) ?_
    rintro rfl
    exact hvalid s.isValidUTF8

end Accounts
