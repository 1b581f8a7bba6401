/-!
# Accounts.Capacity — writing to a place of bounded size

An output takes bytes until it is full and keeps those that fit; a writer learns whether all of
them did.
-/

namespace Accounts

/-- A text as bytes. -/
def bytesOf (text : String) : List UInt8 :=
  text.toByteArray.data.toList

theorem bytesOf_inj {s t : String} : bytesOf s = bytesOf t ↔ s = t := by
  simp [bytesOf, Array.toList_inj, ByteArray.ext_iff, ← String.toByteArray_inj]

/-- An output takes this many bytes, or any number. -/
abbrev Capacity := Option Nat

namespace Capacity

/-- The part of the bytes that the output keeps. -/
def keep (capacity : Capacity) (bytes : List UInt8) : List UInt8 :=
  match capacity with
  | none => bytes
  | some n => bytes.take n

/-- All of the bytes find room. -/
def fits (capacity : Capacity) (bytes : List UInt8) : Bool :=
  match capacity with
  | none => true
  | some n => bytes.length ≤ n

end Capacity

end Accounts
