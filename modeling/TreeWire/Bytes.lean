/-!
# Byte strings

A file, a message and a value of bytes are lists of bytes, so that what is written is an append
and what is read is a case distinction on the first byte.

* `TreeWire.Bytes` – lists of bytes;
* `TreeWire.utf8` – the encoding of a text, and `TreeWire.ofUtf8?`, its partial inverse;
* `TreeWire.hexText` – two lower-case hexadecimal digits a byte.
-/

namespace TreeWire

/-- **A byte string.** -/
abbrev Bytes := List UInt8

/-- The encoding of a text. -/
def utf8 (s : String) : Bytes := s.toByteArray.data.toList

/-- The text that a byte string encodes, if it encodes one. -/
def ofUtf8? (bs : Bytes) : Option String := String.fromUTF8? ⟨bs.toArray⟩

/-- Decoding gives back the text that was encoded. -/
@[simp] theorem ofUtf8?_utf8 (s : String) : ofUtf8? (utf8 s) = some s := by
  have h : (⟨s.toByteArray.data.toList.toArray⟩ : ByteArray) = s.toByteArray := by simp
  unfold ofUtf8? utf8
  rw [h]
  simp [String.fromUTF8?, s.isValidUTF8, String.fromUTF8]

/-- The digit of a number below sixteen. -/
def hexDigit (n : Nat) : Char :=
  if n < 10 then Char.ofNat ('0'.toNat + n) else Char.ofNat ('a'.toNat + (n - 10))

/-- Two hexadecimal digits a byte. -/
def hexChars (bs : Bytes) : List Char :=
  bs.flatMap fun b => [hexDigit (b.toNat / 16), hexDigit (b.toNat % 16)]

/-- The hexadecimal text of a byte string. -/
def hexText (bs : Bytes) : String := String.ofList (hexChars bs)

example : hexText [0x08, 0xFF, 0x30] = "08ff30" := by decide

end TreeWire
