import TreeWire.Descriptor.Target
import TreeWire.Wire.Field

/-!
# Codecs

How the values of a field are written. Every scalar type that a field can be declared with has a
codec, which says as which kind the column is read. What is done with a buffer is said for every
codec by itself: which kind of values is taken, and how they are written. That the two agree is
`TreeWire.Codec.kind_writer`.

* `TreeWire.Codec` – the codecs;
* `TreeWire.Codec.ofField` – the codec of a field;
* `TreeWire.Codec.kind` – the kind as which the column is read;
* `TreeWire.Codec.writer` – the values that are taken, and how they are written.
-/

namespace TreeWire

/-- **The codecs**, one for every scalar type of a field. -/
inductive Codec where
  /-- Floating-point values in eight bytes. -/
  | double
  /-- Floating-point values in four bytes. -/
  | float
  /-- Signed numbers of variable length. -/
  | int32
  /-- Signed numbers of variable length. -/
  | int64
  /-- Unsigned numbers of variable length. -/
  | uint32
  /-- Unsigned numbers of variable length. -/
  | uint64
  /-- Folded signed numbers. -/
  | sint32
  /-- Folded signed numbers. -/
  | sint64
  /-- Unsigned numbers in four bytes. -/
  | fixed32
  /-- Unsigned numbers in eight bytes. -/
  | fixed64
  /-- Signed numbers in four bytes. -/
  | sfixed32
  /-- Signed numbers in eight bytes. -/
  | sfixed64
  /-- Truth values. -/
  | bool
  /-- Texts. -/
  | string
  /-- Byte strings. -/
  | bytes
  deriving DecidableEq, Repr

namespace Codec

/-- The type that a codec belongs to. -/
def declared : Codec → Descriptor.Declared
  | double => .double
  | float => .float
  | int32 => .int32
  | int64 => .int64
  | uint32 => .uint32
  | uint64 => .uint64
  | sint32 => .sint32
  | sint64 => .sint64
  | fixed32 => .fixed32
  | fixed64 => .fixed64
  | sfixed32 => .sfixed32
  | sfixed64 => .sfixed64
  | bool => .bool
  | string => .string
  | bytes => .bytes

/-- The codec of a type. Messages, groups and enumerations have none. -/
def ofDeclared? : Descriptor.Declared → Option Codec
  | .double => some double
  | .float => some float
  | .int32 => some int32
  | .int64 => some int64
  | .uint32 => some uint32
  | .uint64 => some uint64
  | .sint32 => some sint32
  | .sint64 => some sint64
  | .fixed32 => some fixed32
  | .fixed64 => some fixed64
  | .sfixed32 => some sfixed32
  | .sfixed64 => some sfixed64
  | .bool => some bool
  | .string => some string
  | .bytes => some bytes
  | .message | .group | .enumeration => none

/-- A type has a codec exactly if that codec belongs to it. -/
theorem ofDeclared?_eq_some_iff {d : Descriptor.Declared} {c : Codec} :
    ofDeclared? d = some c ↔ c.declared = d := by
  cases c <;> cases d <;> simp [ofDeclared?, declared]

/-- **The codec of a field.** -/
def ofField (f : FieldSpec) : Except Fault Codec :=
  match ofDeclared? f.declared with
  | some c => .ok c
  | none => .error (.unsupportedFieldType f.name f.declared.keyword)

/-- The codec of a field is the one that belongs to its type. -/
theorem ofField_eq_ok_iff {f : FieldSpec} {c : Codec} :
    ofField f = .ok c ↔ c.declared = f.declared := by
  rw [← ofDeclared?_eq_some_iff, ofField]
  cases ofDeclared? f.declared with
  | none => exact ⟨nofun, nofun⟩
  | some d =>
    exact ⟨fun h => congrArg some (Except.ok.inj h), fun h => congrArg _ (Option.some.inj h)⟩

/-- The name of a codec in messages. -/
def name (c : Codec) : String := c.declared.keyword

/-- **The kind** as which a column is read. -/
abbrev kind : Codec → Kind
  | double => .double
  | float => .float
  | int32 | sint32 | sfixed32 => .int32
  | int64 | sint64 | sfixed64 => .int64
  | uint32 | fixed32 => .uint32
  | uint64 | fixed64 => .uint64
  | bool => .bool
  | string => .string
  | bytes => .bytes

end Codec

/-- **How values are written.** -/
structure Writer where
  /-- The kind of the values that are taken. -/
  kind : Kind
  /-- The shape of the payloads. -/
  shape : Wire.Shape
  /-- The payload of a value. -/
  payload : kind.Carrier → Bytes
  /-- Whether a series can be written as one run. -/
  packs : Bool

namespace Codec

/-- **The writer of a codec.** Every codec has one of its own, which names the values that it takes.
Texts and byte strings are never written as one run. -/
abbrev writer : Codec → Writer
  | double => ⟨.double, .sixtyFourBit, fun v => Wire.fixed64 v.bits, true⟩
  | float => ⟨.float, .thirtyTwoBit, fun v => Wire.fixed32 v.bits, true⟩
  | int32 => ⟨.int32, .varint, fun v => Wire.signed64 v.toInt, true⟩
  | int64 => ⟨.int64, .varint, fun v => Wire.signed64 v.toInt, true⟩
  | uint32 => ⟨.uint32, .varint, fun v => Wire.varint v.toNat, true⟩
  | uint64 => ⟨.uint64, .varint, fun v => Wire.varint v.toNat, true⟩
  | sint32 => ⟨.int32, .varint, fun v => Wire.varint (Wire.zigzag v.toInt), true⟩
  | sint64 => ⟨.int64, .varint, fun v => Wire.varint (Wire.zigzag v.toInt), true⟩
  | fixed32 => ⟨.uint32, .thirtyTwoBit, fun v => Wire.fixed32 v, true⟩
  | fixed64 => ⟨.uint64, .sixtyFourBit, fun v => Wire.fixed64 v, true⟩
  | sfixed32 => ⟨.int32, .thirtyTwoBit, fun v => Wire.fixed32 v.toUInt32, true⟩
  | sfixed64 => ⟨.int64, .sixtyFourBit, fun v => Wire.fixed64 v.toUInt64, true⟩
  | bool => ⟨.bool, .varint, fun v => Wire.varint v.toNat, true⟩
  | string => ⟨.string, .lengthDelimited, fun v => Wire.delimited (utf8 v), false⟩
  | bytes => ⟨.bytes, .lengthDelimited, fun v => Wire.delimited v, false⟩

/-- **The values that are taken** are those of the kind as which the column is read. -/
theorem kind_writer (c : Codec) : c.writer.kind = c.kind := by cases c <;> rfl

end Codec

end TreeWire
