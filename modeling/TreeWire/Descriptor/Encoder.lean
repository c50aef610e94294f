import TreeWire.Descriptor
import TreeWire.Schema
import TreeWire.Wire.Field

/-!
# Writing descriptor sets

The known parts in the order of their numbers. A part that is there is written even if it has the
value that a missing one stands for.

* `TreeWire.DescriptorSet.encode` – the byte string of a descriptor set.
-/

namespace TreeWire

namespace Wire

/-- A field with a text, if there is one. -/
def textField (id : UInt32) : Option String → Bytes
  | some s => key id .lengthDelimited ++ delimited (utf8 s)
  | none => []

/-- A field with a signed number, if there is one. -/
def int32Field (id : UInt32) : Option Int32 → Bytes
  | some n => key id .varint ++ signed64 n.toInt
  | none => []

/-- A field with a truth value, if there is one. -/
def boolField (id : UInt32) : Option Bool → Bytes
  | some b => key id .varint ++ varint b.toNat
  | none => []

/-- A field with a message, given by its bytes. -/
def messageField (id : UInt32) (payload : Bytes) : Bytes :=
  key id .lengthDelimited ++ delimited payload

end Wire

namespace Descriptor

/-- The bytes of options. -/
def Options.encode (o : Options) : Bytes :=
  Wire.boolField 2 o.packed ++ Wire.textField branchOptionNumber.toUInt32 o.sourceBranch

/-- The bytes of a field. -/
def Field.encode (f : Field) : Bytes :=
  Wire.textField 1 f.name ++ Wire.int32Field 3 f.number ++ Wire.int32Field 4 f.label ++
    Wire.int32Field 5 f.type ++
    match f.options with
    | some o => Wire.messageField 8 o.encode
    | none => []

/-- The bytes of a message. -/
def Message.encode (m : Message) : Bytes :=
  Wire.textField 1 m.name ++ m.fields.flatMap fun f => Wire.messageField 2 f.encode

/-- The bytes of a file. -/
def File.encode (f : File) : Bytes :=
  Wire.textField 1 f.name ++ Wire.textField 2 f.package ++
    f.messages.flatMap fun m => Wire.messageField 4 m.encode

end Descriptor

/-- **The byte string of a descriptor set.** -/
def DescriptorSet.encode (s : DescriptorSet) : Bytes :=
  s.files.flatMap fun f => Wire.messageField 1 f.encode

end TreeWire
