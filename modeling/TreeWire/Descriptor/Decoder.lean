import TreeWire.Descriptor
import TreeWire.Fault
import TreeWire.Schema
import TreeWire.Wire.Reader

/-!
# Reading descriptor sets

A descriptor set is a message of messages. A field that occurs again takes the place of what was
read before, a list grows, and options are put over earlier ones.

* `TreeWire.DescriptorSet.decode` – the descriptor set of a byte string.
-/

namespace TreeWire

namespace Descriptor

open Wire (Reader Shape skip inField)

/-- One field of options. -/
def Options.readField (depth id : Nat) (shape : Shape) (o : Options) : Reader Options :=
  if id = 2 then
    inField "FieldOptions" "packed" do return { o with packed := some (← Wire.bool shape) }
  else if id = branchOptionNumber then
    inField "FieldOptions" "source_branch" do
      return { o with sourceBranch := some (← Wire.text shape) }
  else do
    skip depth id shape
    return o

/-- One field of a field. -/
def Field.readField (depth id : Nat) (shape : Shape) (f : Field) : Reader Field :=
  if id = 1 then
    inField "FieldDescriptorProto" "name" do return { f with name := some (← Wire.text shape) }
  else if id = 3 then
    inField "FieldDescriptorProto" "number" do
      return { f with number := some (← Wire.int32 shape) }
  else if id = 4 then
    inField "FieldDescriptorProto" "label" do return { f with label := some (← Wire.int32 shape) }
  else if id = 5 then
    inField "FieldDescriptorProto" "r#type" do return { f with type := some (← Wire.int32 shape) }
  else if id = 8 then
    inField "FieldDescriptorProto" "options" do
      let o ← Wire.message depth Options.readField shape (f.options.getD {})
      return { f with options := some o }
  else do
    skip depth id shape
    return f

/-- One field of a message. -/
def Message.readField (depth id : Nat) (shape : Shape) (m : Message) : Reader Message :=
  if id = 1 then
    inField "DescriptorProto" "name" do return { m with name := some (← Wire.text shape) }
  else if id = 2 then
    inField "DescriptorProto" "field" do
      let f ← Wire.message depth Field.readField shape {}
      return { m with fields := m.fields ++ [f] }
  else do
    skip depth id shape
    return m

/-- One field of a file. -/
def File.readField (depth id : Nat) (shape : Shape) (f : File) : Reader File :=
  if id = 1 then
    inField "FileDescriptorProto" "name" do return { f with name := some (← Wire.text shape) }
  else if id = 2 then
    inField "FileDescriptorProto" "package" do
      return { f with package := some (← Wire.text shape) }
  else if id = 4 then
    inField "FileDescriptorProto" "message_type" do
      let m ← Wire.message depth Message.readField shape {}
      return { f with messages := f.messages ++ [m] }
  else do
    skip depth id shape
    return f

end Descriptor

namespace DescriptorSet

/-- One field of a descriptor set. -/
def readField (depth id : Nat) (shape : Wire.Shape) (s : DescriptorSet) :
    Wire.Reader DescriptorSet :=
  if id = 1 then
    Wire.inField "FileDescriptorSet" "file" do
      let f ← Wire.message depth Descriptor.File.readField shape {}
      return { s with files := s.files ++ [f] }
  else do
    Wire.skip depth id shape
    return s

/-- **The descriptor set of a byte string.** -/
def decode (bs : Bytes) : Except Wire.Flaw DescriptorSet := Wire.whole readField {} bs

/-- The fault of a byte string that is no descriptor set. -/
def faultOf (flaw : Wire.Flaw) : Fault :=
  .decode ("failed to decode Protobuf message: " ++ flaw.message)

end DescriptorSet

end TreeWire
