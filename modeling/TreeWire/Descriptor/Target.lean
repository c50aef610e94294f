import TreeWire.Descriptor
import TreeWire.Fault
import TreeWire.Schema

/-!
# The data message

A conversion needs one message of a descriptor set: the one that is named, by its simple or full
name, or else the only one that is declared in a file together with the header message. Every field
of it has to say which branch its values come from.

* `TreeWire.Target` – a message together with its package;
* `TreeWire.DescriptorSet.target` – the data message;
* `TreeWire.FieldSpec` – what a conversion needs to know of a field;
* `TreeWire.Descriptor.Message.specs` – the fields of a message.
-/

namespace TreeWire

/-! ### Flaws -/

/-- **Why a descriptor set does not do** for a conversion. -/
inductive Descriptor.Flaw where
  /-- No message has the name. -/
  | noSuchMessage (name : String)
  /-- No message stands next to the header. -/
  | noDataMessage
  /-- More than one message stands next to a header. -/
  | severalDataMessages (names : List String)
  /-- A field has a number that is not positive. -/
  | fieldNumber (field : String) (number : Int32)
  /-- A field does not name its branch. -/
  | noBranch (message field : String)
  deriving DecidableEq

/-- The wording of a flaw. -/
def Descriptor.Flaw.text : Descriptor.Flaw → String
  | noSuchMessage name => "message '" ++ name ++ "' not found in descriptor set"
  | noDataMessage => "no data message declared next to " ++ headerMessage
  | severalDataMessages names =>
    "several data messages found (" ++ ", ".intercalate names ++ "); pick one with --message"
  | fieldNumber field number =>
    "field " ++ field ++ " has invalid number " ++ toString number.toInt
  | noBranch message field =>
    "field " ++ message ++ "." ++ field ++ " has no (" ++ branchOption ++ ") option"

/-- The fault of a flaw. -/
def Descriptor.Flaw.fault (f : Descriptor.Flaw) : Fault := .descriptor f.text

/-! ### Finding the data message -/

/-- **A message together with its package.** -/
structure Target where
  /-- The package. -/
  package : String
  /-- The message. -/
  message : Descriptor.Message
  deriving DecidableEq

namespace Target

/-- The simple name. -/
def name (t : Target) : String := t.message.nameText

/-- **The full name**: the simple name after the package, if there is one. -/
def fullName (t : Target) : String :=
  if t.package = "" then t.name else t.package ++ "." ++ t.name

end Target

/-- The messages of a file, the header left out. -/
def Descriptor.File.targets (f : Descriptor.File) : List Target :=
  (f.messages.map fun m => (⟨f.packageText, m⟩ : Target)).filter (·.name ≠ headerMessage)

/-- Whether a file declares the header message. -/
def Descriptor.File.hasHeader (f : Descriptor.File) : Bool :=
  f.messages.any (·.nameText == headerMessage)

namespace DescriptorSet

/-- The message of a simple or full name, the first one if there are several. The header is never
found. -/
def named (s : DescriptorSet) (name : String) : Except Descriptor.Flaw Target :=
  match (s.files.flatMap (·.targets)).find? fun t => t.name == name || t.fullName == name with
  | some t => .ok t
  | none => .error (.noSuchMessage name)

/-- The messages of the files that declare the header. -/
def candidates (s : DescriptorSet) : List Target :=
  (s.files.filter (·.hasHeader)).flatMap (·.targets)

/-- The only message that is declared in a file together with the header. -/
def discovered (s : DescriptorSet) : Except Descriptor.Flaw Target :=
  match s.candidates with
  | [t] => .ok t
  | [] => .error .noDataMessage
  | ts => .error (.severalDataMessages (ts.map (·.fullName)))

/-- **The data message**: the one that is named, or else the one that is discovered. -/
def target (s : DescriptorSet) (name : Option String) : Except Descriptor.Flaw Target :=
  match name with
  | some name => s.named name
  | none => s.discovered

end DescriptorSet

/-! ### Fields -/

/-- **What a conversion needs to know of a field.** -/
structure FieldSpec where
  /-- The name. -/
  name : String
  /-- The number. -/
  number : UInt32
  /-- The type. -/
  declared : Descriptor.Declared
  /-- Whether the field is repeated. -/
  repeated : Bool
  /-- Whether packed values are asked for. -/
  packed : Bool
  /-- The branch that the values come from. -/
  branch : String
  deriving DecidableEq

/-- What a conversion needs to know of a field of the message with a name. -/
def Descriptor.Field.spec (message : String) (f : Descriptor.Field) :
    Except Descriptor.Flaw FieldSpec :=
  if f.numberValue.toInt ≤ 0 then .error (.fieldNumber f.nameText f.numberValue)
  else
    match f.sourceBranch? with
    | none => .error (.noBranch message f.nameText)
    | some branch =>
      .ok
        { name := f.nameText
          number := f.numberValue.toUInt32
          declared := f.typeValue
          repeated := f.labelValue = .repeated
          packed := f.packedValue
          branch }

/-- **The fields of a message**, or what is wrong with the first one that does not do. -/
def Descriptor.Message.specs (m : Descriptor.Message) : Except Descriptor.Flaw (List FieldSpec) :=
  m.fields.mapM (·.spec m.nameText)

end TreeWire
