import TreeWire.Kind

/-!
# Descriptor sets

What the schema compiler writes about a schema: files, their messages, and the fields of those with
their options. Only the parts that a conversion needs are kept. Every part may be missing; labels
and types are kept as the numbers that were read, and looked up when they are needed.

* `TreeWire.DescriptorSet`, `TreeWire.Descriptor.File`, `TreeWire.Descriptor.Message`,
  `TreeWire.Descriptor.Field`, `TreeWire.Descriptor.Options` – the parts;
* `TreeWire.Descriptor.Label`, `TreeWire.Descriptor.Declared` – labels and types.
-/

namespace TreeWire

namespace Descriptor

/-! ### Labels and types -/

/-- **The labels** of fields. -/
inductive Label where
  /-- The field may be missing. -/
  | optional
  /-- The field has to be there. -/
  | required
  /-- The field may be there more than once. -/
  | repeated
  deriving DecidableEq, Repr

/-- The label of a number. -/
def Label.ofNumber? (n : Int32) : Option Label :=
  if n = 1 then some optional
  else if n = 2 then some required
  else if n = 3 then some repeated
  else none

/-- **The types** that a field can be declared with. -/
inductive Declared where
  /-- A floating-point value of 64 bits. -/
  | double
  /-- A floating-point value of 32 bits. -/
  | float
  /-- A signed number. -/
  | int64
  /-- An unsigned number. -/
  | uint64
  /-- A signed number. -/
  | int32
  /-- An unsigned number in eight bytes. -/
  | fixed64
  /-- An unsigned number in four bytes. -/
  | fixed32
  /-- A truth value. -/
  | bool
  /-- A text. -/
  | string
  /-- A group of fields. -/
  | group
  /-- A message. -/
  | message
  /-- A byte string. -/
  | bytes
  /-- An unsigned number. -/
  | uint32
  /-- One of a list of names. -/
  | enumeration
  /-- A signed number in four bytes. -/
  | sfixed32
  /-- A signed number in eight bytes. -/
  | sfixed64
  /-- A folded signed number. -/
  | sint32
  /-- A folded signed number. -/
  | sint64
  deriving DecidableEq, Repr

namespace Declared

/-- All types in the order of their numbers. -/
def all : List Declared :=
  [double, float, int64, uint64, int32, fixed64, fixed32, bool, string, group, message, bytes,
    uint32, enumeration, sfixed32, sfixed64, sint32, sint64]

/-- The keyword of a type in schema text. -/
def keyword : Declared → String
  | double => "double"
  | float => "float"
  | int64 => "int64"
  | uint64 => "uint64"
  | int32 => "int32"
  | fixed64 => "fixed64"
  | fixed32 => "fixed32"
  | bool => "bool"
  | string => "string"
  | group => "group"
  | message => "message"
  | bytes => "bytes"
  | uint32 => "uint32"
  | enumeration => "enum"
  | sfixed32 => "sfixed32"
  | sfixed64 => "sfixed64"
  | sint32 => "sint32"
  | sint64 => "sint64"

/-- The number of a type. -/
def number : Declared → Int32
  | double => 1
  | float => 2
  | int64 => 3
  | uint64 => 4
  | int32 => 5
  | fixed64 => 6
  | fixed32 => 7
  | bool => 8
  | string => 9
  | group => 10
  | message => 11
  | bytes => 12
  | uint32 => 13
  | enumeration => 14
  | sfixed32 => 15
  | sfixed64 => 16
  | sint32 => 17
  | sint64 => 18

/-- The type of a number. -/
def ofNumber? (n : Int32) : Option Declared := all.find? (·.number == n)

/-- The type of a keyword. -/
def ofKeyword? (s : String) : Option Declared := all.find? (·.keyword == s)

@[simp] theorem ofNumber?_number (d : Declared) : ofNumber? d.number = some d := by
  cases d <;> decide

@[simp] theorem ofKeyword?_keyword (d : Declared) : ofKeyword? d.keyword = some d := by
  cases d <;> decide

/-- The type that schema text gives a field of a kind. -/
def ofKind : Kind → Declared
  | .bool => bool
  | .int32 => int32
  | .int64 => int64
  | .uint32 => uint32
  | .uint64 => uint64
  | .float => float
  | .double => double
  | .bytes => bytes
  | .string => string

/-- A kind and the type of its fields have one keyword. -/
@[simp] theorem keyword_ofKind (k : Kind) : (ofKind k).keyword = k.keyword := by cases k <;> rfl

end Declared

/-! ### Parts of a set -/

/-- **The options** of a field. -/
structure Options where
  /-- Whether the values of a repeated field are packed. -/
  packed : Option Bool := none
  /-- The branch that the values come from. -/
  sourceBranch : Option String := none
  deriving DecidableEq

/-- **A field** of a message. -/
structure Field where
  /-- The name. -/
  name : Option String := none
  /-- The number. -/
  number : Option Int32 := none
  /-- The number of the label. -/
  label : Option Int32 := none
  /-- The number of the type. -/
  type : Option Int32 := none
  /-- The options. -/
  options : Option Options := none
  deriving DecidableEq

/-- **A message.** -/
structure Message where
  /-- The name. -/
  name : Option String := none
  /-- The fields in order. -/
  fields : List Field := []
  deriving DecidableEq

/-- **A file.** -/
structure File where
  /-- The name. -/
  name : Option String := none
  /-- The package. -/
  package : Option String := none
  /-- The messages in order. -/
  messages : List Message := []
  deriving DecidableEq

/-- The name of a field; a missing one is empty. -/
def Field.nameText (f : Field) : String := f.name.getD ""

/-- The number of a field; a missing one is zero. -/
def Field.numberValue (f : Field) : Int32 := f.number.getD 0

/-- The label of a field. One that is missing or unknown makes the field optional. -/
def Field.labelValue (f : Field) : Label := (f.label.bind Label.ofNumber?).getD .optional

/-- The type of a field. One that is missing or unknown counts as the first of the types. -/
def Field.typeValue (f : Field) : Declared := (f.type.bind Declared.ofNumber?).getD .double

/-- Whether the options of a field ask for packed values. -/
def Field.packedValue (f : Field) : Bool :=
  match f.options with
  | some o => o.packed.getD false
  | none => false

/-- The branch that the options of a field name. -/
def Field.sourceBranch? (f : Field) : Option String := f.options.bind (·.sourceBranch)

/-- The name of a message; a missing one is empty. -/
def Message.nameText (m : Message) : String := m.name.getD ""

/-- The package of a file; a missing one is empty. -/
def File.packageText (f : File) : String := f.package.getD ""

end Descriptor

/-- **A descriptor set**: files in order. -/
structure DescriptorSet where
  /-- The files. -/
  files : List Descriptor.File := []
  deriving DecidableEq

end TreeWire
