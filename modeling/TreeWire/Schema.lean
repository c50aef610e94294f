import TreeWire.Fault
import TreeWire.Identifier
import TreeWire.NativeType
import TreeWire.Text.Split

/-!
# Schema documents

What a schema file declares: a package, a data message with one field for every selected branch,
and the header message that announces how many data records follow.

* `TreeWire.Field` – a field with its number, its type and the branch it comes from;
* `TreeWire.Document` – a document, whose package and message names are valid;
* `TreeWire.Document.of` – the document of some fields, or what is wrong with a name.
-/

namespace TreeWire

/-- The name of the message that announces the number of records. -/
def headerMessage : String := "DataHeader"

/-- The name of the field option that holds the branch of a field. -/
def branchOption : String := "source_branch"

/-- The number of the field option that holds the branch of a field. -/
def branchOptionNumber : Nat := 50002

/-- The largest field number. -/
def largestFieldNumber : Nat := 0x1FFFFFFF

/-- **A field** of the data message. -/
structure Field where
  /-- The name. -/
  name : String
  /-- The type. -/
  type : FieldType
  /-- The number. -/
  id : Nat
  /-- The branch that the values come from. -/
  branch : String
  /-- Whether the field holds a list. -/
  repeated : Bool
  deriving DecidableEq

/-- The word in front of the type. -/
def Field.modifier (f : Field) : String := if f.repeated then "repeated" else "optional"

/-- Whether the values of the field are packed: those of a repeated field whose kind allows it. -/
def Field.packed (f : Field) : Bool :=
  f.repeated && match f.type with
    | .scalar kind => kind.packable
    | .unresolved _ => false

/-- Whether a text is a package: identifiers separated by dots. -/
def isPackage (package : String) : Bool :=
  (splitAtChar '.' package.toList).all isIdentifierChars

/-- **A schema document.** The names in it are valid, and the data message is not the header. -/
structure Document where
  /-- The package. -/
  package : String
  /-- The name of the data message. -/
  message : String
  /-- The fields of the data message in order. -/
  fields : List Field
  /-- The package is made of identifiers. -/
  isPackage_package : isPackage package = true
  /-- The name of the data message is an identifier. -/
  isIdentifier_message : isIdentifier message = true
  /-- The name of the header is not taken. -/
  message_ne : message ≠ headerMessage

/-- **What is wrong with a name.** -/
inductive NameFlaw where
  /-- A package that is not made of identifiers. -/
  | package (name : String)
  /-- A message name that is no identifier. -/
  | message (name : String)
  /-- The name of the header. -/
  | reserved
  deriving DecidableEq

/-- The wording of what is wrong with a name. -/
def NameFlaw.text : NameFlaw → String
  | package name => "package '" ++ name ++ "' must be dot-separated identifiers"
  | message name => "message '" ++ name ++ "' is not an identifier"
  | reserved => "message name '" ++ headerMessage ++ "' is reserved for the row-count header"

/-- **The document** of some fields, or what is wrong with its names: the package is looked at
first. -/
def Document.of (package message : String) (fields : List Field) : Except NameFlaw Document :=
  if hp : isPackage package = true then
    if hm : isIdentifier message = true then
      if hr : message = headerMessage then .error .reserved
      else .ok ⟨package, message, fields, hp, hm, hr⟩
    else .error (.message message)
  else .error (.package package)

end TreeWire
