import TreeWire.Bytes
import TreeWire.Number.Binary

/-!
# Kinds of values

The nine scalar kinds that a branch can be read as. Each has a keyword in schema text and a type
of values, so that a value of a kind is a value of that type and nothing has to be checked again
once a branch is bound.

* `TreeWire.Kind` – the kinds;
* `TreeWire.Kind.Carrier` – the values of a kind;
* `TreeWire.Scalar` – a value together with its kind.
-/

namespace TreeWire

/-- **The scalar kinds.** -/
inductive Kind where
  /-- Truth values. -/
  | bool
  /-- Signed integers of 32 bits. -/
  | int32
  /-- Signed integers of 64 bits. -/
  | int64
  /-- Unsigned integers of 32 bits. -/
  | uint32
  /-- Unsigned integers of 64 bits. -/
  | uint64
  /-- Floating-point values of 32 bits. -/
  | float
  /-- Floating-point values of 64 bits. -/
  | double
  /-- Byte strings. -/
  | bytes
  /-- Texts. -/
  | string
  deriving DecidableEq, Repr

namespace Kind

/-- All kinds, in the order in which spellings of types are looked up. -/
def all : List Kind := [bool, int32, int64, uint32, uint64, float, double, bytes, string]

@[simp] theorem mem_all (k : Kind) : k ∈ all := by cases k <;> decide

/-- The keyword of the kind in schema text. -/
def keyword : Kind → String
  | bool => "bool"
  | int32 => "int32"
  | int64 => "int64"
  | uint32 => "uint32"
  | uint64 => "uint64"
  | float => "float"
  | double => "double"
  | bytes => "bytes"
  | string => "string"

/-- The kind of a keyword. -/
def ofKeyword? (s : String) : Option Kind := all.find? (·.keyword == s)

@[simp] theorem ofKeyword?_keyword (k : Kind) : ofKeyword? k.keyword = some k := by
  cases k <;> decide

/-- Whether a repeated field of the kind may be packed: all kinds whose values have no length of
their own. -/
def packable : Kind → Bool
  | bytes | string => false
  | _ => true

/-- **The values of a kind.** Floating-point values are bit patterns. -/
abbrev Carrier : Kind → Type
  | bool => Bool
  | int32 => Int32
  | int64 => Int64
  | uint32 => UInt32
  | uint64 => UInt64
  | float => Binary32
  | double => Binary64
  | bytes => Bytes
  | string => String

/-- The value that a fresh scalar buffer of the kind holds. -/
def zero : (k : Kind) → k.Carrier
  | bool => false
  | int32 => 0
  | int64 => 0
  | uint32 => 0
  | uint64 => 0
  | float => Binary32.zero
  | double => Binary64.zero
  | bytes => []
  | string => ""

end Kind

instance : (k : Kind) → DecidableEq k.Carrier
  | .bool => inferInstanceAs (DecidableEq Bool)
  | .int32 => inferInstanceAs (DecidableEq Int32)
  | .int64 => inferInstanceAs (DecidableEq Int64)
  | .uint32 => inferInstanceAs (DecidableEq UInt32)
  | .uint64 => inferInstanceAs (DecidableEq UInt64)
  | .float => inferInstanceAs (DecidableEq Binary32)
  | .double => inferInstanceAs (DecidableEq Binary64)
  | .bytes => inferInstanceAs (DecidableEq Bytes)
  | .string => inferInstanceAs (DecidableEq String)

/-- **A value with its kind.** -/
structure Scalar where
  /-- The kind. -/
  kind : Kind
  /-- The value. -/
  value : kind.Carrier
  deriving DecidableEq

end TreeWire
