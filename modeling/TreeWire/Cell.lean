import TreeWire.Buffer
import TreeWire.Json.Printer

/-!
# Cells

The value of a branch at an entry is a JSON value; a binding reads it as a value of its kind.
Integers have to be integer numbers in the range of the kind, nothing is wrapped or cut off.

* `TreeWire.Kind.read?` – the value of a kind that a JSON value stands for;
* `TreeWire.Scalar.ofJson?` – the same, with its kind.
-/

namespace TreeWire

/-- The truth value of a JSON value: a truth value, or the integer 0 or 1. -/
def readBool? : Json → Option Bool
  | .bool b => some b
  | .number n =>
    match n.toInt? with
    | some 0 => some false
    | some 1 => some true
    | _ => none
  | _ => none

/-- The integer of a JSON value, if it lies in a range of which the upper end is not part. -/
def readInRange? (low high : Int) (j : Json) : Option Int :=
  j.toInt?.filter fun n => low ≤ n ∧ n < high

/-- The floating-point value of a JSON value: a number, or a string that spells one. Strings are
how infinities and values that are no numbers are written. -/
def readReal? : Json → Option Binary64
  | .number n => some n.toBinary64
  | .string s => Binary64.ofText? s
  | _ => none

/-- The floating-point value of 32 bits of a JSON value. A finite value beyond the largest one of
the format is refused. -/
def readNarrow? (j : Json) : Option Binary32 := do
  let x ← readReal? j
  if x.isFinite && x.exceedsNarrow then none else some x.narrow

/-- The text of a JSON value. -/
def readText? : Json → Option String
  | .string s => some s
  | _ => none

/-- The byte string of a JSON value: the encoding of a string, or an array of bytes. -/
def readBytes? : Json → Option Bytes
  | .string s => some (utf8 s)
  | .array items => items.mapM fun j => (readInRange? 0 256 j).map fun n => n.toNat.toUInt8
  | _ => none

/-- **The value of a kind** that a JSON value stands for. -/
def Kind.read? : (k : Kind) → Json → Option k.Carrier
  | .bool, j => readBool? j
  | .int32, j => (readInRange? (-0x80000000) 0x80000000 j).map Int32.ofInt
  | .int64, j => (readInRange? (-0x8000000000000000) 0x8000000000000000 j).map Int64.ofInt
  | .uint32, j => (readInRange? 0 0x100000000 j).map fun n => n.toNat.toUInt32
  | .uint64, j => (readInRange? 0 0x10000000000000000 j).map fun n => n.toNat.toUInt64
  | .float, j => readNarrow? j
  | .double, j => readReal? j
  | .bytes, j => readBytes? j
  | .string, j => readText? j

/-- **The value** that a JSON value stands for, with its kind. -/
def Scalar.ofJson? (k : Kind) (j : Json) : Option Scalar := (k.read? j).map fun v => ⟨k, v⟩

/-- A value has the kind it was read as. -/
theorem Scalar.kind_of_ofJson? {k : Kind} {j : Json} {v : Scalar}
    (h : Scalar.ofJson? k j = some v) : v.kind = k := by
  obtain ⟨a, -, rfl⟩ := Option.map_eq_some_iff.1 h
  rfl

end TreeWire
