import TreeWire.Kind
import TreeWire.Wire.Varint

/-!
# Fields on the wire

A field is a key and a payload. The key holds the number of the field and the shape of the
payload, so that a reader can step over fields that it does not know. Keys have 32 bits, and the
arithmetic on them is that of a release build, in which assertions are off.

* `TreeWire.Wire.Shape` – the shapes of payloads;
* `TreeWire.Wire.key` – the key of a field;
* `TreeWire.Wire.delimited`, `TreeWire.Wire.fixed32`, `TreeWire.Wire.fixed64`,
  `TreeWire.Wire.signed64`, `TreeWire.Wire.zigzag` – payloads.
-/

namespace TreeWire.Wire

/-- **The shapes of payloads.** -/
inductive Shape where
  /-- A number of variable length. -/
  | varint
  /-- Eight bytes. -/
  | sixtyFourBit
  /-- A length and as many bytes. -/
  | lengthDelimited
  /-- The start of a group of fields. -/
  | startGroup
  /-- The end of a group of fields. -/
  | endGroup
  /-- Four bytes. -/
  | thirtyTwoBit
  deriving DecidableEq, Repr

namespace Shape

/-- The number of a shape. -/
def code : Shape → Nat
  | varint => 0
  | sixtyFourBit => 1
  | lengthDelimited => 2
  | startGroup => 3
  | endGroup => 4
  | thirtyTwoBit => 5

/-- The shape of a number. -/
def ofCode? : Nat → Option Shape
  | 0 => some varint
  | 1 => some sixtyFourBit
  | 2 => some lengthDelimited
  | 3 => some startGroup
  | 4 => some endGroup
  | 5 => some thirtyTwoBit
  | _ => none

/-- The name of a shape in messages. -/
def name : Shape → String
  | varint => "Varint"
  | sixtyFourBit => "SixtyFourBit"
  | lengthDelimited => "LengthDelimited"
  | startGroup => "StartGroup"
  | endGroup => "EndGroup"
  | thirtyTwoBit => "ThirtyTwoBit"

@[simp] theorem ofCode?_code (s : Shape) : ofCode? s.code = some s := by cases s <;> rfl

/-- A shape takes three bits. -/
theorem code_lt (s : Shape) : s.code < 8 := by cases s <;> decide

end Shape

/-- **The key** of a field: its number, and its shape in the low three bits, in a number of 32 bits.
That the number is one that a field can have is only asserted, and assertions are off: of a number
with more than 29 bits, the upper ones are lost. -/
def key (number : UInt32) (shape : Shape) : Bytes :=
  varint ((8 * number.toNat + shape.code) % 0x100000000)

/-- A number that a field can have keeps all its bits. -/
theorem key_of_lt {number : UInt32} (h : number.toNat < 0x20000000) (shape : Shape) :
    key number shape = varint (8 * number.toNat + shape.code) := by
  have code := shape.code_lt
  rw [key, Nat.mod_eq_of_lt (by omega)]

/-- A payload of bytes, after their length. -/
def delimited (payload : Bytes) : Bytes := varint payload.length ++ payload

/-- The given number of bytes of a number, low byte first. -/
def lowBytes : Nat → Nat → Bytes
  | 0, _ => []
  | count + 1, n => n.toUInt8 :: lowBytes count (n / 256)

@[simp] theorem length_lowBytes (count n : Nat) : (lowBytes count n).length = count := by
  induction count generalizing n with
  | zero => rfl
  | succ count ih => simp [lowBytes, ih]

/-- A number as four bytes. -/
def fixed32 (n : UInt32) : Bytes := lowBytes 4 n.toNat

/-- A number as eight bytes. -/
def fixed64 (n : UInt64) : Bytes := lowBytes 8 n.toNat

/-- A signed number as a number of 64 bits: a negative one has all its high bits set, and so takes
ten bytes. -/
def signed64 (n : Int) : Bytes :=
  varint (if n < 0 then (n + 0x10000000000000000).toNat else n.toNat)

/-- A signed number folded, so that small numbers of either sign take few bytes. -/
def zigzag (n : Int) : Nat := if n < 0 then (-2 * n - 1).toNat else (2 * n).toNat

example :
    zigzag (-1) = 1 ∧ zigzag 1 = 2 ∧ zigzag (-0x8000000000000000) = 0xFFFFFFFFFFFFFFFF := by
  decide

example :
    key 1 .varint = [0x08] ∧ key 50002 .lengthDelimited = [0x92, 0xB5, 0x18] ∧
      key 0x20000001 .varint = key 1 .varint := by
  decide +kernel

end TreeWire.Wire
