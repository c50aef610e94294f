import TreeWire.Codec
import TreeWire.Proofs.Wire.Scan

/-!
# Reading values

A reader goes by the type that a field is declared with. The type says which shape its values have,
whether they can stand in a run, and how a value is read. All this is said here of the types by
themselves and owes nothing to what is written: that a codec writes the shape that its type demands
(`TreeWire.Codec.shape_declared`), runs where they can be read (`TreeWire.Codec.packable_declared`)
and payloads that give back the value are theorems. Integers come back with their sign,
floating-point values with all their bits, texts and byte strings with their length.

* `TreeWire.Descriptor.Declared.shape`, `TreeWire.Descriptor.Declared.packable` – the shape of the
  values of a type, and whether they can stand in a run;
* `TreeWire.Descriptor.Declared.scan?` – the value of a type at the front of a byte string;
* `TreeWire.Codec.scan?_payload_append` – a payload is read back.
-/

namespace TreeWire

open Wire

/-! ### Integers of a machine -/

/-- The number of 64 bits that a signed number is written as. -/
def Wire.wrap64 (n : Int) : Nat := if n < 0 then (n + 0x10000000000000000).toNat else n.toNat

theorem Wire.signed64_eq (n : Int) : signed64 n = varint (wrap64 n) := rfl

theorem Wire.wrap64_lt {n : Int} (low : -0x8000000000000000 ≤ n) (high : n < 0x8000000000000000) :
    wrap64 n < 0x10000000000000000 := by
  unfold wrap64
  split <;> omega

/-- The low bits of the number that is written are those of the signed number. -/
theorem Wire.wrap64_emod {n : Int} (low : -0x8000000000000000 ≤ n) :
    (wrap64 n : Int) % 0x10000000000000000 = n % 0x10000000000000000 := by
  unfold wrap64
  split <;> omega

theorem int64_ofNat_wrap64 (v : Int64) : Int64.ofNat (wrap64 v.toInt) = v := by
  have low := v.le_toInt
  have high := v.toInt_lt
  -- a wrapped number differs from the number by a multiple of the size, which `bmod` takes away
  apply Int64.toInt_inj.mp
  calc (Int64.ofNat (wrap64 v.toInt)).toInt
      = (wrap64 v.toInt : Int).bmod 0x10000000000000000 := Int64.toInt_ofNat'
    _ = (v.toInt % 0x10000000000000000).bmod 0x10000000000000000 := by
      rw [← wrap64_emod (by omega), ← Int.emod_bmod]
      rfl
    _ = v.toInt.bmod 0x10000000000000000 := Int.emod_bmod _ _
    _ = v.toInt := Int.bmod_eq_of_le_mul_two (by omega) (by omega)

theorem int32_ofNat_wrap64 (v : Int32) : Int32.ofNat (wrap64 v.toInt) = v := by
  have low := v.le_toInt
  have high := v.toInt_lt
  have narrow : (wrap64 v.toInt : Int) % 0x100000000 = v.toInt % 0x100000000 := by
    have := wrap64_emod (n := v.toInt) (by omega)
    omega
  apply Int32.toInt_inj.mp
  calc (Int32.ofNat (wrap64 v.toInt)).toInt
      = (wrap64 v.toInt : Int).bmod 0x100000000 := Int32.toInt_ofNat'
    _ = (v.toInt % 0x100000000).bmod 0x100000000 := by
      rw [← narrow, ← Int.emod_bmod]
      rfl
    _ = v.toInt.bmod 0x100000000 := Int.emod_bmod _ _
    _ = v.toInt := Int.bmod_eq_of_le_mul_two (by omega) (by omega)

theorem Wire.zigzag_lt {n : Int} {bound : Nat} (low : -(bound : Int) ≤ n) (high : n < bound) :
    zigzag n < 2 * bound := by
  unfold zigzag
  split <;> omega

/-! ### The values of a type -/

namespace Descriptor.Declared

/-- **The shape of the values of a type.** -/
def shape : Declared → Shape
  | int32 | int64 | uint32 | uint64 | sint32 | sint64 | bool | enumeration => .varint
  | fixed64 | sfixed64 | double => .sixtyFourBit
  | string | bytes | message => .lengthDelimited
  | group => .startGroup
  | fixed32 | sfixed32 | float => .thirtyTwoBit

/-- Whether values of a type can stand in a run: they are numbers, of variable or fixed length. -/
def packable (d : Declared) : Bool :=
  d.shape = .varint || d.shape = .sixtyFourBit || d.shape = .thirtyTwoBit

/-- **The value of a type** at the front of a byte string. Of a number with too many bits for the
type, the low ones count. Messages, groups and enumerations are not read. -/
def scan? : Declared → Scan Scalar
  | double => (scanLow? 8).as fun n => ⟨.double, ⟨n.toUInt64⟩⟩
  | float => (scanLow? 4).as fun n => ⟨.float, ⟨n.toUInt32⟩⟩
  | int32 => Scan.as readVarint? fun n => ⟨.int32, Int32.ofNat n⟩
  | int64 => Scan.as readVarint? fun n => ⟨.int64, Int64.ofNat n⟩
  | uint32 => Scan.as readVarint? fun n => ⟨.uint32, n.toUInt32⟩
  | uint64 => Scan.as readVarint? fun n => ⟨.uint64, n.toUInt64⟩
  | sint32 => Scan.as readVarint? fun n => ⟨.int32, Int32.ofInt (unzigzag (n % 0x100000000))⟩
  | sint64 => Scan.as readVarint? fun n => ⟨.int64, Int64.ofInt (unzigzag n)⟩
  | fixed32 => (scanLow? 4).as fun n => ⟨.uint32, n.toUInt32⟩
  | fixed64 => (scanLow? 8).as fun n => ⟨.uint64, n.toUInt64⟩
  | sfixed32 => (scanLow? 4).as fun n => ⟨.int32, n.toUInt32.toInt32⟩
  | sfixed64 => (scanLow? 8).as fun n => ⟨.int64, n.toUInt64.toInt64⟩
  | bool => Scan.as readVarint? fun n => ⟨.bool, n != 0⟩
  | string => scanBlock?.pick fun bs => (ofUtf8? bs).map fun s => ⟨.string, s⟩
  | bytes => scanBlock?.as fun bs => ⟨.bytes, bs⟩
  | message | group | enumeration => fun _ => none

/-- Values that can stand in a run never stand in a block of their own. -/
theorem shape_ne_of_packable {d : Declared} (h : d.packable = true) :
    Shape.lengthDelimited ≠ d.shape := by
  intro block
  simp [packable, ← block] at h

end Descriptor.Declared

/-! ### The payloads of a codec -/

namespace Codec

/-- **A codec writes the shape** that its type demands. -/
theorem shape_declared (c : Codec) : c.declared.shape = c.writer.shape := by cases c <;> rfl

/-- **A codec writes runs** exactly where they can be read. -/
theorem packable_declared (c : Codec) : c.declared.packable = c.writer.packs := by cases c <;> rfl

theorem scanLow?_fixed32_append (n : UInt32) (rest : Bytes) :
    scanLow? 4 (Wire.fixed32 n ++ rest) = some (n.toNat, rest) :=
  scanLow?_lowBytes_append n.toNat_lt rest

theorem scanLow?_fixed64_append (n : UInt64) (rest : Bytes) :
    scanLow? 8 (Wire.fixed64 n ++ rest) = some (n.toNat, rest) :=
  scanLow?_lowBytes_append n.toNat_lt rest

/-- **A payload is read back**, whatever follows it. -/
theorem scan?_payload_append (c : Codec) (v : c.writer.kind.Carrier) (rest : Bytes) :
    c.declared.scan? (c.writer.payload v ++ rest) = some (⟨c.writer.kind, v⟩, rest) := by
  cases c with
  | double =>
    exact Scan.as_eq_some (scanLow?_fixed64_append v.bits rest)
      (congrArg (fun bits => Scalar.mk .double ⟨bits⟩) UInt64.ofNat_toNat)
  | float =>
    exact Scan.as_eq_some (scanLow?_fixed32_append v.bits rest)
      (congrArg (fun bits => Scalar.mk .float ⟨bits⟩) UInt32.ofNat_toNat)
  | int32 =>
    -- a negative number is written as one of 64 bits, and its low half is read
    have low := v.le_toInt
    have high := v.toInt_lt
    exact Scan.as_eq_some (readVarint?_varint_append (wrap64_lt (by omega) (by omega)) rest)
      (congrArg (Scalar.mk .int32) (int32_ofNat_wrap64 v))
  | int64 =>
    exact Scan.as_eq_some (readVarint?_varint_append (wrap64_lt v.le_toInt v.toInt_lt) rest)
      (congrArg (Scalar.mk .int64) (int64_ofNat_wrap64 v))
  | uint32 =>
    have high := v.toNat_lt
    exact Scan.as_eq_some (readVarint?_varint_append (by omega) rest)
      (congrArg (Scalar.mk .uint32) UInt32.ofNat_toNat)
  | uint64 =>
    exact Scan.as_eq_some (readVarint?_varint_append v.toNat_lt rest)
      (congrArg (Scalar.mk .uint64) UInt64.ofNat_toNat)
  | sint32 =>
    have narrow : zigzag v.toInt < 2 * 0x80000000 := zigzag_lt v.le_toInt v.toInt_lt
    refine Scan.as_eq_some (readVarint?_varint_append (by omega) rest)
      (congrArg (Scalar.mk .int32) ?_)
    rw [Nat.mod_eq_of_lt narrow, unzigzag_zigzag, Int32.ofInt_toInt]
  | sint64 =>
    have narrow : zigzag v.toInt < 2 * 0x8000000000000000 := zigzag_lt v.le_toInt v.toInt_lt
    refine Scan.as_eq_some (readVarint?_varint_append (by omega) rest)
      (congrArg (Scalar.mk .int64) ?_)
    rw [unzigzag_zigzag, Int64.ofInt_toInt]
  | fixed32 =>
    exact Scan.as_eq_some (scanLow?_fixed32_append v rest)
      (congrArg (Scalar.mk .uint32) UInt32.ofNat_toNat)
  | fixed64 =>
    exact Scan.as_eq_some (scanLow?_fixed64_append v rest)
      (congrArg (Scalar.mk .uint64) UInt64.ofNat_toNat)
  | sfixed32 =>
    exact Scan.as_eq_some (scanLow?_fixed32_append v.toUInt32 rest)
      (congrArg (fun n : UInt32 => Scalar.mk .int32 n.toInt32) UInt32.ofNat_toNat)
  | sfixed64 =>
    exact Scan.as_eq_some (scanLow?_fixed64_append v.toUInt64 rest)
      (congrArg (fun n : UInt64 => Scalar.mk .int64 n.toInt64) UInt64.ofNat_toNat)
  | bool =>
    have bit : v.toNat < 2 := v.toNat_lt
    refine Scan.as_eq_some (readVarint?_varint_append (by omega) rest) ?_
    cases v <;> rfl
  | string =>
    exact Scan.pick_eq_some (scanBlock?_delimited_append (utf8 v) rest) (by rw [ofUtf8?_utf8]; rfl)
  | bytes => exact Scan.as_eq_some (scanBlock?_delimited_append v rest) rfl

/-- No payload is empty. -/
theorem payload_ne_nil (c : Codec) (v : c.writer.kind.Carrier) : c.writer.payload v ≠ [] := by
  cases c <;> simp [signed64_eq, varint_ne_nil, delimited_ne_nil, Wire.fixed32, Wire.fixed64,
    lowBytes]

end Codec

end TreeWire
