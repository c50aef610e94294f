import TreeWire.Bytes

/-!
# The cyclic redundancy check of 32 bits

* `TreeWire.crc32` – the check value that the trailer of a compressed file holds.
-/

namespace TreeWire

/-- One bit of the division by the generator, in reversed bit order. -/
def crcShift (c : UInt32) : UInt32 :=
  if c &&& 1 = 1 then (c >>> 1) ^^^ 0xEDB88320 else c >>> 1

/-- The check value after one more byte. -/
def crcByte (c : UInt32) (b : UInt8) : UInt32 :=
  (List.range 8).foldl (fun c _ => crcShift c) (c ^^^ b.toUInt32)

/-- **The check value** of a byte string. -/
def crc32 (bs : Bytes) : UInt32 := (bs.foldl crcByte 0xFFFFFFFF) ^^^ 0xFFFFFFFF

/-- The published check value of the digits one to nine. -/
example : crc32 (utf8 "123456789") = 0xCBF43926 := by decide +kernel

end TreeWire
