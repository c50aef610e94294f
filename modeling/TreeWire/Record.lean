import TreeWire.Binding
import TreeWire.Codec

/-!
# Records

A record holds one entry of a tree: the fields of the data message in order, each written straight
from the buffer that it is bound to. A single value is always written, whatever it is. A series is
written item by item, or as one packed run; one without items is not written at all. The number of
a field is not checked: its key takes the low 29 bits (`TreeWire.Wire.key`).

* `TreeWire.Slot` – a field of the record and the binding that it reads;
* `TreeWire.Slot.put?` – the bytes of a field;
* `TreeWire.Record.encode` – the bytes of a record.
-/

namespace TreeWire

/-- **A field of a record**, with the position of the binding that it reads. -/
structure Slot where
  /-- The number of the field. -/
  number : UInt32
  /-- The codec. -/
  codec : Codec
  /-- Whether a series is written as one run. -/
  packed : Bool
  /-- The position of the binding. -/
  position : Nat
  /-- The name of the field. -/
  field : String
  deriving DecidableEq

namespace Slot

/-- The slot of a field with a codec. Only a repeated field is packed. -/
def ofField (f : FieldSpec) (codec : Codec) (position : Nat) : Slot :=
  ⟨f.number, codec, f.packed && f.repeated, position, f.name⟩

/-- The bytes of one value. -/
def item (s : Slot) (v : s.codec.writer.kind.Carrier) : Bytes :=
  Wire.key s.number s.codec.writer.shape ++ s.codec.writer.payload v

/-- The bytes of a series: one run if the slot is packed and the writer allows it. -/
def items (s : Slot) (vs : List s.codec.writer.kind.Carrier) : Bytes :=
  if s.packed && s.codec.writer.packs then
    match vs with
    | [] => []
    | vs =>
      Wire.key s.number .lengthDelimited ++ Wire.delimited (vs.flatMap s.codec.writer.payload)
  else vs.flatMap s.item

/-- **The bytes of a field**, read from a buffer with values that its writer takes. -/
def put? (s : Slot) : Buffer → Option Bytes
  | .scalar v => if h : v.kind = s.codec.writer.kind then some (s.item (h ▸ v.value)) else none
  | .array a =>
    if h : a.kind = s.codec.writer.kind then
      some (s.items (h ▸ a.items).toList)
    else none

/-- The bytes of a field, read from its binding. -/
def write (s : Slot) (bindings : List Binding) : Except Fault Bytes :=
  match bindings[s.position]? with
  | none => .error (.descriptor ("field " ++ s.field ++ " lost its binding"))
  | some b =>
    match s.put? b.buffer with
    | some bs => .ok bs
    | none => .error (.bindMismatch b.branch s.codec.name b.buffer.kind.keyword)

/-- A buffer is written exactly if it has the kind of the codec. -/
theorem isSome_put? (s : Slot) (b : Buffer) :
    (s.put? b).isSome = decide (b.kind = s.codec.kind) := by
  rw [← s.codec.kind_writer]
  cases b <;> simp only [put?, Buffer.kind] <;> split <;> simp_all

end Slot

/-- **The layout of a record**: its fields in order. -/
structure Record where
  /-- The fields. -/
  slots : List Slot := []
  deriving DecidableEq

namespace Record

/-- A record with one more field, which reads the binding at a position. -/
def push (r : Record) (f : FieldSpec) (codec : Codec) (position : Nat) : Record :=
  ⟨r.slots ++ [.ofField f codec position]⟩

/-- The number of fields. -/
def size (r : Record) : Nat := r.slots.length

/-- The bytes of some fields up to the first one that cannot be written, and its fault. -/
def encodeSlots (bindings : List Binding) : List Slot → Bytes × Option Fault
  | [] => ([], none)
  | s :: ss =>
    match s.write bindings with
    | .error fault => ([], some fault)
    | .ok bs =>
      let (rest, fault) := encodeSlots bindings ss
      (bs ++ rest, fault)

/-- **A byte string with a record at its end.** If a field cannot be written, the fields before it
are there, and the fault says why. -/
def encode (r : Record) (bindings : List Binding) (out : Bytes) : Bytes × Option Fault :=
  let (bs, fault) := encodeSlots bindings r.slots
  (out ++ bs, fault)

end Record

end TreeWire
