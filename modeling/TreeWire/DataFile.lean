import TreeWire.Record

/-!
# Data files

A data file is a header record, which announces how many data records follow, and then one data
record for every converted entry of a tree. The records follow each other directly, or each one
follows its length.

* `TreeWire.Framing` – how records are separated;
* `TreeWire.Tree.layout` – the record layout of a data message, with its fields bound to branches;
* `TreeWire.Tree.convert` – the bytes of a data file and how the conversion ends.

What a conversion has written before a fault stays written, and it has written whole records only.
-/

namespace TreeWire

/-! ### Framing -/

/-- **How records are separated.** -/
inductive Framing where
  /-- They are not. -/
  | concatenated
  /-- Each one follows its length. -/
  | lengthDelimited
  deriving DecidableEq, Repr

namespace Framing

/-- The name of a framing. -/
def name : Framing → String
  | concatenated => "concatenated"
  | lengthDelimited => "length-delimited"

/-- What stands in front of a record. -/
def lead : Framing → Bytes → Bytes
  | concatenated, _ => []
  | lengthDelimited, record => Wire.varint record.length

/-- **A record** as it stands in a file. -/
def frame (f : Framing) (record : Bytes) : Bytes := f.lead record ++ record

/-- The number of bytes that a record takes in a file. -/
def frameSize (f : Framing) (record : Bytes) : Nat := record.length + (f.lead record).length

/-- The count agrees with the bytes. -/
@[simp] theorem length_frame (f : Framing) (record : Bytes) :
    (f.frame record).length = f.frameSize record := by
  simp [frame, frameSize, Nat.add_comm]

end Framing

/-- **The header record**, which announces the number of data records. -/
def headerRecord (entries : Nat) : Bytes := Wire.key 1 .varint ++ Wire.varint entries

/-! ### Layout -/

/-- The codec and the binding of a field. The codec is chosen before the branch is bound. -/
def Tree.bindField (t : Tree) (f : FieldSpec) : Except Fault (Codec × Binding) := do
  let codec ← Codec.ofField f
  let binding ← t.bind f.branch codec.kind f.repeated
  .ok (codec, binding)

/-- A layout and its bindings with one more field, which reads the last binding. -/
def Tree.pushField (t : Tree) (laid : Record × List Binding) (f : FieldSpec) :
    Except Fault (Record × List Binding) := do
  let (codec, binding) ← t.bindField f
  .ok (laid.1.push f codec laid.2.length, laid.2 ++ [binding])

/-- **The layout of a record** of the tree, and the bindings that its fields read: the fields are
pushed one after the other. -/
def Tree.layout (t : Tree) (fields : List FieldSpec) : Except Fault (Record × List Binding) :=
  fields.foldlM t.pushField ({}, [])

/-- The number of entries to convert, given a limit, which does not count if it is negative. -/
def Tree.clamp (t : Tree) (limit : Int) : Nat :=
  if limit < 0 then t.entries else min limit.toNat t.entries

/-! ### Conversion -/

/-- The record of an entry and the bindings after it has been loaded. An entry without any values
cannot be converted. -/
def Tree.record (t : Tree) (layout : Record) (entry : Nat) (bindings : List Binding) :
    Except Fault (Bytes × List Binding) :=
  match t.load entry bindings with
  | (_, .error fault) => .error fault
  | (_, .ok 0) => .error (.entryLoad t.name entry)
  | (bindings, .ok _) =>
    match layout.encode bindings [] with
    | (_, some fault) => .error fault
    | (bs, none) => .ok (bs, bindings)

/-- The given number of records from an entry on, up to the first one that fails, and the number of
bytes that they take. -/
def Tree.records (t : Tree) (layout : Record) (framing : Framing) :
    Nat → Nat → List Binding → Bytes × Except Fault Nat
  | 0, _, _ => ([], .ok 0)
  | count + 1, entry, bindings =>
    match t.record layout entry bindings with
    | .error fault => ([], .error fault)
    | .ok (bs, bindings) =>
      let (rest, result) := t.records layout framing count (entry + 1) bindings
      (framing.frame bs ++ rest, result.map (framing.frameSize bs + ·))

/-- **What a finished conversion has written.** -/
structure Written where
  /-- The full name of the data message. -/
  message : String
  /-- The number of data records. -/
  entries : Nat
  /-- The number of bytes. -/
  bytes : Nat
  deriving DecidableEq

/-- The data message of a descriptor set with the layout of its record. -/
def Tree.prepare (t : Tree) (set : DescriptorSet) (message : Option String) :
    Except Fault (Target × Record × List Binding) := do
  let target ← (set.target message).mapError (·.fault)
  let fields ← target.message.specs.mapError (·.fault)
  let (layout, bindings) ← t.layout fields
  .ok (target, layout, bindings)

/-- **The bytes of a data file**, and how the conversion ends. Nothing is written before the data
message is found and all of its fields are bound. -/
def Tree.convert (t : Tree) (set : DescriptorSet) (message : Option String) (limit : Int)
    (framing : Framing) : Bytes × Except Fault Written :=
  match t.prepare set message with
  | .error fault => ([], .error fault)
  | .ok (target, layout, bindings) =>
    let entries := t.clamp limit
    let header := headerRecord entries
    let (rest, result) := t.records layout framing entries 0 bindings
    (framing.frame header ++ rest,
      result.map fun n => ⟨target.fullName, entries, framing.frameSize header + n⟩)

end TreeWire
