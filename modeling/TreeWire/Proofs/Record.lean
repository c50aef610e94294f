import TreeWire.Proofs.Codec
import TreeWire.Record

/-!
# Reading records

A reader of messages knows the fields of a message by their numbers, and of each field the type.
It reads a byte string key by key, takes a single value or a run of values as it comes, and refuses
what is not a field that it knows. What it has read are the occurrences of fields in order; the
values of a field are those of all its occurrences, one after the other.

A record is made by pushing fields, one after the other. What it writes from buffers is read back by
a reader that has been told the numbers and the types of those fields: it ends with the last byte of
the record, and every field has the values of the buffer that it was written from.

* `TreeWire.Descriptor.Declared.scanValues?` – the values of one occurrence of a field: a single
  value, or a run of values where the type allows it;
* `TreeWire.Legend` – the fields that a reader knows, with `TreeWire.Legend.read?`;
* `TreeWire.valuesOf` – the values of a field;
* `TreeWire.Slot.occurrences` – the occurrences that a buffer is written as;
* `TreeWire.Record.scanAll?_encodeSlots_append` – the occurrences of a record, in front of whatever
  follows it;
* `TreeWire.Record.ofParts` – **a record that is made by pushing fields**;
* `TreeWire.Record.read?_encode` – **the main statement**.
-/

namespace TreeWire

open Wire

/-! ### The reader -/

/-- The values of a buffer, each with its kind. -/
def Buffer.values : Buffer → List Scalar
  | .scalar v => [v]
  | .array s => s.toList

/-- **An occurrence of a field** in a message. -/
structure Occurrence where
  /-- The number of the field. -/
  number : Nat
  /-- The values that stand there. -/
  values : List Scalar

/-- **The values of a field**: those of all its occurrences. -/
def valuesOf (number : Nat) (os : List Occurrence) : List Scalar :=
  (os.filter (·.number == number)).flatMap (·.values)

/-- The values of an occurrence: a single one, or a run of them where the type allows it. Both are
taken for every field, whether or not it was declared as packed. -/
def Descriptor.Declared.scanValues? (d : Descriptor.Declared) (shape : Shape) :
    Scan (List Scalar) :=
  if shape = d.shape then d.scan?.as fun v => [v]
  else if shape = .lengthDelimited ∧ d.packable = true then scanBlock?.pick (scanAll? d.scan?)
  else fun _ => none

/-- **The fields that a reader knows**: their numbers, and the type of each. -/
abbrev Legend := List (Nat × Descriptor.Declared)

namespace Legend

/-- An occurrence of a field at the front. -/
def scanOccurrence? (l : Legend) : Scan Occurrence := fun bs =>
  match scanKey? bs with
  | some ((number, shape), rest) =>
    match l.lookup number with
    | some d => (d.scanValues? shape).as (⟨number, ·⟩) rest
    | none => none
  | none => none

/-- **The occurrences of a message**, which takes up the whole byte string. -/
def read? (l : Legend) : Bytes → Option (List Occurrence) := scanAll? l.scanOccurrence?

/-- The reader knows the field of a slot, and the field has a number that a key can hold. -/
structure Knows (l : Legend) (s : Slot) : Prop where
  /-- The number is not zero. -/
  low : 1 ≤ s.number.toNat
  /-- The number is not too large. -/
  high : s.number.toNat ≤ largestFieldNumber
  /-- The reader takes the field to have the type that the codec of the slot belongs to. -/
  type : l.lookup s.number.toNat = some s.codec.declared

/-- What follows the key of a field that is known is read with its type. -/
theorem Knows.scanOccurrence?_key_append {l : Legend} {s : Slot} (h : l.Knows s) {shape : Shape}
    {bs rest : Bytes} {vs : List Scalar}
    (hs : s.codec.declared.scanValues? shape bs = some (vs, rest)) :
    l.scanOccurrence? (key s.number shape ++ bs) = some (⟨s.number.toNat, vs⟩, rest) := by
  have number : s.number.toNat < 0x20000000 := Nat.lt_succ_of_le h.high
  simp only [scanOccurrence?, scanKey?_key_append h.low number, h.type]
  exact Scan.as_eq_some hs rfl

end Legend

/-! ### The bytes of a slot -/

/-- A buffer of a kind holds a value of the kind, or a series of them. -/
theorem Buffer.eq_of_kind {b : Buffer} {k : Kind} (h : b.kind = k) :
    (∃ v : k.Carrier, b = .scalar ⟨k, v⟩) ∨ ∃ vs : Array k.Carrier, b = .array ⟨k, vs⟩ := by
  subst h
  cases b with
  | scalar v => exact Or.inl ⟨v.value, rfl⟩
  | array s => exact Or.inr ⟨s.items, rfl⟩

namespace Slot

theorem put?_scalar (s : Slot) (v : s.codec.writer.kind.Carrier) :
    s.put? (.scalar ⟨s.codec.writer.kind, v⟩) = some (s.item v) := dif_pos rfl

theorem put?_array (s : Slot) (vs : Array s.codec.writer.kind.Carrier) :
    s.put? (.array ⟨s.codec.writer.kind, vs⟩) = some (s.items vs.toList) := dif_pos rfl

/-- **The occurrences that a series is written as**: one for every value, or a single one if the
values are packed. A series without values is not written. -/
def runs (s : Slot) (vs : List Scalar) : List Occurrence :=
  if s.packed && s.codec.declared.packable then
    if vs = [] then [] else [⟨s.number.toNat, vs⟩]
  else vs.map fun v => ⟨s.number.toNat, [v]⟩

/-- **The occurrences that a buffer is written as.** A single value is always written. -/
def occurrences (s : Slot) : Buffer → List Occurrence
  | .scalar v => [⟨s.number.toNat, [v]⟩]
  | .array a => s.runs a.toList

theorem number_of_mem_runs {s : Slot} {vs : List Scalar} {o : Occurrence} (h : o ∈ s.runs vs) :
    o.number = s.number.toNat := by
  unfold runs at h
  split at h
  · split at h
    · cases h
    · rw [List.mem_singleton.mp h]
  · obtain ⟨v, -, rfl⟩ := List.mem_map.mp h
    rfl

/-- Every occurrence carries the number of the slot. -/
theorem number_of_mem_occurrences {s : Slot} {b : Buffer} {o : Occurrence}
    (h : o ∈ s.occurrences b) : o.number = s.number.toNat := by
  cases b with
  | scalar v => rw [List.mem_singleton.mp h]
  | array a => exact number_of_mem_runs h

theorem flatMap_values_runs (s : Slot) (vs : List Scalar) :
    (s.runs vs).flatMap (·.values) = vs := by
  unfold runs
  split
  · split
    · rename_i none
      rw [none, List.flatMap_nil]
    · simp
  · rw [List.flatMap_map]
    simp

/-- **The occurrences hold the values of the buffer** in their order. -/
theorem flatMap_values_occurrences (s : Slot) (b : Buffer) :
    (s.occurrences b).flatMap (·.values) = b.values := by
  cases b with
  | scalar v => rfl
  | array a => exact s.flatMap_values_runs a.toList

variable {l : Legend} {s : Slot}

/-- A single value is read back. -/
theorem scanOccurrence?_item_append (h : l.Knows s) (v : s.codec.writer.kind.Carrier)
    (rest : Bytes) :
    l.scanOccurrence? (s.item v ++ rest) =
      some (⟨s.number.toNat, [⟨s.codec.writer.kind, v⟩]⟩, rest) := by
  rw [item, List.append_assoc]
  refine h.scanOccurrence?_key_append ?_
  rw [Descriptor.Declared.scanValues?, if_pos s.codec.shape_declared.symm]
  exact Scan.as_eq_some (s.codec.scan?_payload_append v rest) rfl

/-- A run of values is read back, if values of the type can stand in a run. -/
theorem scanOccurrence?_run_append (h : l.Knows s) (hp : s.codec.declared.packable = true)
    (vs : List s.codec.writer.kind.Carrier) (rest : Bytes) :
    l.scanOccurrence?
        (key s.number .lengthDelimited ++ delimited (vs.flatMap s.codec.writer.payload) ++ rest) =
      some (⟨s.number.toNat, vs.map fun v => ⟨s.codec.writer.kind, v⟩⟩, rest) := by
  rw [List.append_assoc]
  refine h.scanOccurrence?_key_append ?_
  rw [Descriptor.Declared.scanValues?, if_neg (Descriptor.Declared.shape_ne_of_packable hp),
    if_pos ⟨rfl, hp⟩]
  refine Scan.pick_eq_some (scanBlock?_delimited_append _ rest) ?_
  exact scanAll?_flatMap (fun v _ => s.codec.payload_ne_nil v)
    fun v _ => s.codec.scan?_payload_append v

theorem item_ne_nil (s : Slot) (v : s.codec.writer.kind.Carrier) : s.item v ≠ [] := by
  simp [item, key_ne_nil]

/-- The bytes of a series are read as its occurrences. -/
theorem scanAll?_items_append (h : l.Knows s) (vs : List s.codec.writer.kind.Carrier)
    (rest : Bytes) :
    scanAll? l.scanOccurrence? (s.items vs ++ rest) =
      (scanAll? l.scanOccurrence? rest).map
        (s.runs (vs.map fun v => ⟨s.codec.writer.kind, v⟩) ++ ·) := by
  unfold items runs
  rw [s.codec.packable_declared]
  by_cases packed : (s.packed && s.codec.writer.packs) = true
  · rw [if_pos packed, if_pos packed]
    have packable : s.codec.declared.packable = true :=
      s.codec.packable_declared.trans (Bool.and_eq_true_iff.mp packed).2
    cases vs with
    | nil => simp
    | cons v vs =>
      -- all values stand in one block, which is there since there is a value
      rw [if_neg (by simp)]
      exact scanAll?_append (by simp [key_ne_nil])
        (scanOccurrence?_run_append h packable (v :: vs) rest)
  · rw [if_neg packed, if_neg packed, List.map_map]
    exact scanAll?_flatMap_append (fun v _ => s.item_ne_nil v)
      (fun v _ => scanOccurrence?_item_append h v) rest

/-- **The bytes of a slot are read as its occurrences**, in front of whatever follows. -/
theorem scanAll?_put?_append (h : l.Knows s) {b : Buffer} {bs : Bytes} (hb : s.put? b = some bs)
    (rest : Bytes) :
    scanAll? l.scanOccurrence? (bs ++ rest) =
      (scanAll? l.scanOccurrence? rest).map (s.occurrences b ++ ·) := by
  have kind : b.kind = s.codec.writer.kind := by
    simpa [hb, s.codec.kind_writer] using (s.isSome_put? b).symm
  obtain ⟨v, rfl⟩ | ⟨vs, rfl⟩ := Buffer.eq_of_kind kind
  · obtain rfl : s.item v = bs := Option.some.inj ((s.put?_scalar v).symm.trans hb)
    exact scanAll?_append (s.item_ne_nil v) (scanOccurrence?_item_append h v rest)
  · obtain rfl : s.items vs.toList = bs := Option.some.inj ((s.put?_array vs).symm.trans hb)
    exact scanAll?_items_append h vs.toList rest

end Slot

/-! ### The values of a field -/

@[simp] theorem valuesOf_append (number : Nat) (os qs : List Occurrence) :
    valuesOf number (os ++ qs) = valuesOf number os ++ valuesOf number qs := by
  simp [valuesOf]

/-- Occurrences of a field hold its values. -/
theorem valuesOf_eq_flatMap {number : Nat} {os : List Occurrence}
    (h : ∀ o ∈ os, o.number = number) : valuesOf number os = os.flatMap (·.values) := by
  rw [valuesOf, List.filter_eq_self.mpr fun o ho => by simp [h o ho]]

/-- Occurrences of other fields hold no value of a field. -/
theorem valuesOf_eq_nil {number : Nat} {os : List Occurrence}
    (h : ∀ o ∈ os, o.number ≠ number) : valuesOf number os = [] := by
  rw [valuesOf, List.filter_eq_nil_iff.mpr fun o ho => by simp [h o ho]]
  rfl

theorem Slot.valuesOf_occurrences (s : Slot) (b : Buffer) :
    valuesOf s.number.toNat (s.occurrences b) = b.values := by
  rw [valuesOf_eq_flatMap fun o ho => Slot.number_of_mem_occurrences ho,
    s.flatMap_values_occurrences]

/-! ### The bytes of a record -/

/-- A slot finds a binding, whose buffer has the kind of its codec. -/
def Slot.Bound (bindings : List Binding) (s : Slot) : Prop :=
  ∃ b, bindings[s.position]? = some b ∧ b.buffer.kind = s.codec.kind

/-- The bytes of a slot are those of the buffer that it finds. -/
theorem Slot.write_eq_ok_iff {s : Slot} {bindings : List Binding} {bs : Bytes} :
    s.write bindings = .ok bs ↔
      ∃ b, bindings[s.position]? = some b ∧ s.put? b.buffer = some bs := by
  unfold write
  cases hb : bindings[s.position]? with
  | none => simp
  | some b => cases hp : s.put? b.buffer <;> simp [hp]

/-- A slot that finds its buffer is written. -/
theorem Slot.Bound.exists_write {s : Slot} {bindings : List Binding} (h : s.Bound bindings) :
    ∃ bs, s.write bindings = .ok bs := by
  obtain ⟨b, hb, kind⟩ := h
  have written : (s.put? b.buffer).isSome = true := by
    rw [s.isSome_put?, kind, decide_eq_true rfl]
  obtain ⟨bs, hp⟩ := Option.isSome_iff_exists.mp written
  exact ⟨bs, Slot.write_eq_ok_iff.mpr ⟨b, hb, hp⟩⟩

namespace Record

/-- The reader that knows the fields of a record. -/
def legend (r : Record) : Legend := r.slots.map fun s => (s.number.toNat, s.codec.declared)

/-- The occurrences that some slots are written as. -/
def occurrences (bindings : List Binding) (ss : List Slot) : List Occurrence :=
  ss.flatMap fun s => (bindings[s.position]?.map fun b => s.occurrences b.buffer).getD []

/-- Slots that find their buffers are written. -/
theorem exists_encodeSlots {bindings : List Binding} {ss : List Slot}
    (h : ∀ s ∈ ss, s.Bound bindings) : ∃ bs, encodeSlots bindings ss = (bs, none) := by
  induction ss with
  | nil => exact ⟨[], rfl⟩
  | cons s ss ih =>
    obtain ⟨front, hf⟩ := (h s (by simp)).exists_write
    obtain ⟨rest, hr⟩ := ih fun t ht => h t (by simp [ht])
    exact ⟨front ++ rest, by simp [encodeSlots, hf, hr]⟩

/-- The bytes of some slots are those of the first one and those of the others. -/
theorem encodeSlots_cons_eq_none {bindings : List Binding} {s : Slot} {ss : List Slot} {bs : Bytes}
    (h : encodeSlots bindings (s :: ss) = (bs, none)) :
    ∃ front rest, s.write bindings = .ok front ∧ encodeSlots bindings ss = (rest, none) ∧
      bs = front ++ rest := by
  rw [encodeSlots] at h
  cases hw : s.write bindings with
  | error fault => simp [hw] at h
  | ok front =>
    rw [hw] at h
    obtain ⟨rfl, none⟩ := Prod.mk.inj h
    exact ⟨front, _, rfl, Prod.ext rfl none, rfl⟩

/-- **The bytes of a record are read as its occurrences**, in front of whatever follows. -/
theorem scanAll?_encodeSlots_append {l : Legend} {bindings : List Binding} {ss : List Slot}
    {bs : Bytes} (known : ∀ s ∈ ss, l.Knows s) (h : encodeSlots bindings ss = (bs, none))
    (rest : Bytes) :
    scanAll? l.scanOccurrence? (bs ++ rest) =
      (scanAll? l.scanOccurrence? rest).map (occurrences bindings ss ++ ·) := by
  induction ss generalizing bs with
  | nil =>
    obtain rfl : [] = bs := congrArg Prod.fst h
    simp [occurrences]
  | cons s ss ih =>
    obtain ⟨front, others, hf, ho, rfl⟩ := encodeSlots_cons_eq_none h
    obtain ⟨b, hb, hp⟩ := Slot.write_eq_ok_iff.mp hf
    have first := Slot.scanAll?_put?_append (known s (by simp)) hp (others ++ rest)
    have later := ih (fun t ht => known t (by simp [ht])) ho
    rw [List.append_assoc, first, later, Option.map_map]
    simp [occurrences, hb, Function.comp_def]

/-- Every occurrence carries the number of a slot. -/
theorem exists_number_of_mem_occurrences {bindings : List Binding} {ss : List Slot}
    {o : Occurrence} (h : o ∈ occurrences bindings ss) : ∃ s ∈ ss, o.number = s.number.toNat := by
  obtain ⟨s, hs, ho⟩ := List.mem_flatMap.mp h
  refine ⟨s, hs, ?_⟩
  cases hb : bindings[s.position]? with
  | none => simp [hb] at ho
  | some b =>
    rw [hb] at ho
    exact Slot.number_of_mem_occurrences ho

/-- **A field has the values of its buffer**, if no other field has its number. -/
theorem valuesOf_occurrences {bindings : List Binding} {ss : List Slot} {s : Slot} {b : Binding}
    (distinct : (ss.map (·.number)).Nodup) (hs : s ∈ ss) (hb : bindings[s.position]? = some b) :
    valuesOf s.number.toNat (occurrences bindings ss) = b.buffer.values := by
  induction ss with
  | nil => cases hs
  | cons t ss ih =>
    obtain ⟨fresh, distinct⟩ := List.nodup_cons.mp distinct
    have split : occurrences bindings (t :: ss) =
        occurrences bindings [t] ++ occurrences bindings ss := by
      simp [occurrences]
    rw [split, valuesOf_append]
    rcases List.mem_cons.mp hs with rfl | later
    · -- the slot comes first, and no later one has its number
      have others : valuesOf s.number.toNat (occurrences bindings ss) = [] := by
        refine valuesOf_eq_nil fun o ho hn => ?_
        obtain ⟨t, ht, hnt⟩ := exists_number_of_mem_occurrences ho
        exact fresh (List.mem_map.mpr ⟨t, ht, UInt32.toNat_inj.mp (hnt.symm.trans hn)⟩)
      rw [others, List.append_nil]
      simp [occurrences, hb, Slot.valuesOf_occurrences]
    · -- the first slot has another number
      have first : valuesOf s.number.toNat (occurrences bindings [t]) = [] := by
        refine valuesOf_eq_nil fun o ho hn => ?_
        obtain ⟨u, hu, hnu⟩ := exists_number_of_mem_occurrences ho
        rw [List.mem_singleton.mp hu, hn] at hnu
        exact fresh (List.mem_map.mpr ⟨s, later, UInt32.toNat_inj.mp hnu⟩)
      rw [first, List.nil_append]
      exact ih distinct later

/-! ### Pushing fields -/

/-- **A field to be pushed**, with its codec and the position of its binding. -/
structure Part where
  /-- The field. -/
  field : FieldSpec
  /-- The codec. -/
  codec : Codec
  /-- The position of the binding. -/
  position : Nat

/-- The slot that a field is pushed as. -/
def Part.slot (p : Part) : Slot := .ofField p.field p.codec p.position

/-- **A record that is made by pushing fields**, one after the other. -/
def ofParts (parts : List Part) : Record :=
  parts.foldl (fun r p => r.push p.field p.codec p.position) {}

/-- Pushing fields adds a slot for each, in order. -/
theorem slots_foldl_push (r : Record) (parts : List Part) :
    (parts.foldl (fun r p => r.push p.field p.codec p.position) r).slots =
      r.slots ++ parts.map Part.slot := by
  induction parts generalizing r with
  | nil => simp
  | cons p parts ih =>
    rw [List.foldl_cons, ih, List.map_cons, push, List.append_assoc]
    rfl

theorem slots_ofParts (parts : List Part) : (ofParts parts).slots = parts.map Part.slot :=
  slots_foldl_push {} parts

/-- **What a reader is told** of some fields: the number of each, and the type that its codec
belongs to. -/
def legendOf (parts : List Part) : Legend :=
  parts.map fun p => (p.field.number.toNat, p.codec.declared)

/-- The record knows its fields by what the reader is told. -/
theorem legend_ofParts (parts : List Part) : (ofParts parts).legend = legendOf parts := by
  rw [legend, slots_ofParts, List.map_map]
  rfl

theorem numbers_ofParts (parts : List Part) :
    (ofParts parts).slots.map (·.number) = parts.map (·.field.number) := by
  rw [slots_ofParts, List.map_map]
  rfl

/-! ### Reading back -/

/-- In a list of slots with distinct numbers, the number of a slot leads to its type. -/
theorem lookup_number {ss : List Slot} {s : Slot} (distinct : (ss.map (·.number)).Nodup)
    (hs : s ∈ ss) :
    (ss.map fun s => (s.number.toNat, s.codec.declared)).lookup s.number.toNat =
      some s.codec.declared := by
  induction ss with
  | nil => cases hs
  | cons t ss ih =>
    obtain ⟨fresh, distinct⟩ := List.nodup_cons.mp distinct
    rw [List.map_cons, List.lookup_cons]
    rcases List.mem_cons.mp hs with rfl | later
    · simp
    · have other : s.number.toNat ≠ t.number.toNat := fun hn =>
        fresh (List.mem_map.mpr ⟨s, later, UInt32.toNat_inj.mp hn⟩)
      rw [beq_false_of_ne other]
      exact ih distinct later

/-- The reader of a record knows its fields. -/
theorem knows_legend {r : Record} (distinct : (r.slots.map (·.number)).Nodup)
    (inRange : ∀ s ∈ r.slots, 1 ≤ s.number.toNat ∧ s.number.toNat ≤ largestFieldNumber) :
    ∀ s ∈ r.slots, r.legend.Knows s := fun s hs =>
  ⟨(inRange s hs).1, (inRange s hs).2, lookup_number distinct hs⟩

/-- **A record is read back.** It is made by pushing any fields with numbers of their own, each with
any codec, packed or not, and written from a binding whose buffer has the kind of the codec. What is
written goes to the end of whatever is there. A reader that is told the numbers and the types of the
fields reads all of it: every field has the values of its buffer, one for a single value, even if it
is zero or empty, and those of a series in order. -/
theorem read?_encode (parts : List Part) (bindings : List Binding) (out : Bytes)
    (distinct : (parts.map (·.field.number)).Nodup)
    (inRange : ∀ p ∈ parts,
      1 ≤ p.field.number.toNat ∧ p.field.number.toNat ≤ largestFieldNumber)
    (bound : ∀ p ∈ parts, ∃ b, bindings[p.position]? = some b ∧ b.buffer.kind = p.codec.kind) :
    ∃ bytes os, (ofParts parts).encode bindings out = (out ++ bytes, none) ∧
      (legendOf parts).read? bytes = some os ∧
      ∀ p ∈ parts, ∀ b, bindings[p.position]? = some b →
        valuesOf p.field.number.toNat os = b.buffer.values := by
  have slots := slots_ofParts parts
  have numbers : ((ofParts parts).slots.map (·.number)).Nodup := numbers_ofParts parts ▸ distinct
  have known : ∀ s ∈ (ofParts parts).slots, (legendOf parts).Knows s := by
    rw [← legend_ofParts]
    refine knows_legend numbers ?_
    rw [slots, List.forall_mem_map]
    exact inRange
  have found : ∀ s ∈ (ofParts parts).slots, s.Bound bindings := by
    rw [slots, List.forall_mem_map]
    exact bound
  obtain ⟨bytes, written⟩ := exists_encodeSlots found
  refine ⟨bytes, occurrences bindings (ofParts parts).slots, ?_, ?_, fun p mem b hb => ?_⟩
  · rw [encode, written]
  · have read := scanAll?_encodeSlots_append known written []
    simpa [Legend.read?] using read
  · have mem : p.slot ∈ (ofParts parts).slots := slots ▸ List.mem_map.mpr ⟨p, mem, rfl⟩
    exact valuesOf_occurrences (s := p.slot) numbers mem hb

/-- Fields of a record: a folded number, packed numbers, texts that are to be packed but cannot be,
under the largest number of a field, numbers that are not packed, and a byte string. -/
def mixedParts : List Part :=
  [⟨⟨"s", 1, .sint32, false, false, "s"⟩, .sint32, 0⟩,
    ⟨⟨"f", 2, .fixed64, true, true, "f"⟩, .fixed64, 1⟩,
    ⟨⟨"t", 536870911, .string, true, true, "t"⟩, .string, 2⟩,
    ⟨⟨"d", 4, .double, true, false, "d"⟩, .double, 3⟩,
    ⟨⟨"b", 5, .bytes, false, false, "b"⟩, .bytes, 4⟩]

/-- A negative number, the largest number of 64 bits, an empty text, no values, no bytes. -/
def mixedBindings : List Binding :=
  [⟨"s", 0, .scalar ⟨.int32, -3⟩⟩, ⟨"f", 1, .array ⟨.uint64, #[1, 0xFFFFFFFFFFFFFFFF]⟩⟩,
    ⟨"t", 2, .array ⟨.string, #["", "bc"]⟩⟩, ⟨"d", 3, .array ⟨.double, #[]⟩⟩,
    ⟨"b", 4, .scalar ⟨.bytes, []⟩⟩]

theorem read?_encode_mixed :
    ((mixedParts.map (·.field.number)).Nodup ∧
        (∀ p ∈ mixedParts,
          1 ≤ p.field.number.toNat ∧ p.field.number.toNat ≤ largestFieldNumber) ∧
        ∀ p ∈ mixedParts,
          ∃ b, mixedBindings[p.position]? = some b ∧ b.buffer.kind = p.codec.kind) ∧
      ∃ bytes os, (ofParts mixedParts).encode mixedBindings [7] = ([7] ++ bytes, none) ∧
        Legend.read?
          [(1, .sint32), (2, .fixed64), (536870911, .string), (4, .double), (5, .bytes)] bytes =
            some os ∧
        valuesOf 1 os = [⟨.int32, -3⟩] ∧
        valuesOf 2 os = [⟨.uint64, 1⟩, ⟨.uint64, 0xFFFFFFFFFFFFFFFF⟩] ∧
        valuesOf 536870911 os = [⟨.string, ""⟩, ⟨.string, "bc"⟩] ∧ valuesOf 4 os = [] ∧
        valuesOf 5 os = [⟨.bytes, []⟩] := by
  have distinct : (mixedParts.map (·.field.number)).Nodup := by decide
  have inRange : ∀ p ∈ mixedParts,
      1 ≤ p.field.number.toNat ∧ p.field.number.toNat ≤ largestFieldNumber := by decide
  have bound : ∀ p ∈ mixedParts,
      ∃ b, mixedBindings[p.position]? = some b ∧ b.buffer.kind = p.codec.kind := by
    simp [mixedParts, mixedBindings, Buffer.kind]
  obtain ⟨bytes, os, written, read, values⟩ :=
    read?_encode mixedParts mixedBindings [7] distinct inRange bound
  refine ⟨⟨distinct, inRange, bound⟩, bytes, os, written, read, ?_⟩
  simpa [mixedParts, mixedBindings, Buffer.values, Series.toList] using values

end Record

end TreeWire
