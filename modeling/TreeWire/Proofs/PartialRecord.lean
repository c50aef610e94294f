import TreeWire.Proofs.Lists
import TreeWire.Proofs.Record

/-!
# Records that break off

A record is written field by field, and what is written is not taken back. A field is written if it
finds its binding and the buffer of the binding has the kind of its codec. The first field that is
not written breaks the record off: the fields before it have been appended whole, nothing of the
field itself has been, and the fields behind it are not looked at. Neither what is appended nor the
fault has to do with what has been there before.

* `TreeWire.Slot.Breaks` – **a slot that breaks a record off**, with the fault;
* `TreeWire.Slot.Chunk` – the bytes of a slot;
* `TreeWire.Slot.chunk_or_breaks` – every slot has bytes or breaks the record off;
* `TreeWire.Record.encodeSlots_append` – slots behind others that are written;
* `TreeWire.Record.encode_breaks` – **the main statement**.
-/

namespace TreeWire

namespace Slot

/-! ### One slot -/

/-- **A slot that breaks a record off**, with the fault. -/
inductive Breaks (bindings : List Binding) (s : Slot) : Fault → Prop
  /-- There is no binding at its position. -/
  | lost : bindings.length ≤ s.position →
      Breaks bindings s (.descriptor ("field " ++ s.field ++ " lost its binding"))
  /-- The buffer of its binding has another kind than its codec. -/
  | mismatch {b : Binding} : bindings[s.position]? = some b → b.buffer.kind ≠ s.codec.kind →
      Breaks bindings s (.bindMismatch b.branch s.codec.name b.buffer.kind.keyword)

/-- **The bytes of a slot**: those of the buffer that it finds. -/
def Chunk (bindings : List Binding) (s : Slot) (bs : Bytes) : Prop :=
  ∃ b, bindings[s.position]? = some b ∧ s.put? b.buffer = some bs

variable {bindings : List Binding} {s : Slot} {bs : Bytes} {fault : Fault}

theorem write_of_chunk (h : s.Chunk bindings bs) : s.write bindings = .ok bs :=
  write_eq_ok_iff.mpr h

theorem put?_eq_none_iff {b : Buffer} : s.put? b = none ↔ b.kind ≠ s.codec.kind := by
  rw [← Option.not_isSome_iff_eq_none, isSome_put?, decide_eq_true_iff]

theorem write_of_breaks (h : s.Breaks bindings fault) : s.write bindings = .error fault := by
  cases h with
  | lost none => simp only [write, List.getElem?_eq_none none]
  | mismatch there other => simp only [write, there, put?_eq_none_iff.mpr other]

/-- **Every slot has bytes, or it breaks the record off.** -/
theorem chunk_or_breaks (bindings : List Binding) (s : Slot) :
    (∃ bs, s.Chunk bindings bs) ∨ ∃ fault, s.Breaks bindings fault := by
  cases there : bindings[s.position]? with
  | none => exact Or.inr ⟨_, .lost (List.getElem?_eq_none_iff.mp there)⟩
  | some b =>
    cases put : s.put? b.buffer with
    | none => exact Or.inr ⟨_, .mismatch there (put?_eq_none_iff.mp put)⟩
    | some bs => exact Or.inl ⟨bs, b, there, put⟩

/-- The slots that have bytes are those that find buffers of their kinds. -/
theorem bound_of_chunk (h : s.Chunk bindings bs) : s.Bound bindings := by
  obtain ⟨b, there, put⟩ := h
  refine ⟨b, there, ?_⟩
  have written := s.isSome_put? b.buffer
  rw [put] at written
  exact of_decide_eq_true written.symm

theorem not_bound_of_breaks (h : s.Breaks bindings fault) : ¬ s.Bound bindings := by
  rintro ⟨b, there, kind⟩
  cases h with
  | lost none => rw [List.getElem?_eq_none none] at there; cases there
  | mismatch found other =>
    obtain rfl := Option.some.inj (found.symm.trans there)
    exact other kind

end Slot

namespace Record

variable {bindings : List Binding} {written : List Slot} {chunks : List Bytes}

/-! ### All slots -/

/-- **Slots behind others that are written** go to the end of the bytes of those. -/
theorem encodeSlots_append (all : List.Forall₂ (Slot.Chunk bindings) written chunks)
    (ss : List Slot) :
    encodeSlots bindings (written ++ ss) =
      (chunks.flatten ++ (encodeSlots bindings ss).1, (encodeSlots bindings ss).2) := by
  induction all with
  | nil => rfl
  | cons first _ ih =>
    simp only [List.cons_append, encodeSlots, Slot.write_of_chunk first, ih, List.flatten_cons,
      List.append_assoc]

theorem encodeSlots_of_chunks (all : List.Forall₂ (Slot.Chunk bindings) written chunks) :
    encodeSlots bindings written = (chunks.flatten, none) := by
  have whole := encodeSlots_append all []
  rwa [List.append_nil, encodeSlots, List.append_nil] at whole

theorem encodeSlots_of_breaks {s : Slot} {fault : Fault}
    (all : List.Forall₂ (Slot.Chunk bindings) written chunks) (breaks : s.Breaks bindings fault)
    (after : List Slot) :
    encodeSlots bindings (written ++ s :: after) = (chunks.flatten, some fault) := by
  have stopped : encodeSlots bindings (s :: after) = ([], some fault) := by
    simp only [encodeSlots, Slot.write_of_breaks breaks]
  rw [encodeSlots_append all, stopped, List.append_nil]

/-- The bytes of slots are read as the occurrences of their fields. -/
theorem read?_chunks {l : Legend} (known : ∀ s ∈ written, l.Knows s)
    (all : List.Forall₂ (Slot.Chunk bindings) written chunks) :
    l.read? chunks.flatten = some (occurrences bindings written) := by
  have read := scanAll?_encodeSlots_append known (encodeSlots_of_chunks all) []
  simpa [Legend.read?] using read

/-- **A record is appended up to the first slot that breaks it off**, whatever the slots, with any
numbers of 32 bits (`TreeWire.Wire.key`), the bindings and the bytes that are there already. Those
bytes stay, and what is appended does not depend on them: it is made of the bytes of some slots, the
first ones of the record, one after the other, and a reader that knows their fields finds these in
it and nothing else. There is no fault exactly if every slot finds a buffer of the kind of its
codec, and then all slots are written. If there is one, it is that of the slot behind those that are
written. -/
theorem encode_breaks (r : Record) (bindings : List Binding) :
    ∃ (written : List Slot) (chunks : List Bytes) (fault : Option Fault),
      (∀ out, r.encode bindings out = (out ++ chunks.flatten, fault)) ∧
      List.Forall₂ (Slot.Chunk bindings) written chunks ∧
      (∀ l : Legend, (∀ s ∈ written, l.Knows s) →
        l.read? chunks.flatten = some (occurrences bindings written)) ∧
      (fault = none ↔ ∀ s ∈ r.slots, s.Bound bindings) ∧
      (fault = none → written = r.slots) ∧
      ∀ f, fault = some f → ∃ s after, r.slots = written ++ s :: after ∧ s.Breaks bindings f := by
  rcases forall₂_or_exists_first (Slot.Chunk bindings) r.slots with
    ⟨chunks, all⟩ | ⟨written, s, after, chunks, cut, all, none⟩
  · have bound : ∀ s ∈ r.slots, s.Bound bindings := fun s mem => by
      obtain ⟨k, get⟩ := List.getElem?_of_mem mem
      obtain ⟨_, -, chunk⟩ := exists_getElem?_of_forall₂ all get
      exact Slot.bound_of_chunk chunk
    refine ⟨r.slots, chunks, .none, fun out => ?_, all, fun l known => read?_chunks known all,
      iff_of_true rfl bound, fun _ => rfl, ?_⟩
    · simp only [encode, encodeSlots_of_chunks all]
    · intro f same
      cases same
  · obtain ⟨bs, chunk⟩ | ⟨fault, breaks⟩ := s.chunk_or_breaks bindings
    · exact absurd chunk (none bs)
    · have unbound : ¬ ∀ t ∈ r.slots, t.Bound bindings := fun bound =>
        Slot.not_bound_of_breaks breaks (bound s (by simp [cut]))
      refine ⟨written, chunks, some fault, fun out => ?_, all,
        fun l known => read?_chunks known all, iff_of_false (by simp) unbound, ?_, ?_⟩
      · simp only [encode, cut, encodeSlots_of_breaks all breaks]
      · intro same
        cases same
      · intro f same
        exact ⟨s, after, cut, Option.some.inj same ▸ breaks⟩

/-- The third field finds no binding, and then a binding of another kind: the two fields before it
are there each time. -/
example :
    (ofParts mixedParts).encode (mixedBindings.take 2) [7] =
      ([7, 8, 5, 18, 16, 1, 0, 0, 0, 0, 0, 0, 0, 255, 255, 255, 255, 255, 255, 255, 255],
        some (.descriptor "field t lost its binding")) ∧
    ((ofParts mixedParts).encode (mixedBindings.take 2 ++ [⟨"d", 3, .scalar ⟨.bool, true⟩⟩]) []).2 =
      some (.bindMismatch "d" "string" "bool") := by
  decide +kernel

end Record

end TreeWire
