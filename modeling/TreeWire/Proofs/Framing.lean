import TreeWire.Proofs.Interruption

/-!
# Two framings, one run

The framing decides what stands in front of a record, and nothing else. A run goes through the same
entries with the same bindings in both framings and stops at the same place for the same reason, so
that what it writes are the same records, once with their lengths and once without. This holds of
runs that fail as well, and of any number of entries, beyond those of the tree too: the run never
looks at what it has written.

* `TreeWire.Framing.Carries` – **some records and an ending** that an output holds in every framing,
  with `TreeWire.Framing.Carries.cons` for one more record;
* `TreeWire.Tree.exists_carries_records` – the rows of a run;
* `TreeWire.Tree.exists_convert_eq` – a conversion, header included;
* `TreeWire.Tree.convert_framings` – **the main statement**: the outcomes are the same, taking the
  lengths away gives the file without lengths, and all bytes are counted.
-/

namespace TreeWire

open Wire

namespace Framing

/-- **An output that holds the same in every framing**: some records, one after the other as the
framing has it, and an ending. If nothing is wrong, then the bytes are counted. -/
def Carries (output : Framing → Bytes × Except Fault Nat) (records : List Bytes)
    (ending : Except Fault Unit) : Prop :=
  ∀ framing : Framing, output framing =
    (records.flatMap framing.frame, ending.map fun _ => (records.flatMap framing.frame).length)

/-- Nothing is the same in every framing. -/
theorem Carries.nil : Carries (fun _ => ([], .ok 0)) [] (.ok ()) := fun _ => rfl

/-- A fault is the same in every framing. -/
theorem Carries.fault (fault : Fault) : Carries (fun _ => ([], .error fault)) [] (.error fault) :=
  fun _ => rfl

/-- **One more record** in front of an output, and as many bytes more. -/
theorem Carries.cons {output : Framing → Bytes × Except Fault Nat} {records : List Bytes}
    {ending : Except Fault Unit} (record : Bytes) (h : Carries output records ending) :
    Carries
      (fun framing => (framing.frame record ++ (output framing).1,
        (output framing).2.map (framing.frameSize record + ·)))
      (record :: records) ending := by
  intro framing
  simp only [h framing, List.flatMap_cons, List.length_append, length_frame]
  cases ending <;> rfl

/-- Without lengths, records follow each other directly. -/
theorem flatMap_frame_concatenated (records : List Bytes) :
    records.flatMap concatenated.frame = records.flatten := by
  rw [List.flatten_eq_flatMap]
  rfl

/-- With lengths, records are read back. -/
theorem scanAll?_flatMap_frame_lengthDelimited (records : List Bytes) :
    scanAll? scanBlock? (records.flatMap lengthDelimited.frame) = some records := by
  have blocks : scanAll? scanBlock? (records.flatMap delimited) = some (records.map id) :=
    scanAll?_flatMap (fun r _ => delimited_ne_nil r) fun r _ => scanBlock?_delimited_append r
  rw [List.map_id] at blocks
  exact blocks

end Framing

namespace Tree

/-- **The rows of a run** are the same records in both framings, with the same ending: a row finds
the bindings that the row before has left, and those do not depend on the framing. -/
theorem exists_carries_records (t : Tree) (layout : Record) (count entry : Nat)
    (bindings : List Binding) :
    ∃ records ending, Framing.Carries
      (fun framing => t.records layout framing count entry bindings) records ending := by
  -- a row leaves other bindings to the next one, and so the induction is over all of them
  induction count generalizing entry bindings with
  | zero => exact ⟨[], .ok (), Framing.Carries.nil⟩
  | succ count ih =>
    simp only [Tree.records]
    cases t.record layout entry bindings with
    | error fault => exact ⟨[], .error fault, Framing.Carries.fault fault⟩
    | ok done =>
      obtain ⟨record, left⟩ := done
      obtain ⟨records, ending, later⟩ := ih (entry + 1) left
      exact ⟨record :: records, ending, later.cons record⟩

/-- **A conversion is the same records in both framings**, with the same ending. -/
theorem exists_convert_eq (t : Tree) (set : DescriptorSet) (message : Option String)
    (limit : Int) :
    ∃ (records : List Bytes) (ending : Except Fault (String × Nat)), ∀ framing : Framing,
      t.convert set message limit framing =
        (records.flatMap framing.frame,
          ending.map fun e => ⟨e.1, e.2, (records.flatMap framing.frame).length⟩) := by
  cases prepared : t.prepare set message with
  | error fault => exact ⟨[], .error fault, fun framing => by rw [convert, prepared]; rfl⟩
  | ok found =>
    obtain ⟨target, layout, bindings⟩ := found
    obtain ⟨records, ending, rows⟩ := t.exists_carries_records layout (t.clamp limit) 0 bindings
    refine ⟨headerRecord (t.clamp limit) :: records,
      ending.map fun _ => (target.fullName, t.clamp limit), fun framing => ?_⟩
    simp only [convert, prepared, rows framing, List.flatMap_cons, List.length_append,
      Framing.length_frame]
    cases ending <;> rfl

/-- **Both framings carry the same records.** Whatever is converted up to whatever limit, both files
hold the same records: read block by block, the file with lengths gives those that follow each other
in the file without. Both conversions end in the same way, with the same message and the same number
of entries or with the same fault, and this holds of conversions that fail part-way too. A
conversion that succeeds reports as many bytes as it has written. -/
theorem convert_framings (t : Tree) (set : DescriptorSet) (message : Option String)
    (limit : Int) :
    (∃ records,
      scanAll? scanBlock? (t.convert set message limit .lengthDelimited).1 = some records ∧
      (t.convert set message limit .concatenated).1 = records.flatten) ∧
    (t.convert set message limit .lengthDelimited).2.map (fun w => (w.message, w.entries)) =
      (t.convert set message limit .concatenated).2.map (fun w => (w.message, w.entries)) ∧
    ∀ framing w, (t.convert set message limit framing).2 = .ok w →
      w.bytes = (t.convert set message limit framing).1.length := by
  obtain ⟨records, ending, run⟩ := t.exists_convert_eq set message limit
  refine ⟨⟨records, ?_, ?_⟩, ?_, fun framing w done => ?_⟩
  · rw [run]
    exact Framing.scanAll?_flatMap_frame_lengthDelimited records
  · rw [run]
    exact Framing.flatMap_frame_concatenated records
  · rw [run, run]
    cases ending <;> rfl
  · rw [run] at done ⊢
    obtain ⟨e, -, rfl⟩ := map_eq_ok_iff.mp done
    rfl

/-- All entries, of which the second one stops the conversion, and the first entry alone. -/
theorem convert_framings_readings :
    (readings.convert .event none (-1) .lengthDelimited).1 = [2, 8, 3, 5, 8, 14, 18, 1, 1] ∧
    (readings.convert .event none (-1) .concatenated).1 = [8, 3, 8, 14, 18, 1, 1] ∧
    (∃ records, scanAll? scanBlock? [2, 8, 3, 5, 8, 14, 18, 1, 1] = some records ∧
      [8, 3, 8, 14, 18, 1, 1] = records.flatten) ∧
    ∃ w, (readings.convert .event none 1 .lengthDelimited).2 = .ok w ∧ w.bytes = 9 := by
  have blocks : (readings.convert .event none (-1) .lengthDelimited).1 =
      [2, 8, 3, 5, 8, 14, 18, 1, 1] := by
    decide +kernel
  have direct : (readings.convert .event none (-1) .concatenated).1 = [8, 3, 8, 14, 18, 1, 1] := by
    decide +kernel
  have one : readings.convert .event none 1 .lengthDelimited =
      ([2, 8, 1, 5, 8, 14, 18, 1, 1], .ok ⟨"p.Event", 1, 9⟩) := by
    decide +kernel
  obtain ⟨⟨records, read, joined⟩, -, -⟩ := convert_framings readings .event none (-1)
  obtain ⟨-, -, counted⟩ := convert_framings readings .event none 1
  refine ⟨blocks, direct, ⟨records, blocks ▸ read, direct ▸ joined⟩, _, congrArg Prod.snd one, ?_⟩
  rw [counted .lengthDelimited _ (congrArg Prod.snd one), one]
  rfl

end Tree

end TreeWire
