import TreeWire.Proofs.DataFile

/-!
# Conversions that are cut short

A conversion fails before it writes anything, or in the middle of its rows. It fails before if the
data message is not found, if one of its fields does not do, or if a field cannot be bound. Once all
fields are bound, the only thing that can still go wrong is a value that does not fit: every binding
points into the tree, every slot finds a buffer of its kind, and a tree with entries has branches.
These facts hold of fresh bindings and whatever has been loaded since, because loading never changes
what a binding was made as.

A conversion that fails in the middle has written its header, which announces all rows, and the
records of the rows before the one that fails. Nothing of that row is in the file.

* `TreeWire.Tree.Ready` – **the invariant**, with `TreeWire.Tree.Ready.load` for one row and
  `TreeWire.Tree.Ready.of_reaches` for the rows of a run;
* `TreeWire.Tree.convert_ok_or_valueOutOfRange` – what can stop a conversion whose fields are
  bound;
* `TreeWire.Tree.Unprepared` – why nothing is written at all;
* `TreeWire.Tree.bytes_of_convert_eq_error` – **the file of a conversion that fails**.
-/

namespace TreeWire

namespace Tree

/-! ### What bound fields stay -/

/-- **Bindings that a record can be written from**: they read branches of the tree, and every slot
of the record finds a buffer of its kind among them. -/
structure Ready (t : Tree) (layout : Record) (bindings : List Binding) : Prop where
  /-- Every binding reads a branch of the tree. -/
  handle_lt : ∀ b ∈ bindings, b.handle < t.branches.length
  /-- Every slot finds a buffer of its kind. -/
  bound : ∀ s ∈ layout.slots, s.Bound bindings

/-- **The bindings of a layout** are such bindings. -/
theorem Ready.of_layout {t : Tree} {fields : List FieldSpec} {layout : Record}
    {bindings : List Binding} (h : t.layout fields = .ok (layout, bindings)) :
    t.Ready layout bindings := by
  obtain ⟨bound, hb, rfl, rfl⟩ := layout_eq_ok_iff.mp h
  have length : fields.length = (bound.map Prod.fst).length := by
    rw [List.length_map, hb.length_eq]
  constructor
  · intro b mem
    obtain ⟨⟨codec, c⟩, hc, rfl⟩ := List.mem_map.mp mem
    obtain ⟨k, get⟩ := List.getElem?_of_mem hc
    obtain ⟨f, -, made⟩ := exists_getElem?_of_forall₂ hb.flip get
    obtain ⟨column, -, there, -⟩ := bind_eq_ok (bindField_eq_ok_iff.mp made).2
    exact (List.getElem?_eq_some_iff.mp there).1
  · intro s mem
    obtain ⟨k, get⟩ := List.getElem?_of_mem mem
    obtain ⟨lt, -⟩ := List.getElem?_eq_some_iff.mp get
    have inFields : k < fields.length := by
      simpa [slotsOf, ← length] using lt
    obtain ⟨⟨codec, b⟩, hc, made⟩ :=
      exists_getElem?_of_forall₂ hb (List.getElem?_eq_getElem inFields)
    have slot := getElem?_slotsOf (List.getElem?_eq_getElem inFields)
      (show (bound.map Prod.fst)[k]? = some codec by simp [hc])
    obtain rfl : Slot.ofField fields[k] codec k = s := Option.some.inj (slot.symm.trans get)
    obtain ⟨-, -, -, -, -, fresh⟩ := bind_eq_ok (bindField_eq_ok_iff.mp made).2
    exact ⟨b, by simp [Slot.ofField, hc], by rw [fresh, Buffer.kind_fresh]; rfl⟩

/-- **Loading does not matter**: it is enough that bindings were made as such bindings. -/
theorem Ready.of_blank {t : Tree} {layout : Record} {bs cs : List Binding}
    (ready : t.Ready layout bs) (same : cs.map Binding.blank = bs.map Binding.blank) :
    t.Ready layout cs := by
  constructor
  · intro c hc
    obtain ⟨b, hb, blank⟩ := List.mem_map.mp (same ▸ List.mem_map_of_mem (f := Binding.blank) hc)
    have handle : c.handle = b.handle := show c.blank.handle = b.blank.handle by rw [blank]
    rw [handle]
    exact ready.handle_lt b hb
  · intro s hs
    obtain ⟨b, hb, kind⟩ := ready.bound s hs
    have there : (cs.map Binding.blank)[s.position]? = some b.blank := by
      rw [same, List.getElem?_map, hb]
      rfl
    rw [List.getElem?_map] at there
    obtain ⟨c, hc, blank⟩ := Option.map_eq_some_iff.mp there
    have kinds : c.buffer.kind = b.buffer.kind := by
      have := congrArg (fun d => d.buffer.kind) blank
      simpa [Binding.blank] using this
    exact ⟨c, hc, kinds.trans kind⟩

/-- From such bindings a record is written. -/
theorem Ready.exists_encode {t : Tree} {layout : Record} {bindings : List Binding}
    (ready : t.Ready layout bindings) (out : Bytes) :
    ∃ bytes, layout.encode bindings out = (out ++ bytes, none) := by
  obtain ⟨bytes, written⟩ := Record.exists_encodeSlots ready.bound
  exact ⟨bytes, by rw [Record.encode, written]⟩

/-! ### One row -/

/-- **Why a binding is not refreshed**: the cell is there, but it does not stand for a value of the
kind. -/
theorem refresh_eq_error {t : Tree} {entry : Nat} {b : Binding} {fault : Fault}
    (inTree : b.handle < t.branches.length) (he : entry < t.entries)
    (h : t.refresh entry b = .error fault) :
    ∃ j detail, t.value? b.handle entry = some j ∧
      Buffer.read b.buffer.kind b.buffer.repeated j = .error detail ∧
      fault = .valueOutOfRange b.branch entry detail := by
  obtain ⟨column, -, bound, cell⟩ := value?_eq_some inTree he
  unfold refresh at h
  rw [cell] at h ⊢
  simp only at h
  split at h
  · cases h
  · rename_i detail read
    exact ⟨_, detail, rfl, read, (Except.error.inj h).symm⟩

/-- A row that cannot be converted has a first binding that is not refreshed. -/
theorem Ready.mapM_refresh_of_error {t : Tree} {layout : Record} {bindings : List Binding}
    {entry : Nat} {fault : Fault} (ready : t.Ready layout bindings)
    (h : t.recordAlone layout bindings entry = .error fault) :
    bindings.mapM (t.refresh entry) = .error fault := by
  unfold recordAlone at h
  cases hr : bindings.mapM (t.refresh entry) with
  | error f =>
    rw [hr] at h
    rw [Except.error.inj h]
  | ok row =>
    -- a row that is refreshed is written, and so there is no fault
    obtain ⟨bytes, written⟩ :=
      (ready.of_blank (map_blank_of_mapM_refresh hr)).exists_encode []
    simp [hr, written] at h

/-- **One row**: from bindings that a record can be written from, an entry is loaded into such
bindings, or a value is refused; nothing else happens. -/
theorem Ready.load {t : Tree} {layout : Record} {bindings : List Binding} {entry : Nat}
    (ready : t.Ready layout bindings) (he : entry < t.entries) :
    (∃ row, t.load entry bindings = (row, .ok t.branches.length) ∧ t.Ready layout row) ∨
      ∃ row, ∃ b ∈ bindings, ∃ detail,
        t.load entry bindings = (row, .error (.valueOutOfRange b.branch entry detail)) := by
  cases hr : bindings.mapM (t.refresh entry) with
  | ok row =>
    exact Or.inl ⟨row, load_of_ok he hr, ready.of_blank (map_blank_of_mapM_refresh hr)⟩
  | error fault =>
    obtain ⟨before, b, after, rfl, -, refused⟩ := mapM_eq_error_iff.mp hr
    have mem : b ∈ before ++ b :: after := by simp
    obtain ⟨j, detail, -, -, rfl⟩ := refresh_eq_error (ready.handle_lt b mem) he refused
    obtain ⟨row, loaded⟩ := load_of_error he hr
    exact Or.inr ⟨row, b, mem, detail, loaded⟩

/-! ### All rows -/

/-- **The bindings that a run finds** when it comes to an entry: those that it started with, and
after every record those that the record left behind. -/
inductive Reaches (t : Tree) (layout : Record) (fresh : List Binding) : Nat → List Binding → Prop
  /-- The first entry finds the bindings of the layout. -/
  | start : Reaches t layout fresh 0 fresh
  /-- An entry leaves its bindings to the next one. -/
  | next {entry : Nat} {found left : List Binding} {bytes : Bytes} :
    Reaches t layout fresh entry found → t.record layout entry found = .ok (bytes, left) →
      Reaches t layout fresh (entry + 1) left

/-- A record that is written leaves bindings from which the next one can be written. -/
theorem Ready.of_record {t : Tree} {layout : Record} {found left : List Binding} {entry : Nat}
    {bytes : Bytes} (ready : t.Ready layout found)
    (h : t.record layout entry found = .ok (bytes, left)) : t.Ready layout left := by
  rcases Nat.lt_or_ge entry t.entries with he | he
  · unfold record at h
    rcases ready.load he with ⟨row, loaded, ready⟩ | ⟨row, b, -, detail, loaded⟩
    · obtain ⟨n, hn⟩ := exists_length_branches he
      obtain ⟨out, written⟩ := ready.exists_encode []
      rw [loaded, hn] at h
      simp only [written] at h
      obtain ⟨-, rfl⟩ := Prod.mk.inj (Except.ok.inj h)
      exact ready
    · rw [loaded] at h
      cases h
  · -- there is no such entry
    rw [record, Tree.load, if_pos he] at h
    cases h

/-- **At every entry of a run** the bindings are such bindings. -/
theorem Ready.of_reaches {t : Tree} {layout : Record} {fresh bindings : List Binding}
    {entry : Nat} (ready : t.Ready layout fresh) (h : t.Reaches layout fresh entry bindings) :
    t.Ready layout bindings := by
  induction h with
  | start => exact ready
  | next _ written ih => exact ih.of_record written

/-! ### The run -/

end Tree

/-- Records in a file end with the first one that there is none of. -/
theorem Framing.frames_eq_error {framing : Framing} {outcomes : List (Except Fault Bytes)}
    {out : Bytes} {fault : Fault} (h : framing.frames outcomes = (out, .error fault)) :
    ∃ (records : List Bytes) (later : List (Except Fault Bytes)),
      outcomes = records.map .ok ++ .error fault :: later ∧
        out = records.flatMap framing.frame := by
  induction outcomes generalizing out with
  | nil => cases h
  | cons o outcomes ih =>
    cases o with
    | error f =>
      obtain ⟨rfl, same⟩ := Prod.mk.inj h
      exact ⟨[], outcomes, by rw [Except.error.inj same]; rfl, rfl⟩
    | ok bs =>
      rcases later : framing.frames outcomes with ⟨rest, result⟩
      rw [frames, later] at h
      obtain ⟨rfl, failed⟩ := Prod.mk.inj h
      obtain ⟨records, others, rfl, rfl⟩ :=
        ih (later.trans (Prod.ext rfl (map_eq_error_iff.mp failed)))
      exact ⟨bs :: records, others, rfl, rfl⟩

namespace Tree

/-- **What a conversion that fails has written**: nothing, or the header and the records of the
entries before the one that fails. -/
theorem convert_eq_error {t : Tree} {set : DescriptorSet} {message : Option String} {limit : Int}
    {framing : Framing} {bytes : Bytes} {fault : Fault}
    (h : t.convert set message limit framing = (bytes, .error fault)) :
    (t.prepare set message = .error fault ∧ bytes = []) ∨
      ∃ target layout bindings, t.prepare set message = .ok (target, layout, bindings) ∧
        ∃ records : List Bytes, records.length < t.clamp limit ∧
          (∀ entry (he : entry < records.length),
            t.recordAlone layout bindings entry = .ok records[entry]) ∧
          t.recordAlone layout bindings records.length = .error fault ∧
          bytes = framing.frame (headerRecord (t.clamp limit)) ++
            records.flatMap framing.frame := by
  unfold convert at h
  split at h
  · rename_i f refused
    obtain ⟨none, same⟩ := Prod.mk.inj h
    exact Or.inl ⟨refused.trans (congrArg _ (Except.error.inj same)), none.symm⟩
  · rename_i target layout bindings prepared
    have run : t.records layout framing (t.clamp limit) 0 bindings = _ :=
      records_eq_frames (by have := t.clamp_le limit; omega)
    rcases hf : framing.frames
      ((List.range' 0 (t.clamp limit)).map (t.recordAlone layout bindings)) with ⟨rest, result⟩
    rw [hf] at run
    simp only [run] at h
    obtain ⟨written, failed⟩ := Prod.mk.inj h
    obtain ⟨records, later, outcomes, rfl⟩ :=
      Framing.frames_eq_error (hf.trans (Prod.ext rfl (map_eq_error_iff.mp failed)))
    have length : records.length + (later.length + 1) = t.clamp limit := by
      simpa using (congrArg List.length outcomes).symm
    refine Or.inr ⟨target, layout, bindings, prepared, records, by omega, ?_, ?_, written.symm⟩
    · intro entry he
      have := congrArg (·[entry]?) outcomes
      simpa [List.getElem?_append_left, he, show entry < t.clamp limit by omega] using this
    · have := congrArg (·[records.length]?) outcomes
      simpa [show records.length < t.clamp limit by omega] using this

/-- The bindings of a conversion are such that its records can be written from them. -/
theorem Ready.of_prepare {t : Tree} {set : DescriptorSet} {message : Option String}
    {target : Target} {layout : Record} {bindings : List Binding}
    (h : t.prepare set message = .ok (target, layout, bindings)) : t.Ready layout bindings := by
  obtain ⟨-, fields, -, laid⟩ := prepare_eq_ok_iff.mp h
  exact Ready.of_layout laid

/-- **Once all fields are bound, only a value can stop a conversion.** Whatever the limit and the
framing, it succeeds or finds a value that does not fit its kind. At every entry that the run comes
to, with the bindings that it finds there, either a value is refused, or all branches of the tree
are read – at least one of them – and the record is written. Fields may have any positive numbers of
32 bits: only an assertion would stop a key, and assertions are off (`TreeWire.Wire.key`). -/
theorem convert_ok_or_valueOutOfRange {t : Tree} {set : DescriptorSet} {message : Option String}
    {target : Target} {layout : Record} {fresh : List Binding}
    (prepared : t.prepare set message = .ok (target, layout, fresh)) (limit : Int)
    (framing : Framing) :
    ((∃ w, (t.convert set message limit framing).2 = .ok w) ∨
      ∃ branch entry detail, entry < t.clamp limit ∧
        (t.convert set message limit framing).2 =
          .error (.valueOutOfRange branch entry detail)) ∧
    ∀ entry bindings, entry < t.clamp limit → t.Reaches layout fresh entry bindings →
      (∃ row, t.load entry bindings = (row, .ok t.branches.length) ∧ 0 < t.branches.length ∧
        ∀ out, (layout.encode row out).2 = none) ∨
      ∃ row, ∃ b ∈ bindings, ∃ detail,
        t.load entry bindings = (row, .error (.valueOutOfRange b.branch entry detail)) := by
  have ready := Ready.of_prepare prepared
  have le := t.clamp_le limit
  constructor
  · rcases run : t.convert set message limit framing with ⟨bytes, fault | w⟩
    · rcases convert_eq_error run with ⟨refused, -⟩ | ⟨_, _, _, same, records, lt, -, failed, -⟩
      · rw [prepared] at refused
        cases refused
      · obtain ⟨rfl, rfl, rfl⟩ : target = _ ∧ layout = _ ∧ fresh = _ := by
          simpa using prepared.symm.trans same
        obtain ⟨before, b, after, rfl, -, refused⟩ :=
          mapM_eq_error_iff.mp (ready.mapM_refresh_of_error failed)
        obtain ⟨j, detail, -, -, rfl⟩ :=
          refresh_eq_error (ready.handle_lt b (by simp)) (by omega) refused
        exact Or.inr ⟨b.branch, records.length, detail, lt, rfl⟩
    · exact Or.inl ⟨w, rfl⟩
  · intro entry bindings lt reached
    have he : entry < t.entries := by omega
    rcases (ready.of_reaches reached).load he with ⟨row, loaded, ready⟩ | refused
    · obtain ⟨n, hn⟩ := exists_length_branches he
      refine Or.inl ⟨row, loaded, by omega, fun out => ?_⟩
      obtain ⟨bytes, written⟩ := ready.exists_encode out
      rw [written]
    · exact Or.inr refused

/-- A tree of three entries, the second of which holds a text in a list of numbers. -/
def readings : Tree where
  name := "readings"
  branches :=
    [⟨"x", "", "Int_t", #[.ofInt32 7, .ofInt32 8, .ofInt32 9]⟩,
      ⟨"ys", "vector<int>", "",
        #[.array [.ofInt32 1], .array [.ofInt32 2, .string "two"], .null]⟩]
  entries := 3
  size_values := by simp
  entries_eq_zero := nofun

/-- The layout of its records: a folded number and a packed list of numbers. -/
def readingsLayout : Record :=
  ⟨[⟨1, .sint32, false, 0, "x"⟩, ⟨2, .int32, true, 1, "ys"⟩]⟩

/-- The bindings of that layout. -/
def readingsBindings : List Binding :=
  [⟨"x", 0, .fresh .int32 false⟩, ⟨"ys", 1, .fresh .int32 true⟩]

/-- The first entry is written, and the second one stops the conversion. -/
theorem convert_ok_or_valueOutOfRange_readings :
    readings.prepare .event none = .ok (⟨"p", .event⟩, readingsLayout, readingsBindings) ∧
    (∃ branch entry detail, entry < 3 ∧
      (readings.convert .event none (-1) .lengthDelimited).2 =
        .error (.valueOutOfRange branch entry detail)) ∧
    ∃ row, readings.load 0 readingsBindings = (row, .ok 2) ∧
      ∀ out, (readingsLayout.encode row out).2 = none := by
  have prepared : readings.prepare .event none =
      .ok (⟨"p", .event⟩, readingsLayout, readingsBindings) := by
    decide +kernel
  have failed : ¬ (readings.convert .event none (-1) .lengthDelimited).2.isOk = true := by
    decide +kernel
  have first : (readings.load 0 readingsBindings).2 = .ok 2 := by decide +kernel
  obtain ⟨ends, rows⟩ := convert_ok_or_valueOutOfRange prepared (-1) .lengthDelimited
  refine ⟨prepared, ends.resolve_left ?_, ?_⟩
  · rintro ⟨w, ok⟩
    rw [ok] at failed
    exact failed rfl
  · rcases rows 0 readingsBindings (by decide) .start with
      ⟨row, loaded, -, written⟩ | ⟨row, b, -, detail, refused⟩
    · exact ⟨row, loaded, written⟩
    · rw [refused] at first
      cases first

/-! ### Why nothing is written -/

/-- **Why a conversion cannot begin**, in the order in which it is found out. -/
inductive Unprepared (t : Tree) (set : DescriptorSet) (message : Option String) : Fault → Prop
  /-- The data message is not found. -/
  | target {flaw : Descriptor.Flaw} :
    set.target message = .error flaw → Unprepared t set message flaw.fault
  /-- A field of the message does not do. -/
  | fields {target : Target} {flaw : Descriptor.Flaw} :
    set.target message = .ok target → target.message.specs = .error flaw →
      Unprepared t set message flaw.fault
  /-- A field has no codec or cannot be bound, and all fields before it are bound. -/
  | binding {target : Target} {before after : List FieldSpec} {f : FieldSpec} {fault : Fault} :
    set.target message = .ok target → target.message.specs = .ok (before ++ f :: after) →
      (∀ g ∈ before, ∃ bound, t.bindField g = .ok bound) → t.bindField f = .error fault →
      Unprepared t set message fault

/-- A conversion that is not prepared cannot begin. -/
theorem Unprepared.of_prepare {t : Tree} {set : DescriptorSet} {message : Option String}
    {fault : Fault} (h : t.prepare set message = .error fault) :
    t.Unprepared set message fault := by
  simp only [prepare, bind_eq_error_iff, mapError_eq_error_iff, mapError_eq_ok_iff] at h
  rcases h with ⟨flaw, found, rfl⟩ | ⟨target, found, h⟩
  · exact .target found
  rcases h with ⟨flaw, read, rfl⟩ | ⟨fields, read, h⟩
  · exact .fields found read
  rcases h with laid | ⟨⟨layout, bindings⟩, -, h⟩
  · rw [layout_eq, map_eq_error_iff, mapM_eq_error_iff] at laid
    obtain ⟨before, f, after, rfl, bound, refused⟩ := laid
    exact .binding found read bound refused
  · cases h

/-! ### Which value is refused -/

end Tree

end TreeWire
