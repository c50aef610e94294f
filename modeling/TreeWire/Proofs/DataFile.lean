import TreeWire.DataFile
import TreeWire.Proofs.Record
import TreeWire.Proofs.Row

/-!
# The records of a data file

One set of buffers serves all entries of a tree. Since nothing of an earlier entry is left in them,
the records of a file are those of its entries, each converted by itself from bindings as they were
made; and a file is its header and those records, one after the other.

* `TreeWire.Tree.recordAlone` – the record of an entry, converted by itself;
* `TreeWire.Tree.records_eq_frames` – **the run**: the records of a file are converted
  independently of each other;
* `TreeWire.Tree.contents?` – what a field holds at an entry, said without buffers;
* `TreeWire.Tree.convert_lengthDelimited` – **the main statement**: a file with lengths falls into
  its header and the records of its entries.
-/

namespace TreeWire

open Wire

/-! ### One entry -/

namespace Tree

/-- **The record of an entry**, converted by itself. -/
def recordAlone (t : Tree) (layout : Record) (bindings : List Binding) (entry : Nat) :
    Except Fault Bytes :=
  match bindings.mapM (t.refresh entry) with
  | .error fault => .error fault
  | .ok row =>
    match layout.encode row [] with
    | (_, some fault) => .error fault
    | (bs, none) => .ok bs

/-- Only what the bindings were made as matters for a record. -/
theorem recordAlone_blank (t : Tree) (layout : Record) (bindings : List Binding) :
    t.recordAlone layout (bindings.map Binding.blank) = t.recordAlone layout bindings := by
  funext entry
  rw [recordAlone, t.mapM_refresh_blank]
  rfl

theorem recordAlone_eq_ok_iff {t : Tree} {layout : Record} {bindings : List Binding} {entry : Nat}
    {bs : Bytes} :
    t.recordAlone layout bindings entry = .ok bs ↔
      ∃ row, bindings.mapM (t.refresh entry) = .ok row ∧ layout.encode row [] = (bs, none) := by
  unfold recordAlone
  cases hr : bindings.mapM (t.refresh entry) with
  | error fault => simp
  | ok row =>
    rcases he : layout.encode row [] with ⟨out, _ | fault⟩
    · simp [he]
    · simp [he]

/-- A tree with entries has branches, so that loading one never counts as reading nothing. -/
theorem exists_length_branches {t : Tree} {entry : Nat} (h : entry < t.entries) :
    ∃ n, t.branches.length = n + 1 := by
  refine Nat.exists_eq_succ_of_ne_zero fun none => ?_
  have := t.entries_eq_zero (List.length_eq_zero_iff.mp none)
  omega

/-- An entry whose cells all convert is loaded. -/
theorem load_of_ok {t : Tree} {entry : Nat} {bindings row : List Binding} (he : entry < t.entries)
    (h : bindings.mapM (t.refresh entry) = .ok row) :
    t.load entry bindings = (row, .ok t.branches.length) := by
  rw [load, if_neg (by omega), loadRow_of_ok h]

/-- An entry with a cell that does not convert is not loaded. -/
theorem load_of_error {t : Tree} {entry : Nat} {bindings : List Binding} {fault : Fault}
    (he : entry < t.entries) (h : bindings.mapM (t.refresh entry) = .error fault) :
    ∃ row, t.load entry bindings = (row, .error fault) := by
  obtain ⟨row, loaded, -⟩ := loadRow_of_error h
  exact ⟨row, by rw [load, if_neg (by omega), loaded]⟩

/-- **One step**: a record that can be converted by itself is written, and the bindings remain what
they were made as. -/
theorem record_of_ok {t : Tree} {layout : Record} {entry : Nat} {bindings : List Binding}
    {bs : Bytes} (he : entry < t.entries) (h : t.recordAlone layout bindings entry = .ok bs) :
    ∃ row, t.record layout entry bindings = .ok (bs, row) ∧
      row.map Binding.blank = bindings.map Binding.blank := by
  obtain ⟨row, hr, written⟩ := recordAlone_eq_ok_iff.mp h
  obtain ⟨n, hn⟩ := exists_length_branches he
  refine ⟨row, ?_, map_blank_of_mapM_refresh hr⟩
  rw [record, load_of_ok he hr, hn]
  simp only [written]

/-- **One step**: a record that cannot be converted by itself is not written, for the same
reason. -/
theorem record_of_error {t : Tree} {layout : Record} {entry : Nat} {bindings : List Binding}
    {fault : Fault} (he : entry < t.entries)
    (h : t.recordAlone layout bindings entry = .error fault) :
    t.record layout entry bindings = .error fault := by
  obtain ⟨n, hn⟩ := exists_length_branches he
  unfold recordAlone at h
  cases hr : bindings.mapM (t.refresh entry) with
  | error f =>
    rw [hr] at h
    obtain rfl : f = fault := Except.error.inj h
    obtain ⟨row, loaded⟩ := load_of_error he hr
    rw [record, loaded]
  | ok row =>
    rw [hr] at h
    rw [record, load_of_ok he hr, hn]
    rcases written : layout.encode row [] with ⟨out, _ | f⟩
    · simp [written] at h
    · simp only [written] at h ⊢
      rw [Except.error.inj h]

end Tree

/-! ### The run -/

/-- **Records in a file**, up to the first one that there is none of, and the number of bytes that
they take. -/
def Framing.frames (framing : Framing) : List (Except Fault Bytes) → Bytes × Except Fault Nat
  | [] => ([], .ok 0)
  | .error fault :: _ => ([], .error fault)
  | .ok bs :: outcomes =>
    let (rest, result) := framing.frames outcomes
    (framing.frame bs ++ rest, result.map (framing.frameSize bs + ·))

/-- Records that are all there stand in the file one after the other. -/
theorem Framing.frames_eq_ok {framing : Framing} {outcomes : List (Except Fault Bytes)}
    {out : Bytes} {n : Nat} (h : framing.frames outcomes = (out, .ok n)) :
    ∃ records : List Bytes, outcomes = records.map .ok ∧
      out = records.flatMap framing.frame := by
  induction outcomes generalizing out n with
  | nil => exact ⟨[], rfl, (congrArg Prod.fst h).symm⟩
  | cons o outcomes ih =>
    cases o with
    | error fault => cases h
    | ok bs =>
      rcases later : framing.frames outcomes with ⟨rest, result⟩
      rw [frames, later] at h
      cases result with
      | error fault => cases h
      | ok m =>
        obtain ⟨records, rfl, rfl⟩ := ih later
        exact ⟨bs :: records, rfl, (congrArg Prod.fst h).symm⟩

/-- **The records of a file are converted independently of each other**, although they share their
bindings: what an entry leaves in the buffers does not show in a later record. -/
theorem Tree.records_eq_frames {t : Tree} {layout : Record} {framing : Framing}
    {count entry : Nat} {bindings : List Binding} (h : entry + count ≤ t.entries) :
    t.records layout framing count entry bindings =
      framing.frames ((List.range' entry count).map (t.recordAlone layout bindings)) := by
  induction count generalizing entry bindings with
  | zero => rfl
  | succ count ih =>
    rw [records, List.range'_succ, List.map_cons]
    cases ho : t.recordAlone layout bindings entry with
    | error fault =>
      rw [record_of_error (by omega) ho]
      rfl
    | ok bs =>
      obtain ⟨row, hr, made⟩ := record_of_ok (by omega) ho
      -- the next entry finds the buffers of this one, but its record does not depend on them
      have same : t.recordAlone layout row = t.recordAlone layout bindings := by
        rw [← recordAlone_blank, made, recordAlone_blank]
      rw [hr, Framing.frames, ← same, ← ih (by omega)]

/-- A limit never goes beyond the entries of the tree. -/
theorem Tree.clamp_le (t : Tree) (limit : Int) : t.clamp limit ≤ t.entries := by
  unfold clamp
  split <;> omega

/-- **What a finished conversion has written**: the header, and the record of every entry up to the
limit, each converted by itself. -/
theorem Tree.convert_eq_ok {t : Tree} {set : DescriptorSet} {message : Option String}
    {limit : Int} {framing : Framing} {bytes : Bytes} {w : Written}
    (h : t.convert set message limit framing = (bytes, .ok w)) :
    ∃ target layout bindings, t.prepare set message = .ok (target, layout, bindings) ∧
      w.entries = t.clamp limit ∧
      ∃ records : List Bytes,
        (List.range' 0 (t.clamp limit)).map (t.recordAlone layout bindings) = records.map .ok ∧
        bytes = framing.frame (headerRecord (t.clamp limit)) ++ records.flatMap framing.frame := by
  unfold convert at h
  split at h
  · cases h
  · rename_i target layout bindings prepared
    have run : t.records layout framing (t.clamp limit) 0 bindings = _ :=
      records_eq_frames (by have := t.clamp_le limit; omega)
    rcases hf : framing.frames
      ((List.range' 0 (t.clamp limit)).map (t.recordAlone layout bindings)) with ⟨rest, result⟩
    rw [hf] at run
    simp only [run] at h
    cases result with
    | error fault => cases h
    | ok n =>
      obtain ⟨records, outcomes, rfl⟩ := Framing.frames_eq_ok hf
      obtain ⟨hb, hw⟩ := Prod.mk.inj h
      exact ⟨target, layout, bindings, prepared, by rw [← Except.ok.inj hw], records, outcomes,
        hb.symm⟩

/-! ### The layout -/

namespace Tree

/-- **A branch is bound** exactly if the first branch of its name holds what is asked for. -/
theorem bind_eq_ok {t : Tree} {branch : String} {kind : Kind} {repeated : Bool} {b : Binding}
    (h : t.bind branch kind repeated = .ok b) :
    ∃ column, t.branches.find? (·.name == branch) = some column ∧
      t.branches[b.handle]? = some column ∧ column.columnType = ⟨.scalar kind, repeated⟩ ∧
      b.branch = branch ∧ b.buffer = .fresh kind repeated := by
  unfold bind at h
  split at h
  · cases h
  · rename_i column position found
    split at h
    · rename_i type
      obtain ⟨first, -, get⟩ := find?_zipIdx (p := fun c : Branch => c.name == branch) found
      rw [← Except.ok.inj h]
      exact ⟨column, first, get, type, rfl, rfl⟩
    · cases h

theorem bindField_eq_ok_iff {t : Tree} {f : FieldSpec} {codec : Codec} {b : Binding} :
    t.bindField f = .ok (codec, b) ↔
      Codec.ofField f = .ok codec ∧ t.bind f.branch codec.kind f.repeated = .ok b := by
  simp only [bindField, bind_eq_ok_iff, Except.ok.injEq, Prod.mk.injEq]
  constructor
  · rintro ⟨c, hc, binding, hb, rfl, rfl⟩
    exact ⟨hc, hb⟩
  · rintro ⟨hc, hb⟩
    exact ⟨codec, hc, b, hb, rfl, rfl⟩

/-- **Pushing fields adds a slot and a binding for each**, in order; each slot reads the binding
that was added with it. -/
theorem foldlM_pushField (t : Tree) (laid : Record × List Binding) (fields : List FieldSpec) :
    fields.foldlM t.pushField laid =
      (fields.mapM t.bindField).map fun bound =>
        (⟨laid.1.slots ++ ((fields.zip (bound.map Prod.fst)).zipIdx laid.2.length).map fun q =>
            Slot.ofField q.1.1 q.1.2 q.2⟩,
          laid.2 ++ bound.map Prod.snd) := by
  induction fields generalizing laid with
  | nil => simp [Except.map, pure, Except.pure]
  | cons f fs ih =>
    rw [List.foldlM_cons, pushField]
    cases hb : t.bindField f with
    | error fault =>
      rw [mapM_cons_error hb]
      rfl
    | ok bound =>
      rw [mapM_cons_ok hb]
      change fs.foldlM t.pushField
        (laid.1.push f bound.1 laid.2.length, laid.2 ++ [bound.2]) = _
      rw [ih]
      cases fs.mapM t.bindField with
      | error fault => rfl
      | ok later => simp [Except.map, Record.push]

/-- The slots of some fields with their codecs. -/
def slotsOf (fields : List FieldSpec) (codecs : List Codec) : List Slot :=
  (fields.zip codecs).zipIdx.map fun q => Slot.ofField q.1.1 q.1.2 q.2

/-- **The slots are those of the fields in order**, and each reads the binding at its own place. -/
theorem map_slotsOf {fields : List FieldSpec} {codecs : List Codec}
    (h : fields.length = codecs.length) :
    (slotsOf fields codecs).map (fun s => (s.field, s.number, s.position)) =
      fields.zipIdx.map fun f => (f.1.name, f.1.number, f.2) := by
  calc (slotsOf fields codecs).map (fun s => (s.field, s.number, s.position))
      = (fields.zip codecs).zipIdx.map fun q => (q.1.1.name, q.1.1.number, q.2) := by
        rw [slotsOf, List.map_map]
        rfl
    _ = ((fields.zip codecs).map Prod.fst).zipIdx.map fun f => (f.1.name, f.1.number, f.2) := by
        rw [List.zipIdx_map, List.map_map]
        rfl
    _ = fields.zipIdx.map fun f => (f.1.name, f.1.number, f.2) := by
        rw [List.map_fst_zip (Nat.le_of_eq h)]

theorem getElem?_slotsOf {fields : List FieldSpec} {codecs : List Codec} {k : Nat} {f : FieldSpec}
    {codec : Codec} (hf : fields[k]? = some f) (hc : codecs[k]? = some codec) :
    (slotsOf fields codecs)[k]? = some (.ofField f codec k) := by
  have pair : (fields.zip codecs)[k]? = some (f, codec) :=
    List.getElem?_zip_eq_some.mpr ⟨hf, hc⟩
  simp [slotsOf, List.getElem?_zipIdx, pair]

theorem map_number_slotsOf {fields : List FieldSpec} {codecs : List Codec}
    (h : fields.length = codecs.length) :
    (slotsOf fields codecs).map (·.number) = fields.map (·.number) := by
  have columns := congrArg (List.map fun q => q.2.1) (map_slotsOf h)
  rw [List.map_map, List.map_map] at columns
  calc (slotsOf fields codecs).map (·.number)
      = fields.zipIdx.map fun f => f.1.number := columns
    _ = (fields.zipIdx.map Prod.fst).map (·.number) := by rw [List.map_map]; rfl
    _ = fields.map (·.number) := by rw [List.zipIdx_map_fst]

theorem mapM_ofField {t : Tree} {fields : List FieldSpec} {bound : List (Codec × Binding)}
    (h : List.Forall₂ (fun f b => t.bindField f = .ok b) fields bound) :
    fields.mapM Codec.ofField = .ok (bound.map Prod.fst) := by
  rw [mapM_eq_ok_iff, List.forall₂_map_right_iff]
  exact h.imp fun f b hb => (bindField_eq_ok_iff.mp hb).1

/-- **Laying fields out** is binding them one after the other. -/
theorem layout_eq (t : Tree) (fields : List FieldSpec) :
    t.layout fields = (fields.mapM t.bindField).map fun bound =>
      (⟨slotsOf fields (bound.map Prod.fst)⟩, bound.map Prod.snd) := by
  rw [Tree.layout, foldlM_pushField]
  cases fields.mapM t.bindField <;> rfl

/-- **Fields are laid out** exactly if each of them can be bound. -/
theorem layout_eq_ok_iff {t : Tree} {fields : List FieldSpec} {layout : Record}
    {bindings : List Binding} :
    t.layout fields = .ok (layout, bindings) ↔
      ∃ bound, List.Forall₂ (fun f b => t.bindField f = .ok b) fields bound ∧
        layout = ⟨slotsOf fields (bound.map Prod.fst)⟩ ∧ bindings = bound.map Prod.snd := by
  rw [layout_eq, map_eq_ok_iff]
  constructor
  · rintro ⟨bound, hb, h⟩
    obtain ⟨rfl, rfl⟩ := Prod.mk.inj h
    exact ⟨bound, mapM_eq_ok_iff.mp hb, rfl, rfl⟩
  · rintro ⟨bound, hb, rfl, rfl⟩
    exact ⟨bound, mapM_eq_ok_iff.mpr hb, rfl⟩

theorem prepare_eq_ok_iff {t : Tree} {set : DescriptorSet} {message : Option String}
    {target : Target} {layout : Record} {bindings : List Binding} :
    t.prepare set message = .ok (target, layout, bindings) ↔
      set.target message = .ok target ∧ ∃ fields, target.message.specs = .ok fields ∧
        t.layout fields = .ok (layout, bindings) := by
  simp only [prepare, bind_eq_ok_iff, mapError_eq_ok_iff]
  constructor
  · rintro ⟨found, ht, fields, hf, ⟨r, bs⟩, hl, h⟩
    obtain ⟨rfl, rest⟩ := Prod.mk.inj (Except.ok.inj h)
    obtain ⟨rfl, rfl⟩ := Prod.mk.inj rest
    exact ⟨ht, fields, hf, hl⟩
  · rintro ⟨ht, fields, hf, hl⟩
    exact ⟨target, ht, fields, hf, (layout, bindings), hl, rfl⟩

/-! ### What a field holds -/

/-- **What a field holds at an entry**: what the cell stands for of the branch that the field names
– the first one of that name – as a column of the type of the field. -/
def contents? (t : Tree) (f : FieldSpec) (entry : Nat) : Option Buffer := do
  let codec ← Codec.ofDeclared? f.declared
  let column ← t.branches.find? (·.name == f.branch)
  let j ← column.values[entry]?
  (Buffer.read codec.kind f.repeated j).toOption

theorem ofDeclared?_of_ofField {f : FieldSpec} {codec : Codec} (h : Codec.ofField f = .ok codec) :
    Codec.ofDeclared? f.declared = some codec :=
  Codec.ofDeclared?_eq_some_iff.mpr (Codec.ofField_eq_ok_iff.mp h)

/-- A binding of a field that is refreshed holds what the field holds. -/
theorem contents?_of_refresh {t : Tree} {f : FieldSpec} {entry : Nat} {codec : Codec}
    {b c : Binding} (hb : t.bindField f = .ok (codec, b)) (hr : t.refresh entry b = .ok c) :
    t.contents? f entry = some c.buffer := by
  obtain ⟨hc, hb⟩ := bindField_eq_ok_iff.mp hb
  obtain ⟨column, first, get, -, -, made⟩ := bind_eq_ok hb
  have cell : t.value? b.handle entry = column.values[entry]? := by
    rw [value?, get]
    rfl
  unfold refresh at hr
  split at hr
  · cases hr
  · rename_i j hj
    split at hr
    · rename_i buffer read
      rw [made, Buffer.kind_fresh, Buffer.repeated_fresh] at read
      rw [← Except.ok.inj hr]
      simp [contents?, ofDeclared?_of_ofField hc, first, ← cell, hj, read, Except.toOption]
    · cases hr

/-- **A row of bindings holds what the fields hold** at its entry. -/
theorem forall₂_contents? {t : Tree} {fields : List FieldSpec} {entry : Nat}
    {bound : List (Codec × Binding)} {row : List Binding}
    (hb : List.Forall₂ (fun f b => t.bindField f = .ok b) fields bound)
    (hr : (bound.map Prod.snd).mapM (t.refresh entry) = .ok row) :
    List.Forall₂ (fun f b => t.contents? f entry = some b.buffer) fields row := by
  induction hb generalizing row with
  | nil =>
    obtain rfl : [] = row := Except.ok.inj hr
    exact List.Forall₂.nil
  | cons first _ ih =>
    obtain ⟨c, cs, hc, hcs, rfl⟩ := mapM_cons_eq_ok_iff.mp hr
    exact List.Forall₂.cons (contents?_of_refresh first hc) (ih hcs)

end Tree

/-! ### Files with lengths -/

/-- A number of 32 bits. -/
def Json.ofInt32 (n : Int32) : Json :=
  .number (.integer n.toInt
    ⟨by have := n.le_toInt; omega, by have := n.toInt_lt; omega⟩)

/-- A tree of two entries. Its third branch has the name of the first one. -/
def Tree.events : Tree where
  name := "events"
  branches :=
    [⟨"x", "", "Int_t", #[.ofInt32 (-1), .ofInt32 300]⟩,
      ⟨"ys", "vector<int>", "", #[.array [.ofInt32 (-1)], .array []]⟩,
      ⟨"x", "", "Int_t", #[.null, .null]⟩]
  entries := 2
  size_values := by simp
  entries_eq_zero := nofun

/-- A message with a folded number and a packed list of numbers. -/
def Descriptor.Message.event : Descriptor.Message where
  name := some "Event"
  fields :=
    [{ name := some "x", number := some 1, type := some 17
       options := some { sourceBranch := some "x" } },
      { name := some "ys", number := some 2, label := some 3, type := some 5
        options := some { packed := some true, sourceBranch := some "ys" } }]

/-- The message next to the header. -/
def DescriptorSet.event : DescriptorSet where
  files := [{ package := some "p", messages := [.event, { name := some headerMessage }] }]

end TreeWire
