import TreeWire.Proofs.DataFile
import TreeWire.Schema.Extraction

/-!
# Descriptions of extracted documents

A conversion knows the document that was extracted from a tree only by its description, the
descriptor set that is made of the text of the document. That is enough: the types come back from
their keywords, the numbers fit, what is repeated or packed is marked as such, and the name of a
branch leads back to the branch that the field was made from, as long as no other one has it.

* `TreeWire.Field.IsOf` – the field of a branch;
* `TreeWire.fieldsOf_eq_ok` – **the run**: extracted fields are those of the selected branches;
* `TreeWire.Document.describe` – the description of a document;
* `TreeWire.Field.spec_describe` – what a conversion learns of a field;
* `TreeWire.Tree.prepare_describe` – **the main statement**: a tree that a document was extracted
  from can be laid out by its description, each field over its own branch.
-/

namespace TreeWire

/-! ### Extracted fields -/

/-- **A field is that of a branch**: it leads to the branch and has the type of the column, and its
number is at least some first one. -/
structure Field.IsOf (first : Nat) (b : Branch) (f : Field) : Prop where
  /-- The field names the branch. -/
  branch : f.branch = b.name
  /-- The column has the type of the field. -/
  column : b.columnType = ⟨f.type, f.repeated⟩
  /-- The number was not handed out before. -/
  low : first ≤ f.id
  /-- The number is not too large. -/
  high : f.id ≤ largestFieldNumber

theorem Field.IsOf.mono {first first' : Nat} {b : Branch} {f : Field} (le : first' ≤ first)
    (h : f.IsOf first b) : f.IsOf first' b :=
  ⟨h.branch, h.column, Nat.le_trans le h.low, h.high⟩

theorem Branch.isOf_field (b : Branch) (taken : List String) {id : Nat}
    (high : id ≤ largestFieldNumber) : (b.field taken id).IsOf id b where
  branch := rfl
  column := by simp only [field]
  low := Nat.le_refl id
  high := high

section Extraction

variable {selection : Selection} {taken : List String} {b : Branch} {bs : List Branch}
  {ids ids' : Numbering} {fields : List Field}

/-- A branch that is not selected is passed over. -/
theorem fieldsOf_cons_of_not (h : selection.accepts b.name = false) :
    fieldsOf selection taken (b :: bs) ids = fieldsOf selection taken bs ids := by
  rw [fieldsOf, if_neg (by simp [h])]

/-- **One step**: a branch that is selected gets a field with the next number. -/
theorem fieldsOf_cons_eq_ok (h : selection.accepts b.name = true)
    (run : fieldsOf selection taken (b :: bs) ids = (.ok fields, ids')) :
    ids.next ≤ largestFieldNumber ∧
      ∃ later, fields = b.field taken ids.next :: later ∧
        fieldsOf selection ((b.field taken ids.next).name :: taken) bs ⟨ids.next + 1⟩ =
          (.ok later, ids') := by
  rw [fieldsOf, if_pos h, Numbering.take] at run
  by_cases hn : ids.next ≤ largestFieldNumber
  · simp only [if_pos hn] at run
    obtain ⟨first, last⟩ := Prod.mk.inj run
    obtain ⟨later, hl, made⟩ := map_eq_ok_iff.mp first
    exact ⟨hn, later, made.symm, Prod.ext hl last⟩
  · simp [if_neg hn] at run

/-- **Extracted fields are those of the selected branches**, one for each of them in order. -/
theorem fieldsOf_eq_ok (run : fieldsOf selection taken bs ids = (.ok fields, ids')) :
    List.Forall₂ (fun f b => f.IsOf ids.next b) fields
      (bs.filter (selection.accepts ·.name)) := by
  -- the names that are taken and the next number change with every field
  induction bs generalizing taken ids fields with
  | nil =>
    obtain rfl : [] = fields := Except.ok.inj (congrArg Prod.fst run)
    exact List.Forall₂.nil
  | cons b bs ih =>
    cases ha : selection.accepts b.name with
    | false =>
      rw [fieldsOf_cons_of_not ha] at run
      have passed : (b :: bs).filter (selection.accepts ·.name) =
          bs.filter (selection.accepts ·.name) := List.filter_cons_of_neg (by simp [ha])
      rw [passed]
      exact ih run
    | true =>
      obtain ⟨high, later, rfl, rest⟩ := fieldsOf_cons_eq_ok ha run
      have kept : (b :: bs).filter (selection.accepts ·.name) =
          b :: bs.filter (selection.accepts ·.name) := List.filter_cons_of_pos (by simp [ha])
      rw [kept]
      refine List.Forall₂.cons (b.isOf_field taken high) ?_
      exact (ih rest).imp fun f b h => h.mono (Nat.le_succ ids.next)

end Extraction

/-! ### Descriptions -/

namespace Field

/-- The type that the keyword of a field stands for. -/
def declared (f : Field) : Descriptor.Declared :=
  (Descriptor.Declared.ofKeyword? f.type.text).getD .double

theorem declared_of_scalar {f : Field} {kind : Kind} (h : f.type = .scalar kind) :
    f.declared = .ofKind kind := by
  rw [declared, h, FieldType.text, ← Descriptor.Declared.keyword_ofKind,
    Descriptor.Declared.ofKeyword?_keyword]
  rfl

/-- **The description of a field.** -/
def describe (f : Field) : Descriptor.Field where
  name := some f.name
  number := some (.ofNat f.id)
  label := some (if f.repeated then 3 else 1)
  type := (Descriptor.Declared.ofKeyword? f.type.text).map (·.number)
  options :=
    some { packed := if f.packed then some true else none, sourceBranch := some f.branch }

/-- What a conversion should learn of a field. -/
def spec (f : Field) : FieldSpec where
  name := f.name
  number := f.id.toUInt32
  declared := f.declared
  repeated := f.repeated
  packed := f.packed
  branch := f.branch

/-- Only repeated fields are packed. -/
theorem packed_and_repeated (f : Field) : (f.packed && f.repeated) = f.packed := by
  cases hr : f.repeated <;> simp [packed, hr]

theorem toInt_numberValue_describe {f : Field} (high : f.id ≤ largestFieldNumber) :
    f.describe.numberValue.toInt = f.id := by
  refine Int32.toInt_ofNat_of_lt (Nat.lt_of_le_of_lt high ?_)
  decide

theorem typeValue_describe (f : Field) : f.describe.typeValue = f.declared := by
  rw [Descriptor.Field.typeValue, describe, declared]
  cases Descriptor.Declared.ofKeyword? f.type.text <;> simp

/-- The number of a field fits into 32 bits. -/
theorem toNat_number (f : Field) (high : f.id ≤ largestFieldNumber) : f.id.toUInt32.toNat = f.id :=
  Nat.mod_eq_of_lt (Nat.lt_of_le_of_lt high (by decide))

/-- **A conversion learns what the field was extracted with.** -/
theorem spec_describe {f : Field} (low : 1 ≤ f.id) (high : f.id ≤ largestFieldNumber)
    (message : String) : f.describe.spec message = .ok f.spec := by
  have number := toInt_numberValue_describe high
  have positive : ¬ f.describe.numberValue.toInt ≤ 0 := by omega
  have label : decide (f.describe.labelValue = .repeated) = f.repeated := by
    cases hr : f.repeated <;> simp [describe, Descriptor.Field.labelValue, hr] <;> decide
  have packed : f.describe.packedValue = f.packed := by
    cases hp : f.packed <;> simp [describe, Descriptor.Field.packedValue, hp]
  have branch : f.describe.sourceBranch? = some f.branch := rfl
  rw [Descriptor.Field.spec, if_neg positive, branch, typeValue_describe, label, packed]
  rfl

end Field

/-- The description of the header. -/
def headerDescription : Descriptor.Message where
  name := some headerMessage
  fields := [{ name := some "entries", number := some 1, label := some 2, type := some 4 }]

namespace Document

/-- The description of the data message. -/
def describeMessage (doc : Document) : Descriptor.Message where
  name := some doc.message
  fields := doc.fields.map Field.describe

/-- **The description of a document**, in a file of some name: the data message and the header. -/
def describe (doc : Document) (file : Option String) : DescriptorSet where
  files :=
    [{ name := file, package := some doc.package
       messages := [doc.describeMessage, headerDescription] }]

/-- The data message of a document. -/
def target (doc : Document) : Target := ⟨doc.package, doc.describeMessage⟩

theorem of_eq_ok {package message : String} {fields : List Field} {doc : Document}
    (h : Document.of package message fields = .ok doc) :
    doc.package = package ∧ doc.message = message ∧ doc.fields = fields := by
  unfold Document.of at h
  split at h
  · split at h
    · split at h
      · cases h
      · rw [← Except.ok.inj h]
        exact ⟨rfl, rfl, rfl⟩
    · cases h
  · cases h

/-- The header does not count: there is one message. -/
theorem targets_describe (doc : Document) (file : Option String) :
    (doc.describe file).files.flatMap (·.targets) = [doc.target] := by
  have other : doc.target.name ≠ headerMessage := doc.message_ne
  have header : Target.name ⟨doc.package, headerDescription⟩ = headerMessage := rfl
  have messages : [doc.target, ⟨doc.package, headerDescription⟩].filter (·.name ≠ headerMessage) =
      [doc.target] := by
    rw [List.filter_cons_of_pos (by simpa using other), List.filter_cons_of_neg (by simp [header])]
    rfl
  rw [describe, List.flatMap_singleton]
  exact messages

/-- **The data message is found**, by its name or without one. -/
theorem target_describe (doc : Document) (file : Option String) {choice : Option String}
    (h : choice = none ∨ choice = some doc.message ∨ choice = some doc.target.fullName) :
    (doc.describe file).target choice = .ok doc.target := by
  have name : doc.target.name = doc.message := rfl
  obtain rfl | rfl | rfl := h
  · -- without a name the file counts because it declares the header
    have header : (doc.describe file).files.filter (·.hasHeader) = (doc.describe file).files := by
      refine List.filter_eq_self.mpr fun f hf => ?_
      rw [List.mem_singleton.mp hf]
      simp [Descriptor.File.hasHeader, headerDescription, Descriptor.Message.nameText]
    simp [DescriptorSet.target, DescriptorSet.discovered, DescriptorSet.candidates, header,
      targets_describe]
  · simp [DescriptorSet.target, DescriptorSet.named, targets_describe, name]
  · simp [DescriptorSet.target, DescriptorSet.named, targets_describe]

/-- **The fields are learnt** as they were extracted. -/
theorem specs_describeMessage {doc : Document}
    (h : ∀ f ∈ doc.fields, 1 ≤ f.id ∧ f.id ≤ largestFieldNumber) :
    doc.describeMessage.specs = .ok (doc.fields.map Field.spec) := by
  rw [Descriptor.Message.specs, mapM_eq_ok_iff, describeMessage, List.forall₂_map_left_iff,
    List.forall₂_map_right_iff, List.forall₂_same]
  exact fun f hf => Field.spec_describe (h f hf).1 (h f hf).2 _

end Document

/-! ### Laying out a description -/

/-- Every kind has a codec. -/
theorem Codec.exists_ofDeclared?_ofKind (kind : Kind) :
    ∃ codec, ofDeclared? (.ofKind kind) = some codec ∧ codec.kind = kind := by
  cases kind <;> exact ⟨_, rfl, rfl⟩

namespace Tree

section Layout

variable {t : Tree} {i : Nat} {column : Branch} {kind : Kind}

/-- A branch that has a name of its own is bound by its name. -/
theorem bind_of_nodup {repeated : Bool} (distinct : (t.branches.map (·.name)).Nodup)
    (get : t.branches[i]? = some column) (type : column.columnType = ⟨.scalar kind, repeated⟩) :
    t.bind column.name kind repeated = .ok ⟨column.name, i, .fresh kind repeated⟩ := by
  have found : t.branches.zipIdx.find? (·.1.name == column.name) = some (column, 0 + i) :=
    find?_zipIdx_of_nodup distinct get
  rw [Nat.zero_add] at found
  simp only [bind, found, if_pos type]

/-- **The field of a branch is bound to the branch.** -/
theorem exists_bindField_spec {first : Nat} {f : Field} (made : f.IsOf first column)
    (scalar : f.type = .scalar kind) (distinct : (t.branches.map (·.name)).Nodup)
    (get : t.branches[i]? = some column) :
    ∃ codec, codec.kind = kind ∧
      t.bindField f.spec = .ok (codec, ⟨f.branch, i, .fresh kind f.repeated⟩) := by
  obtain ⟨codec, hc, rfl⟩ := Codec.exists_ofDeclared?_ofKind kind
  have coded : Codec.ofField f.spec = .ok codec := by
    rw [Codec.ofField, Field.spec, Field.declared_of_scalar scalar, hc]
  have type : column.columnType = ⟨.scalar codec.kind, f.repeated⟩ := by
    rw [made.column, scalar]
  refine ⟨codec, rfl, bindField_eq_ok_iff.mpr ⟨coded, ?_⟩⟩
  have bound := bind_of_nodup distinct get type
  rwa [← made.branch] at bound

/-- **Every extracted field is bound** to the branch that it was made from. -/
theorem exists_isOf_bindField {selection : Selection} {ids ids' : Numbering} {fields : List Field}
    {k : Nat} {f : Field} (distinct : (t.branches.map (·.name)).Nodup)
    (scalar : ∀ b ∈ t.branches, selection.accepts b.name = true →
      ∃ kind, b.columnType.type = .scalar kind)
    (extracted : t.extract selection ids = (.ok fields, ids')) (hf : fields[k]? = some f) :
    ∃ column kind i codec, (t.branches.filter (selection.accepts ·.name))[k]? = some column ∧
      f.IsOf ids.next column ∧ f.type = .scalar kind ∧ t.branches[i]? = some column ∧
      codec.kind = kind ∧
      t.bindField f.spec = .ok (codec, ⟨f.branch, i, .fresh kind f.repeated⟩) := by
  obtain ⟨column, hc, made⟩ := exists_getElem?_of_forall₂ (fieldsOf_eq_ok extracted) hf
  obtain ⟨mem, accepted⟩ := List.mem_filter.mp (List.mem_of_getElem? hc)
  obtain ⟨i, get⟩ := List.getElem?_of_mem mem
  obtain ⟨kind, hk⟩ := scalar column mem accepted
  have type : f.type = .scalar kind := by rw [← hk, made.column]
  obtain ⟨codec, coded, bound⟩ := exists_bindField_spec made type distinct get
  exact ⟨column, kind, i, codec, hc, made, type, get, coded, bound⟩

end Layout

/-- **A tree can be laid out by the description of a document that was extracted from it**, if its
branches have names of their own and the selected ones have kinds: the data message is found, and
the slot of every field has the number and the name of the field, a codec for the kind of its
column, and a binding to the very branch that the field was made from. -/
theorem prepare_describe {t : Tree} {selection : Selection} {ids ids' : Numbering}
    {package message : String} {fields : List Field} {doc : Document} {choice : Option String}
    (distinct : (t.branches.map (·.name)).Nodup)
    (scalar : ∀ b ∈ t.branches, selection.accepts b.name = true →
      ∃ kind, b.columnType.type = .scalar kind)
    (started : 1 ≤ ids.next) (extracted : t.extract selection ids = (.ok fields, ids'))
    (valid : Document.of package message fields = .ok doc)
    (chosen : choice = none ∨ choice = some message ∨ choice = some doc.target.fullName)
    (file : Option String) :
    ∃ layout bindings, t.prepare (doc.describe file) choice = .ok (doc.target, layout, bindings) ∧
      layout.slots.length = fields.length ∧
      ∀ (k : Nat) (f : Field), fields[k]? = some f →
        ∃ (column : Branch) (kind : Kind) (codec : Codec) (number : UInt32) (i : Nat),
          (t.branches.filter (selection.accepts ·.name))[k]? = some column ∧
          f.branch = column.name ∧ f.type = .scalar kind ∧ codec.kind = kind ∧
          column.columnType = ⟨.scalar kind, f.repeated⟩ ∧ number.toNat = f.id ∧
          layout.slots[k]? = some ⟨number, codec, f.packed, k, f.name⟩ ∧
          bindings[k]? = some ⟨column.name, i, .fresh kind f.repeated⟩ ∧
          t.branches[i]? = some column := by
  obtain ⟨rfl, rfl, rfl⟩ := Document.of_eq_ok valid
  have numbers : ∀ f ∈ doc.fields, 1 ≤ f.id ∧ f.id ≤ largestFieldNumber := by
    intro f mem
    obtain ⟨k, hf⟩ := List.getElem?_of_mem mem
    obtain ⟨_, -, made⟩ := exists_getElem?_of_forall₂ (fieldsOf_eq_ok extracted) hf
    exact ⟨Nat.le_trans started made.low, made.high⟩
  obtain ⟨bound, hb⟩ : ∃ bound, List.Forall₂ (fun f b => t.bindField f.spec = .ok b)
      doc.fields bound := by
    refine exists_forall₂ fun f mem => ?_
    obtain ⟨k, hf⟩ := List.getElem?_of_mem mem
    obtain ⟨_, _, _, _, -, -, -, -, -, hk⟩ := exists_isOf_bindField distinct scalar extracted hf
    exact ⟨_, hk⟩
  have laid := layout_eq_ok_iff.mpr ⟨bound, List.forall₂_map_left_iff.mpr hb, rfl, rfl⟩
  have prepared := prepare_eq_ok_iff.mpr
    ⟨doc.target_describe file chosen, _, Document.specs_describeMessage numbers, laid⟩
  refine ⟨_, _, prepared, by simp [slotsOf, hb.length_eq], fun k f hf => ?_⟩
  obtain ⟨column, kind, i, codec, hc, made, type, get, coded, hk⟩ :=
    exists_isOf_bindField distinct scalar extracted hf
  obtain ⟨b, hbk, same⟩ := exists_getElem?_of_forall₂ hb hf
  obtain rfl := Except.ok.inj (hk.symm.trans same)
  refine ⟨column, kind, codec, f.id.toUInt32, i, hc, made.branch, type, coded,
    type ▸ made.column, f.toNat_number (numbers f (List.mem_of_getElem? hf)).2, ?_, ?_, get⟩
  · have spec : (doc.fields.map Field.spec)[k]? = some f.spec := by rw [List.getElem?_map, hf]; rfl
    have chosen : (bound.map Prod.fst)[k]? = some codec := by rw [List.getElem?_map, hbk]; rfl
    rw [getElem?_slotsOf spec chosen, ← f.packed_and_repeated]
    rfl
  · rw [List.getElem?_map, hbk, ← made.branch]
    rfl

/-- A tree of two branches that get fields with the same name, and one whose type has no kind. -/
def electrons : Tree where
  name := "electrons"
  branches :=
    [⟨"el.pt", "vector<float>", "", #[.array []]⟩, ⟨"vertex", "TLorentzVector", "", #[.null]⟩,
      ⟨"el_pt", "", "UInt_t", #[.null]⟩]
  entries := 1
  size_values := by simp
  entries_eq_zero := nofun

/-- The document of the fields of the two branches, which are extracted after others. -/
def electronsDocument : Document where
  package := "p.q"
  message := "Event"
  fields :=
    [⟨"el_pt", .scalar .float, 3, "el.pt", true⟩, ⟨"el_pt_4", .scalar .uint32, 4, "el_pt", false⟩]
  isPackage_package := by decide
  isIdentifier_message := by decide
  message_ne := by decide

theorem prepare_describe_electrons :
    electrons.extract (Selection.parse "-vertex") ⟨3⟩ = (.ok electronsDocument.fields, ⟨5⟩) ∧
    ∃ layout bindings,
      electrons.prepare (electronsDocument.describe none) (some "p.q.Event") =
        .ok (electronsDocument.target, layout, bindings) ∧
      layout.slots[1]?.map (fun s => (s.number, s.codec.kind, s.packed, s.field)) =
        some (4, .uint32, false, "el_pt_4") ∧
      ∃ i, bindings[1]? = some ⟨"el_pt", i, .fresh .uint32 false⟩ ∧
        (electrons.branches[i]?.map (·.name)) = some "el_pt" := by
  have distinct : (electrons.branches.map (·.name)).Nodup := by decide
  have scalar : ∀ b ∈ electrons.branches, (Selection.parse "-vertex").accepts b.name = true →
      ∃ kind, b.columnType.type = .scalar kind := by
    have known : ∀ b ∈ electrons.branches, (Selection.parse "-vertex").accepts b.name = true →
        b.columnType.type.kind?.isSome = true := by
      decide +kernel
    intro b mem accepted
    cases ht : b.columnType.type with
    | scalar kind => exact ⟨kind, rfl⟩
    | unresolved native => simpa [ht, FieldType.kind?] using known b mem accepted
  have extracted : electrons.extract (Selection.parse "-vertex") ⟨3⟩ =
      (.ok electronsDocument.fields, ⟨5⟩) := by
    decide +kernel
  have valid : Document.of "p.q" "Event" electronsDocument.fields = .ok electronsDocument := rfl
  have chosen : some "p.q.Event" = some electronsDocument.target.fullName := by decide
  obtain ⟨layout, bindings, prepared, -, agree⟩ := prepare_describe distinct scalar (by decide)
    extracted valid (Or.inr (Or.inr chosen)) none
  obtain ⟨column, kind, codec, number, i, -, name, type, coded, -, four, slot, bound, get⟩ :=
    agree 1 _ rfl
  obtain rfl : Kind.uint32 = kind := FieldType.scalar.inj type
  obtain rfl : number = 4 := UInt32.toNat_inj.mp four
  rw [← name] at bound
  refine ⟨extracted, layout, bindings, prepared, ?_, i, bound, ?_⟩
  · rw [slot, ← coded]
    rfl
  · rw [get, Option.map_some, ← name]

end Tree

end TreeWire
