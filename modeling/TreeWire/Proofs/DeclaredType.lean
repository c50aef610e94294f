import TreeWire.Proofs.DataFile

/-!
# Declared types and codecs

A descriptor holds the type of a field as a number, which may be missing, and which need not be the
number of a type. The type is looked up by a default: a number that is missing or unknown counts as
the first of the types. The codec is chosen after that and no longer sees the difference. So the
types without a column are refused, but a field that declares no type at all is not: it is given the
codec of the first type, and its values are written as if it had been declared like that.

* `TreeWire.Descriptor.Field.IsUntyped` – **fields that declare no known type**;
* `TreeWire.Descriptor.Field.typeValue_eq_iff` – what the type of a field is looked up as;
* `TreeWire.Codec.ofField_eq_error_iff` – the types without a codec;
* `TreeWire.Descriptor.Field.ofField_eq_ok_iff`, `TreeWire.Descriptor.Field.ofField_eq_error_iff` –
  the codec of a field of a descriptor;
* `TreeWire.Descriptor.Message.ofField_of_specs` – **the main statement**: the fields whose codecs
  are those of the types that they declare.
-/

namespace TreeWire

/-! ### Types and their numbers -/

namespace Descriptor

theorem Declared.ofNumber?_eq_some_iff {n : Int32} {d : Declared} :
    ofNumber? n = some d ↔ d.number = n := by
  constructor
  · intro found
    simpa using List.find?_some found
  · rintro rfl
    exact ofNumber?_number d

namespace Field

variable {f : Field} {d : Declared}

/-- **A field declares no known type**: its number is missing, or it is that of no type. -/
def IsUntyped (f : Field) : Prop := ∀ d : Declared, f.type ≠ some d.number

theorem bind_ofNumber?_eq_some_iff :
    f.type.bind Declared.ofNumber? = some d ↔ f.type = some d.number := by
  rw [Option.bind_eq_some_iff]
  constructor
  · rintro ⟨n, there, found⟩
    rw [there, Declared.ofNumber?_eq_some_iff.mp found]
  · intro there
    exact ⟨d.number, there, Declared.ofNumber?_number d⟩

/-- **The type of a field** is the one that it declares, or the first of all types if it declares
none. -/
theorem typeValue_eq_iff :
    f.typeValue = d ↔ f.type = some d.number ∨ d = .double ∧ f.IsUntyped := by
  cases found : f.type.bind Declared.ofNumber? with
  | none =>
    have untyped : f.IsUntyped := fun e there => by
      rw [bind_ofNumber?_eq_some_iff.mpr there] at found
      cases found
    have first : f.typeValue = .double := by rw [typeValue, found]; rfl
    rw [first, or_iff_right (untyped d), and_iff_left untyped]
    exact eq_comm
  | some e =>
    have there := bind_ofNumber?_eq_some_iff.mp found
    have type : f.typeValue = e := by rw [typeValue, found]; rfl
    have typed : ¬ (d = .double ∧ f.IsUntyped) := fun h => h.2 e there
    rw [type, or_iff_left typed, ← bind_ofNumber?_eq_some_iff, found, Option.some.injEq]

end Field

end Descriptor

/-! ### Codecs of types -/

namespace Codec

/-- A type has no codec exactly if it is none of the scalar ones. -/
theorem ofDeclared?_eq_none_iff {d : Descriptor.Declared} :
    ofDeclared? d = none ↔ d = .group ∨ d = .message ∨ d = .enumeration := by
  cases d <;> simp [ofDeclared?]

/-- **A field has no codec** exactly if its type is none of the scalar ones, and the fault names the
field and the type. -/
theorem ofField_eq_error_iff {f : FieldSpec} {fault : Fault} :
    ofField f = .error fault ↔
      (f.declared = .group ∨ f.declared = .message ∨ f.declared = .enumeration) ∧
        fault = .unsupportedFieldType f.name f.declared.keyword := by
  rw [← ofDeclared?_eq_none_iff, ofField]
  cases ofDeclared? f.declared with
  | none =>
    constructor
    · intro h
      exact ⟨rfl, (Except.error.inj h).symm⟩
    · rintro ⟨-, rfl⟩
      rfl
  | some e =>
    constructor
    · intro h
      cases h
    · rintro ⟨h, -⟩
      cases h

theorem declared_eq_double_iff {c : Codec} : c.declared = .double ↔ c = .double := by
  cases c <;> simp [declared]

end Codec

/-! ### Codecs of fields -/

namespace Descriptor

namespace Field

variable {f : Field} {message : String} {spec : FieldSpec}

/-- What is learnt of a field has its name, and its type as it is looked up. -/
theorem declared_of_spec (h : f.spec message = .ok spec) :
    spec.name = f.nameText ∧ spec.declared = f.typeValue := by
  unfold Field.spec at h
  split at h
  · cases h
  · split at h
    · cases h
    · rw [← Except.ok.inj h]
      exact ⟨rfl, rfl⟩

/-- **The codec of a field of a descriptor** is the one of the type that it declares. A field that
declares none has the codec of the first type. -/
theorem ofField_eq_ok_iff (h : f.spec message = .ok spec) {c : Codec} :
    Codec.ofField spec = .ok c ↔
      f.type = some c.declared.number ∨ c = .double ∧ f.IsUntyped := by
  rw [Codec.ofField_eq_ok_iff, (declared_of_spec h).2, eq_comm, typeValue_eq_iff,
    Codec.declared_eq_double_iff]

/-- **A field of a descriptor has no codec** exactly if it declares a type that is none of the
scalar ones. -/
theorem ofField_eq_error_iff (h : f.spec message = .ok spec) {fault : Fault} :
    Codec.ofField spec = .error fault ↔
      ∃ d : Declared, (d = .group ∨ d = .message ∨ d = .enumeration) ∧
        f.type = some d.number ∧ fault = .unsupportedFieldType f.nameText d.keyword := by
  obtain ⟨name, declared⟩ := declared_of_spec h
  rw [Codec.ofField_eq_error_iff, name, declared]
  constructor
  · rintro ⟨composite, rfl⟩
    refine ⟨f.typeValue, composite, (typeValue_eq_iff.mp rfl).resolve_right ?_, rfl⟩
    rintro ⟨first, -⟩
    rw [first] at composite
    rcases composite with other | other | other <;> cases other
  · rintro ⟨d, composite, there, rfl⟩
    rw [typeValue_eq_iff.mpr (Or.inl there)]
    exact ⟨composite, rfl⟩

/-- **The codec of a field is sure to be that of the declared type** exactly if the field declares
a known type. -/
theorem codec_declared_iff (h : f.spec message = .ok spec) :
    (∀ c, Codec.ofField spec = .ok c → f.type = some c.declared.number) ↔
      ∃ d : Declared, f.type = some d.number := by
  constructor
  · intro always
    by_contra none
    have untyped : f.IsUntyped := fun d there => none ⟨d, there⟩
    -- the codec of the first type is chosen, although nothing is declared
    exact untyped _ (always .double ((ofField_eq_ok_iff h).mpr (Or.inr ⟨rfl, untyped⟩)))
  · rintro ⟨d, there⟩ c chosen
    exact ((ofField_eq_ok_iff h).mp chosen).resolve_right fun untyped => untyped.2 d there

end Field

/-- **The codecs of the fields of a message.** For every field of a message that can be read, the
codec is the one of the scalar type whose number the field declares, and a field that declares a
message, a group or an enumeration has none, with a fault that names the field and the type. All
others, whose number is missing or is that of no type, have the codec of the first type. So the
codec of a field is sure to be that of a type which it declares exactly if it declares a known
type. -/
theorem Message.ofField_of_specs {m : Message} {specs : List FieldSpec}
    (accepted : m.specs = .ok specs) :
    List.Forall₂ (fun f spec =>
      (∀ c, Codec.ofField spec = .ok c ↔
        f.type = some c.declared.number ∨ c = .double ∧ f.IsUntyped) ∧
      (∀ fault, Codec.ofField spec = .error fault ↔
        ∃ d : Declared, (d = .group ∨ d = .message ∨ d = .enumeration) ∧
          f.type = some d.number ∧ fault = .unsupportedFieldType f.nameText d.keyword) ∧
      ((∀ c, Codec.ofField spec = .ok c → f.type = some c.declared.number) ↔
        ∃ d : Declared, f.type = some d.number)) m.fields specs :=
  (mapM_eq_ok_iff.mp accepted).imp fun _ _ read =>
    ⟨fun _ => Field.ofField_eq_ok_iff read, fun _ => Field.ofField_eq_error_iff read,
      Field.codec_declared_iff read⟩

/-- A message whose fields declare a number, a message, nothing, and a type that there is not. -/
def Message.mixed : Message where
  name := some "Event"
  fields := [some 5, some 11, none, some 19].map fun type =>
    { name := some "x", number := some 1, type, options := some { sourceBranch := some "x" } }

/-- The first two fields have the codec and the fault of what they declare, and the others are taken
for doubles. -/
theorem Message.ofField_of_specs_mixed :
    ∃ specs, Message.mixed.specs = .ok specs ∧
      List.Forall₂ (fun f spec =>
        (∀ c, Codec.ofField spec = .ok c → f.type = some c.declared.number) ↔
          ∃ d : Declared, f.type = some d.number) Message.mixed.fields specs ∧
      specs.map Codec.ofField = [.ok .int32, .error (.unsupportedFieldType "x" "message"),
        .ok .double, .ok .double] := by
  have read : ∃ specs, Message.mixed.specs = .ok specs ∧
      specs.map Codec.ofField = [.ok .int32, .error (.unsupportedFieldType "x" "message"),
        .ok .double, .ok .double] := ⟨_, rfl, rfl⟩
  obtain ⟨specs, accepted, codecs⟩ := read
  exact ⟨specs, accepted, (ofField_of_specs accepted).imp fun _ _ h => h.2.2, codecs⟩

/-- A message with one field that declares no type. -/
def Message.untyped : Message where
  name := some "Event"
  fields := [{ name := some "x", number := some 1, options := some { sourceBranch := some "x" } }]

end Descriptor

/-- That message next to the header. -/
def DescriptorSet.untyped : DescriptorSet where
  files := [{ messages := [.untyped, { name := some headerMessage }] }]

/-- A tree with one value. -/
def Tree.single : Tree where
  name := "events"
  branches := [⟨"x", "", "double", #[.ofInt32 1]⟩]
  entries := 1
  size_values := by simp
  entries_eq_zero := nofun

/-- The field declares no type and has a codec nevertheless, and its values are written as
doubles. -/
theorem Descriptor.Message.codec_of_untyped :
    (∀ f ∈ Message.untyped.fields, f.IsUntyped) ∧
    (∃ specs, Message.untyped.specs = .ok specs ∧ specs.map Codec.ofField = [.ok .double]) ∧
    Tree.single.convert .untyped none (-1) .concatenated =
      ([8, 1, 9, 0, 0, 0, 0, 0, 0, 240, 63], .ok ⟨"Event", 1, 11⟩) := by
  refine ⟨?_, ⟨_, rfl, rfl⟩, by decide +kernel⟩
  intro f mem d there
  rw [List.mem_singleton.mp mem] at there
  cases there

end TreeWire
