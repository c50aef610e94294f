import TreeWire.Proofs.BranchName
import TreeWire.Proofs.Description
import TreeWire.Proofs.NativeType
import TreeWire.Schema.Printer

/-!
# Unmapped types that are keywords

A native type that is not mapped goes into the schema as it stands, for the schema compiler to
reject. That works for every text but one sort: the keyword of a scalar type. Four of the fifteen
keywords are spellings of the table and are mapped. The other eleven are not, although five of them
are the very keywords that the kinds have in schema text. A branch that declares one of them, or a
sequence of them, gets a field that the schema compiler takes for a declared one. The description of
the field leads to a codec, but its branch still has no kind, and no branch without a kind is bound.

* `TreeWire.Codec.unspelled` – the scalar types whose keywords are no spellings;
* `TreeWire.ColumnType.type_eq_unresolved_iff` – what is passed on as a given text;
* `TreeWire.ColumnType.keyword_unresolved_iff` – **the main statement**: the native types that are
  passed on as keywords, and what becomes of their fields.
-/

namespace TreeWire

/-! ### Keywords -/

namespace Codec

/-- **The scalar types whose keywords are no spellings.** -/
def unspelled : List Codec :=
  [int32, int64, uint32, uint64, sint32, sint64, fixed32, fixed64, sfixed32, sfixed64, bytes]

theorem mem_unspelled_iff {c : Codec} :
    c ∈ unspelled ↔ ∀ k : Kind, c.declared.keyword ∉ k.spellings := by
  have table : c ∈ unspelled ↔ ∀ k ∈ Kind.all, c.declared.keyword ∉ k.spellings := by
    cases c <;> decide
  simpa using table

/-- No keyword is a sequence: none ends with a bracket. -/
theorem not_wraps_keyword (c : Codec) (inside : String) : ¬ Wraps c.declared.keyword inside := by
  intro wraps
  obtain ⟨opening, -, text⟩ := wraps_iff.mp wraps
  have bracket : c.declared.keyword.toList.getLast? = some '>' := by
    rw [← text, ← List.append_assoc, List.getLast?_concat]
  revert bracket
  cases c <;> decide

theorem keyword_ne_empty (c : Codec) : c.declared.keyword ≠ "" := by
  cases c <;> decide

end Codec

/-! ### What is passed on -/

namespace ColumnType

variable {native text : String}

/-- **What is passed on as a text** that is no sequence: the text itself and every sequence of it,
if it is no spelling. -/
theorem type_eq_unresolved_iff (plain : ∀ inside, ¬ Wraps text inside) (present : text ≠ "") :
    (ofNative native).type = .unresolved text ↔
      (∀ k : Kind, text ∉ k.spellings) ∧
        (trim native = text ∨ ∃ inside, Wraps (trim native) inside ∧ trim inside = text) := by
  constructor
  · intro passed
    have means := denotes_ofNative native
    generalize ofNative native = c at means passed
    rcases means with _ | _ | ⟨wraps, cut, -, foreign⟩ | ⟨foreign, -⟩
    · cases passed
    · cases passed
    · obtain rfl := FieldType.unresolved.inj passed
      exact ⟨foreign, Or.inr ⟨_, wraps, trims_iff.mp cut⟩⟩
    · obtain rfl := FieldType.unresolved.inj passed
      exact ⟨foreign, Or.inl rfl⟩
  · rintro ⟨foreign, rfl | ⟨inside, wraps, rfl⟩⟩
    · rw [ofNative_eq_iff.mpr (.other foreign fun inside _ wraps _ => (plain inside wraps).elim)]
    · rw [ofNative_eq_iff.mpr (.element wraps (trims_iff.mpr rfl) present foreign)]

/-- **What is passed on as the keyword** of a scalar type. -/
theorem type_eq_keyword_iff {c : Codec} :
    (ofNative native).type = .unresolved c.declared.keyword ↔
      c ∈ Codec.unspelled ∧ (trim native = c.declared.keyword ∨
        ∃ inside, Wraps (trim native) inside ∧ trim inside = c.declared.keyword) := by
  rw [type_eq_unresolved_iff c.not_wraps_keyword c.keyword_ne_empty, Codec.mem_unspelled_iff]

end ColumnType

/-! ### Fields that are declared by a keyword -/

theorem Field.declared_of_keyword {f : Field} {c : Codec}
    (h : f.type = .unresolved c.declared.keyword) : f.declared = c.declared := by
  rw [Field.declared, h, FieldType.text, Descriptor.Declared.ofKeyword?_keyword]
  rfl

/-- The field is taken for one of the scalar type. -/
theorem Field.ofField_of_keyword {f : Field} {c : Codec}
    (h : f.type = .unresolved c.declared.keyword) : Codec.ofField f.spec = .ok c :=
  Codec.ofField_eq_ok_iff.mpr (declared_of_keyword h).symm

/-- **A branch without a kind is not bound**, whatever is asked for. -/
theorem Tree.FirstNamed.bind_of_unresolved {t : Tree} {name text : String} {i : Nat} {b : Branch}
    (h : t.FirstNamed name i b) (unresolved : b.columnType.type = .unresolved text) (kind : Kind)
    (repeated : Bool) :
    t.bind name kind repeated =
      .error (.bindMismatch name (askedFor kind repeated) b.nativeType) := by
  rw [h.bind, if_neg]
  intro same
  rw [same] at unresolved
  cases unresolved

/-- **The native types that are passed on as keywords.** No native type is passed on as the keyword
of a scalar type, unless it is one of eleven of them or a sequence of one. If it is, then the field
of every branch of the type has the keyword in the schema, and what a conversion learns of the field
from its description is the scalar type with its codec. But the field cannot be bound to the first
branch of its name in any tree, if that is the branch it was made from. -/
theorem ColumnType.keyword_unresolved_iff (native : String) :
    ((∀ name, (ofNative native).type = .unresolved name →
        ∀ c : Codec, c.declared.keyword ≠ name) ↔
      ∀ c ∈ Codec.unspelled, trim native ≠ c.declared.keyword ∧
        ∀ inside, Wraps (trim native) inside → trim inside ≠ c.declared.keyword) ∧
    ∀ c : Codec, (ofNative native).type = .unresolved c.declared.keyword →
      ∀ (b : Branch) (taken : List String) (id : Nat) (message : String),
        b.nativeType = native → 1 ≤ id → id ≤ largestFieldNumber →
        (b.field taken id).type.text = c.declared.keyword ∧
        ∃ spec, (b.field taken id).describe.spec message = .ok spec ∧
          Codec.ofField spec = .ok c ∧
          ∀ (t : Tree) (i : Nat), t.FirstNamed b.name i b →
            t.bindField spec =
              .error (.bindMismatch b.name (askedFor c.kind spec.repeated) native) := by
  refine ⟨⟨fun never c mem => ⟨fun same => ?_, fun inside wraps same => ?_⟩, ?_⟩, ?_⟩
  · exact never _ (type_eq_keyword_iff.mpr ⟨mem, Or.inl same⟩) c rfl
  · exact never _ (type_eq_keyword_iff.mpr ⟨mem, Or.inr ⟨inside, wraps, same⟩⟩) c rfl
  · rintro others _ passed c rfl
    obtain ⟨mem, same | ⟨inside, wraps, same⟩⟩ := type_eq_keyword_iff.mp passed
    · exact (others c mem).1 same
    · exact (others c mem).2 inside wraps same
  · rintro c passed b taken id message rfl low high
    have column : b.columnType.type = .unresolved c.declared.keyword := by
      rw [Branch.columnType, passed]
    have type : (b.field taken id).type = .unresolved c.declared.keyword := by
      simp only [Branch.field, column]
    have text : (b.field taken id).type.text = c.declared.keyword := by rw [type, FieldType.text]
    have described : (b.field taken id).describe.spec message = .ok (b.field taken id).spec :=
      Field.spec_describe low high message
    have coded := Field.ofField_of_keyword type
    refine ⟨text, (b.field taken id).spec, described, coded, fun t i first => ?_⟩
    have refused := first.bind_of_unresolved column c.kind (b.field taken id).spec.repeated
    change (Codec.ofField _ >>= fun codec => t.bind b.name codec.kind _ >>= _) = _
    rw [coded]
    change (t.bind b.name c.kind _ >>= _) = _
    rw [refused]
    rfl

/-- A tree with a branch whose native type is a keyword. -/
def Tree.keyworded : Tree where
  name := "events"
  branches := [⟨"x", "", "int32", #[.ofInt32 1]⟩]
  entries := 1
  size_values := by simp
  entries_eq_zero := nofun

/-- The document of its field. -/
def Document.keyworded : Document where
  package := "unmapped"
  message := "Keyworded"
  fields := [⟨"x", .unresolved "int32", 1, "x", false⟩]
  isPackage_package := by decide
  isIdentifier_message := by decide
  message_ne := by decide

/-- The type is passed on as the keyword that it is, the line of the schema declares a field of the
scalar type, and the conversion by its description is refused. -/
theorem ColumnType.ofNative_misses_keyword :
    ColumnType.ofNative "int32" = ⟨.unresolved Codec.int32.declared.keyword, false⟩ ∧
    Tree.keyworded.extract (Selection.parse "") .start = (.ok Document.keyworded.fields, ⟨2⟩) ∧
    Document.keyworded.fields.map (fun f => String.ofList f.line) =
      ["  optional int32 x = 1 [(source_branch) = \"x\"];"] ∧
    Tree.keyworded.convert (Document.keyworded.describe none) none (-1) .concatenated =
      ([], .error (.bindMismatch "x" "int32" "int32")) := by
  refine ⟨?_, ?_, ?_, ?_⟩ <;> decide +kernel

end TreeWire
