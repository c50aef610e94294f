import TreeWire.Kind
import TreeWire.Text.Blank

/-!
# Native types

Every branch declares the type of its values in the spelling of the program that wrote it. A
spelling is mapped to a scalar kind that can hold every value of the type, or it is left
unresolved and passed on as it is, for the schema compiler to reject. A sequence of a type that
has a kind is mapped to a repeated field of that kind.

* `TreeWire.Kind.spellings` – the table of spellings;
* `TreeWire.FieldType` – a kind, or a spelling that has none;
* `TreeWire.ColumnType.ofNative` – the mapping.
-/

namespace TreeWire

/-- **The table of spellings**: the native names of the types whose values a kind holds. -/
def Kind.spellings : Kind → List String
  | .bool => ["bool", "Bool_t"]
  | .int32 => ["char", "Char_t", "short", "Short_t", "int", "Int_t", "int32_t"]
  | .int64 => ["long", "Long_t", "Long64_t", "long long", "int64_t"]
  | .uint32 =>
    ["unsigned char", "UChar_t", "unsigned short", "UShort_t", "unsigned int", "unsigned",
      "UInt_t", "uint32_t"]
  | .uint64 => ["unsigned long", "ULong_t", "ULong64_t", "unsigned long long", "uint64_t"]
  | .float => ["float", "Float_t", "Float16_t"]
  | .double => ["double", "Double_t", "Double32_t"]
  | .bytes => ["UChar_t*", "unsigned char*"]
  | .string => ["char*", "Char_t*", "string", "std::string", "TString"]

/-- The kind of a spelling. -/
def Kind.ofSpelling? (s : String) : Option Kind :=
  Kind.all.find? fun k => k.spellings.contains s

/-- No spelling stands for two kinds. -/
theorem Kind.eq_of_mem_spellings {k l : Kind} {s : String} (hk : s ∈ k.spellings)
    (hl : s ∈ l.spellings) : k = l := by
  have table : ∀ k ∈ Kind.all, ∀ l ∈ Kind.all, ∀ s ∈ k.spellings, s ∈ l.spellings → k = l := by
    decide
  exact table k (mem_all k) l (mem_all l) s hk hl

/-- A spelling has the kind in whose row of the table it stands. -/
theorem Kind.ofSpelling?_eq_some_iff {s : String} {k : Kind} :
    Kind.ofSpelling? s = some k ↔ s ∈ k.spellings := by
  constructor
  · intro h
    simpa using List.find?_some h
  · intro h
    cases hf : Kind.ofSpelling? s with
    | none => simpa [h] using List.find?_eq_none.1 hf k (mem_all k)
    | some l =>
      have hl : s ∈ l.spellings := by simpa using List.find?_some hf
      rw [Kind.eq_of_mem_spellings h hl]

/-- **The type of a field**: a kind, or a native spelling that no kind belongs to. -/
inductive FieldType where
  /-- A kind. -/
  | scalar (kind : Kind)
  /-- A native spelling. -/
  | unresolved (native : String)
  deriving DecidableEq

/-- The type as schema text names it. -/
def FieldType.text : FieldType → String
  | scalar kind => kind.keyword
  | unresolved native => native

/-- The kind of a field type. -/
def FieldType.kind? : FieldType → Option Kind
  | scalar kind => some kind
  | unresolved _ => none

/-- **The type of a column**: the type of its values, and whether an entry holds a list of
them. -/
structure ColumnType where
  /-- The type of the values. -/
  type : FieldType
  /-- Whether an entry holds a list. -/
  repeated : Bool
  deriving DecidableEq

/-- The two spellings that open a sequence, longer one first. -/
def sequenceOpenings : List (List Char) := ["std::vector<".toList, "vector<".toList]

/-- What follows the first of some openings that a text starts with. -/
def afterOpening? (openings : List (List Char)) (cs : List Char) : Option (List Char) :=
  openings.findSome? (·.isPrefixOf? cs)

/-- The element type of a sequence, blank characters around it cut off; there is none if nothing
else is left. -/
def sequenceElement? (cs : List Char) : Option (List Char) :=
  match afterOpening? sequenceOpenings cs with
  | none => none
  | some rest =>
    match [('>' : Char)].isSuffixOf? rest with
    | none => none
    | some inside => if trimChars inside = [] then none else some (trimChars inside)

/-- **The mapping** of a native type. Blank characters around it do not count. The element of a
sequence is looked up in the table only: a sequence of sequences is unresolved, under the name of
its element. -/
def ColumnType.ofNative (native : String) : ColumnType :=
  let name := trim native
  match Kind.ofSpelling? name with
  | some kind => ⟨.scalar kind, false⟩
  | none =>
    match sequenceElement? name.toList with
    | some element =>
      match Kind.ofSpelling? (String.ofList element) with
      | some kind => ⟨.scalar kind, true⟩
      | none => ⟨.unresolved (String.ofList element), true⟩
    | none => ⟨.unresolved name, false⟩

example : ColumnType.ofNative " std::vector< Int_t > " = ⟨.scalar .int32, true⟩ := by decide

example : ColumnType.ofNative "vector<vector<int>>" = ⟨.unresolved "vector<int>", true⟩ := by
  decide

example : ColumnType.ofNative "vector< >" = ⟨.unresolved "vector< >", false⟩ := by decide

end TreeWire
