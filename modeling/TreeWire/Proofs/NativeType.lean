import TreeWire.NativeType
import TreeWire.Proofs.Selection

/-!
# What native types mean

A native type is looked up in the table of spellings, and if it is not there it may still be a
sequence: one of two openings, a text, and a closing bracket. What stands between the brackets is a
native type in turn, so the mapping is a recursion. It ends for every nesting, because an element is
shorter than the sequence around it. It also stays flat: only an element that is itself a spelling
gives the sequence a kind, and all others are passed on by their text. That is why looking the
element up in the table, without any recursion, comes to the same.

* `TreeWire.Wraps` – **sequences**, as texts;
* `TreeWire.sequenceElement?_eq_some_iff` – the elements of sequences;
* `TreeWire.ColumnType.byElements` – the mapping by recursion on the elements, with
  `TreeWire.ColumnType.ofNative_eq_byElements`;
* `TreeWire.ColumnType.Denotes` – **what a native type means**, rule by rule;
* `TreeWire.ColumnType.ofNative_iff` – **the main statement**.
-/

namespace TreeWire

open Selection (Trims trims_trimChars)

/-! ### Blank characters around a text -/

/-- A text that is cut has only one text without the blank characters around it. -/
theorem Selection.Trims.trimChars_eq {piece entry : List Char} (h : Trims piece entry) :
    trimChars piece = entry := by
  obtain ⟨left, right, rfl, blank, first, last⟩ := h
  have inside : trimChars entry = entry := trimChars_eq_self first last
  have before : ∀ c ∈ left, isBlank c = true := fun c mem =>
    blank c (List.mem_append_left right mem)
  have behind : ∀ c ∈ right.reverse, isBlank c = true := fun c mem =>
    blank c (List.mem_append_right left (List.mem_reverse.mp mem))
  rcases entry with _ | ⟨c, cs⟩
  · have all : ∀ c ∈ right, isBlank c = true := fun c mem => behind c (List.mem_reverse.mpr mem)
    rw [List.append_nil, trimChars, List.dropWhile_append_of_pos before,
      List.dropWhile_eq_nil_iff.mpr all]
    rfl
  · have start : (c :: (cs ++ right)).dropWhile isBlank = c :: (cs ++ right) := by
      simp [first c rfl]
    have start' : (c :: cs).dropWhile isBlank = c :: cs := by simp [first c rfl]
    rw [trimChars, start'] at inside
    rw [trimChars, List.append_assoc, List.dropWhile_append_of_pos before, List.cons_append, start,
      ← List.cons_append, List.reverse_append, List.dropWhile_append_of_pos behind, inside]

/-- **Cutting a text** leaves the one text that is meant. -/
theorem trims_iff {text cut : String} : Trims text.toList cut.toList ↔ trim text = cut := by
  rw [← String.toList_inj, toList_trim]
  exact ⟨fun h => h.trimChars_eq, fun h => h ▸ trims_trimChars _⟩

theorem trim_ofList (cs : List Char) : trim (String.ofList cs) = String.ofList (trimChars cs) := by
  rw [trim, String.toList_ofList]

theorem length_trimChars_le (cs : List Char) : (trimChars cs).length ≤ cs.length := by
  obtain ⟨left, right, text, -⟩ := trims_trimChars cs
  have := congrArg List.length text
  simp only [List.length_append] at this
  omega

/-! ### Sequences -/

/-- **A sequence**: one of the two openings, a text, and a closing bracket. -/
def Wraps (type inside : String) : Prop :=
  type = "vector<" ++ inside ++ ">" ∨ type = "std::vector<" ++ inside ++ ">"

theorem wraps_iff {type inside : String} :
    Wraps type inside ↔
      ∃ opening ∈ sequenceOpenings, opening ++ (inside.toList ++ ['>']) = type.toList := by
  have written : ∀ opening : String, type = opening ++ inside ++ ">" ↔
      opening.toList ++ (inside.toList ++ ['>']) = type.toList := by
    intro opening
    rw [← String.toList_inj, String.toList_append, String.toList_append, List.append_assoc]
    exact eq_comm
  rw [Wraps, written, written, or_comm]
  simp only [sequenceOpenings, List.mem_cons, List.not_mem_nil, or_false, exists_eq_or_imp,
    exists_eq_left]

theorem Wraps.ne_empty {type inside : String} (h : Wraps type inside) : type ≠ "" := by
  obtain ⟨opening, -, text⟩ := wraps_iff.mp h
  rintro rfl
  simp at text

/-- What follows an opening is found. The openings exclude each other, so it does not matter which
one is looked for first. -/
theorem afterOpening?_eq_some_iff {cs rest : List Char} :
    afterOpening? sequenceOpenings cs = some rest ↔
      ∃ opening ∈ sequenceOpenings, opening ++ rest = cs := by
  constructor
  · intro found
    obtain ⟨opening, mem, taken⟩ := List.exists_of_findSome?_eq_some found
    exact ⟨opening, mem, List.isPrefixOf?_eq_some_iff_append_eq.mp taken⟩
  · rintro ⟨opening, mem, rfl⟩
    have taken : opening.isPrefixOf? (opening ++ rest) = some rest :=
      List.isPrefixOf?_eq_some_iff_append_eq.mpr rfl
    rcases List.mem_pair.mp mem with rfl | rfl
    · rw [afterOpening?, sequenceOpenings, List.findSome?_cons, taken]
    · have other : "std::vector<".toList.isPrefixOf? ("vector<".toList ++ rest) = none := rfl
      rw [afterOpening?, sequenceOpenings, List.findSome?_cons, other, List.findSome?_cons, taken]

/-- **The element of a sequence** is what is left between the brackets when the blank characters
around it are cut off, if there is something left. -/
theorem sequenceElement?_eq_some_iff {cs element : List Char} :
    sequenceElement? cs = some element ↔
      ∃ opening ∈ sequenceOpenings, ∃ inside, opening ++ (inside ++ ['>']) = cs ∧
        Trims inside element ∧ element ≠ [] := by
  constructor
  · intro found
    rw [sequenceElement?] at found
    split at found
    · cases found
    next rest opened =>
      split at found
      · cases found
      next inside closed =>
        split_ifs at found with empty
        obtain rfl : trimChars inside = element := Option.some.inj found
        obtain ⟨opening, mem, rfl⟩ := afterOpening?_eq_some_iff.mp opened
        obtain rfl := List.isSuffixOf?_eq_some_iff_append_eq.mp closed
        exact ⟨opening, mem, inside, rfl, trims_trimChars inside, empty⟩
  · rintro ⟨opening, mem, inside, rfl, cut, present⟩
    have opened : afterOpening? sequenceOpenings (opening ++ (inside ++ ['>'])) =
        some (inside ++ ['>']) := afterOpening?_eq_some_iff.mpr ⟨opening, mem, rfl⟩
    have closed : [('>' : Char)].isSuffixOf? (inside ++ ['>']) = some inside :=
      List.isSuffixOf?_eq_some_iff_append_eq.mpr rfl
    simp only [sequenceElement?, opened, closed, cut.trimChars_eq, if_neg present]

/-- An element is shorter than the sequence around it. -/
theorem length_lt_of_sequenceElement? {cs element : List Char}
    (h : sequenceElement? cs = some element) : element.length < cs.length := by
  obtain ⟨opening, -, inside, rfl, cut, -⟩ := sequenceElement?_eq_some_iff.mp h
  have shorter := length_trimChars_le inside
  rw [cut.trimChars_eq] at shorter
  simp only [List.length_append, List.length_singleton]
  omega

/-- The elements of the texts that are sequences. -/
theorem sequenceElement?_toList_eq_some_iff {name element : String} :
    sequenceElement? name.toList = some element.toList ↔
      ∃ inside, Wraps name inside ∧ Trims inside.toList element.toList ∧ element ≠ "" := by
  simp only [sequenceElement?_eq_some_iff, wraps_iff]
  constructor
  · rintro ⟨opening, mem, inside, text, cut, present⟩
    refine ⟨String.ofList inside, ⟨opening, mem, by simpa using text⟩, by simpa using cut, ?_⟩
    rintro rfl
    exact present rfl
  · rintro ⟨inside, ⟨opening, mem, text⟩, cut, present⟩
    refine ⟨opening, mem, inside.toList, text, cut, fun empty => present ?_⟩
    exact String.toList_inj.mp empty

/-! ### Spellings -/

namespace Kind

theorem ofSpelling?_eq_none_iff {s : String} :
    ofSpelling? s = none ↔ ∀ k : Kind, s ∉ k.spellings := by
  simp only [← ofSpelling?_eq_some_iff, Option.eq_none_iff_forall_ne_some, ne_eq]

/-- No spelling is empty. -/
theorem ne_empty_of_mem_spellings {k : Kind} {s : String} (h : s ∈ k.spellings) : s ≠ "" := by
  have table : ∀ k ∈ all, "" ∉ k.spellings := by decide
  rintro rfl
  exact table k (mem_all k) h

/-- **No spelling is a sequence**: none ends with a bracket. -/
theorem notMem_spellings_of_wraps {name inside : String} (h : Wraps name inside) (k : Kind) :
    name ∉ k.spellings := by
  have table : ∀ k ∈ all, ∀ s ∈ k.spellings, s.toList.getLast? ≠ some '>' := by decide
  obtain ⟨opening, -, text⟩ := wraps_iff.mp h
  intro mem
  refine table k (mem_all k) name mem ?_
  rw [← text, ← List.append_assoc, List.getLast?_concat]

end Kind

/-! ### What native types mean -/

namespace ColumnType

/-- **What a native type means**, once the blank characters around it are cut off. -/
inductive Denotes (name : String) : ColumnType → Prop
  /-- A spelling of the table has the kind in whose row it stands. -/
  | scalar {k : Kind} : name ∈ k.spellings → Denotes name ⟨.scalar k, false⟩
  /-- A sequence around a spelling has its kind. -/
  | sequence {k : Kind} {inside spelling : String} :
    Wraps name inside → Trims inside.toList spelling.toList → spelling ∈ k.spellings →
      Denotes name ⟨.scalar k, true⟩
  /-- A sequence around anything else is passed on by that. -/
  | element {inside element : String} :
    Wraps name inside → Trims inside.toList element.toList → element ≠ "" →
      (∀ k : Kind, element ∉ k.spellings) → Denotes name ⟨.unresolved element, true⟩
  /-- All other texts are passed on, and so are the openings with nothing between the brackets. -/
  | other :
    (∀ k : Kind, name ∉ k.spellings) →
      (∀ inside element, Wraps name inside → Trims inside.toList element.toList → element = "") →
      Denotes name ⟨.unresolved name, false⟩

variable {native : String} {c : ColumnType}

/-- A sequence with something between the brackets is looked up by that. -/
theorem ofNative_of_wraps {inside element : String} (wraps : Wraps (trim native) inside)
    (cut : Trims inside.toList element.toList) (present : element ≠ "") :
    ofNative native = match Kind.ofSpelling? element with
      | some k => ⟨.scalar k, true⟩
      | none => ⟨.unresolved element, true⟩ := by
  have foreign : Kind.ofSpelling? (trim native) = none :=
    Kind.ofSpelling?_eq_none_iff.mpr (Kind.notMem_spellings_of_wraps wraps)
  have found := sequenceElement?_toList_eq_some_iff.mpr ⟨inside, wraps, cut, present⟩
  cases spelled : Kind.ofSpelling? element with
  | some k => simp only [ofNative, foreign, found, String.ofList_toList, spelled]
  | none => simp only [ofNative, foreign, found, String.ofList_toList, spelled]

/-- A text that is neither a spelling nor a sequence of anything is passed on. -/
theorem ofNative_of_nothing (foreign : Kind.ofSpelling? (trim native) = none)
    (nothing : ∀ inside element, Wraps (trim native) inside →
      Trims inside.toList element.toList → element = "") :
    ofNative native = ⟨.unresolved (trim native), false⟩ := by
  have missing : sequenceElement? (trim native).toList = none := by
    refine Option.eq_none_iff_forall_ne_some.mpr fun cs found => ?_
    rw [← String.toList_ofList (l := cs)] at found
    obtain ⟨inside, wraps, cut, present⟩ := sequenceElement?_toList_eq_some_iff.mp found
    exact present (nothing inside _ wraps cut)
  simp only [ofNative, foreign, missing]

/-- What is looked up is what the native type means. -/
theorem denotes_ofNative (native : String) : Denotes (trim native) (ofNative native) := by
  cases spelled : Kind.ofSpelling? (trim native) with
  | some k =>
    simp only [ofNative, spelled]
    exact .scalar (Kind.ofSpelling?_eq_some_iff.mp spelled)
  | none =>
    by_cases sequence : ∃ inside element, Wraps (trim native) inside ∧
        Trims inside.toList element.toList ∧ element ≠ ""
    · obtain ⟨inside, element, wraps, cut, present⟩ := sequence
      rw [ofNative_of_wraps wraps cut present]
      cases inner : Kind.ofSpelling? element with
      | some k => exact .sequence wraps cut (Kind.ofSpelling?_eq_some_iff.mp inner)
      | none => exact .element wraps cut present (Kind.ofSpelling?_eq_none_iff.mp inner)
    · have nothing : ∀ inside element, Wraps (trim native) inside →
          Trims inside.toList element.toList → element = "" := by
        intro inside element wraps cut
        by_contra present
        exact sequence ⟨inside, element, wraps, cut, present⟩
      rw [ofNative_of_nothing spelled nothing]
      exact .other (Kind.ofSpelling?_eq_none_iff.mp spelled) nothing

/-- **A native type is mapped to what it means.** -/
theorem ofNative_eq_iff : ofNative native = c ↔ Denotes (trim native) c := by
  constructor
  · rintro rfl
    exact denotes_ofNative native
  · rintro (spelled | ⟨wraps, cut, spelled⟩ | ⟨wraps, cut, present, foreign⟩ | ⟨foreign, nothing⟩)
    · simp only [ofNative, Kind.ofSpelling?_eq_some_iff.mpr spelled]
    · rw [ofNative_of_wraps wraps cut (Kind.ne_empty_of_mem_spellings spelled),
        Kind.ofSpelling?_eq_some_iff.mpr spelled]
    · rw [ofNative_of_wraps wraps cut present, Kind.ofSpelling?_eq_none_iff.mpr foreign]
    · exact ofNative_of_nothing (Kind.ofSpelling?_eq_none_iff.mpr foreign) nothing

/-- **The spellings** are the native types of single values that have a kind. -/
theorem ofNative_eq_scalar_iff {k : Kind} :
    ofNative native = ⟨.scalar k, false⟩ ↔ trim native ∈ k.spellings := by
  rw [ofNative_eq_iff]
  constructor
  · rintro (spelled | _)
    exact spelled
  · exact .scalar

/-! ### The mapping as a recursion -/

/-- The type of a sequence whose element has a given type: its kind counts if it is that of a single
value. -/
def ofElement (element : String) : ColumnType → ColumnType
  | ⟨.scalar kind, false⟩ => ⟨.scalar kind, true⟩
  | _ => ⟨.unresolved element, true⟩

theorem ofElement_of_ne {element : String} (h : ∀ k : Kind, c ≠ ⟨.scalar k, false⟩) :
    ofElement element c = ⟨.unresolved element, true⟩ := by
  unfold ofElement
  split
  · exact absurd rfl (h _)
  · rfl

/-- **The mapping by recursion**: the element of a sequence is mapped like any other native type. -/
def byElements (native : List Char) : ColumnType :=
  match Kind.ofSpelling? (String.ofList (trimChars native)) with
  | some kind => ⟨.scalar kind, false⟩
  | none =>
    match _found : sequenceElement? (trimChars native) with
    | some element => ofElement (String.ofList element) (byElements element)
    | none => ⟨.unresolved (String.ofList (trimChars native)), false⟩
termination_by native.length
decreasing_by
  have shorter := length_lt_of_sequenceElement? _found
  have cut := length_trimChars_le native
  omega

/-- An element is a single value of a kind exactly if it is a spelling as it stands. -/
theorem ofNative_element_eq_scalar_iff {cs element : List Char}
    (found : sequenceElement? cs = some element) {k : Kind} :
    ofNative (String.ofList element) = ⟨.scalar k, false⟩ ↔
      Kind.ofSpelling? (String.ofList element) = some k := by
  obtain ⟨_, _, _, _, ⟨_, _, _, _, first, last⟩, _⟩ := sequenceElement?_eq_some_iff.mp found
  rw [ofNative_eq_scalar_iff, Kind.ofSpelling?_eq_some_iff, trim_ofList,
    trimChars_eq_self first last]

/-- **The recursion ends** for every nesting of sequences, and it ends with what is looked up. -/
theorem byElements_eq_ofNative (native : List Char) :
    byElements native = ofNative (String.ofList native) := by
  fun_induction byElements native with
  | case1 native k spelled => simp only [ofNative, trim_ofList, spelled]
  | case2 native foreign element found ih =>
    rw [ih]
    cases spelled : Kind.ofSpelling? (String.ofList element) with
    | some k =>
      rw [(ofNative_element_eq_scalar_iff found).mpr spelled]
      simp only [ofNative, trim_ofList, String.toList_ofList, foreign, found, spelled, ofElement]
    | none =>
      have other : ∀ k : Kind, ofNative (String.ofList element) ≠ ⟨.scalar k, false⟩ := by
        intro k single
        rw [(ofNative_element_eq_scalar_iff found).mp single] at spelled
        cases spelled
      rw [ofElement_of_ne other]
      simp only [ofNative, trim_ofList, String.toList_ofList, foreign, found, spelled]
  | case3 native foreign missing =>
    simp only [ofNative, trim_ofList, String.toList_ofList, foreign, missing]

/-! ### The main statement -/

/-- **What a native type is mapped to.** The blank characters around it do not count. What is left
is mapped to a single value of a kind exactly if it is a spelling of the kind, and to a list of
values of the kind exactly if it is a sequence around a spelling, with any blank characters between
the brackets. It is passed on as a list exactly if it is a sequence around anything else, by what
stands between the brackets, and as a single value in all other cases, by itself. So a sequence of
sequences is passed on by the text of the inner one, however deeply they are nested, and the
recursion over the elements comes to an end and to the same. -/
theorem ofNative_iff (native : String) :
    byElements native.toList = ofNative native ∧
    ∃ name : String, Trims native.toList name.toList ∧
      (∀ k : Kind, ofNative native = ⟨.scalar k, false⟩ ↔ name ∈ k.spellings) ∧
      (∀ k : Kind, ofNative native = ⟨.scalar k, true⟩ ↔
        ∃ inside spelling, Wraps name inside ∧ Trims inside.toList spelling.toList ∧
          spelling ∈ k.spellings) ∧
      (∀ element, ofNative native = ⟨.unresolved element, true⟩ ↔
        ∃ inside, Wraps name inside ∧ Trims inside.toList element.toList ∧ element ≠ "" ∧
          ∀ k : Kind, element ∉ k.spellings) ∧
      (∀ text, ofNative native = ⟨.unresolved text, false⟩ ↔
        text = name ∧ (∀ k : Kind, name ∉ k.spellings) ∧
          ∀ inside element, Wraps name inside → Trims inside.toList element.toList →
            element = "") ∧
      ∀ inside element deeper, Wraps name inside → Trims inside.toList element.toList →
        Wraps element deeper → ofNative native = ⟨.unresolved element, true⟩ := by
  have recursion : byElements native.toList = ofNative native := by
    rw [byElements_eq_ofNative, String.ofList_toList]
  refine ⟨recursion, trim native, trims_iff.mpr rfl, fun k => ofNative_eq_scalar_iff, fun k => ?_,
    fun element => ?_, fun text => ?_, fun inside element deeper wraps cut nested => ?_⟩
  · rw [ofNative_eq_iff]
    constructor
    · rintro (_ | ⟨wraps, cut, spelled⟩)
      exact ⟨_, _, wraps, cut, spelled⟩
    · rintro ⟨inside, spelling, wraps, cut, spelled⟩
      exact .sequence wraps cut spelled
  · rw [ofNative_eq_iff]
    constructor
    · rintro (_ | _ | ⟨wraps, cut, present, foreign⟩)
      exact ⟨_, wraps, cut, present, foreign⟩
    · rintro ⟨inside, wraps, cut, present, foreign⟩
      exact .element wraps cut present foreign
  · rw [ofNative_eq_iff]
    constructor
    · rintro (_ | _ | _ | ⟨foreign, nothing⟩)
      exact ⟨rfl, foreign, nothing⟩
    · rintro ⟨rfl, foreign, nothing⟩
      exact .other foreign nothing
  · have foreign := Kind.notMem_spellings_of_wraps nested
    exact ofNative_eq_iff.mpr (.element wraps cut nested.ne_empty foreign)

end ColumnType

end TreeWire
