import TreeWire.Proofs.FieldName

/-!
# Normal names

Making the name of a field is bringing the name of a branch into a normal form. The normal names are
the identifiers in small letters that do not end with an underscore, and the single underscore.
Whatever a branch is called, the name that is made of it is normal, and a name is left alone exactly
if it is normal already. So a branch that is named like a field gets a field of its own name.

A name is made in three steps. Joining the words lets underscores stand next to each other where
they are written so, and at the end; dropping those at the end may leave nothing, or a digit in
front; and the last step mends both. On a normal name each of the three steps does nothing.

* `TreeWire.IsNormal` – **normal names**;
* `TreeWire.joinWords_eq_self`, `TreeWire.dropUnderscores_eq_self` – what the two steps leave alone;
* `TreeWire.isNormal_fieldNameChars` – names that are made are normal;
* `TreeWire.fieldNameChars_eq_self` – normal names are left alone;
* `TreeWire.fieldName_normal` – **the main statement**.
-/

namespace TreeWire

/-- **A normal name**: an identifier without capital letters that ends with an underscore only if
it is a single one. -/
structure IsNormal (name : List Char) : Prop extends IsName name where
  /-- An underscore at the end is all there is. -/
  last : name.getLast? = some '_' → name = ['_']

/-- A character of a name is a small letter, a digit or an underscore. -/
theorem isNameChar_iff {c : Char} :
    isNameChar c = true ↔ c.isLower = true ∨ c.isDigit = true ∨ c = '_' := by
  constructor
  · intro h
    simp only [isNameChar, isWordChar_eq, Bool.and_eq_true, Bool.or_eq_true, Bool.not_eq_true',
      beq_iff_eq] at h
    obtain ⟨((upper | lower) | digit) | underscore, small⟩ := h
    · simp [upper] at small
    · exact Or.inl lower
    · exact Or.inr (Or.inl digit)
    · exact Or.inr (Or.inr underscore)
  · rintro (lower | digit | rfl)
    · exact isNameChar_of_isLower lower
    · exact isNameChar_of_isDigit digit
    · decide

namespace IsName

variable {cs : List Char}

/-- A name begins with a character that is no digit. -/
theorem exists_cons (h : IsName cs) : ∃ c rest, cs = c :: rest ∧ c.isDigit = false := by
  cases cs with
  | nil => exact absurd h.identifier (by decide)
  | cons c rest =>
    refine ⟨c, rest, rfl, ?_⟩
    have first := (Bool.and_eq_true_iff.mp h.identifier).1
    rw [Bool.eq_false_iff, ne_eq, isDigit_iff]
    simp only [isAlpha_eq, Bool.or_eq_true, isUpper_iff, isLower_iff, beq_iff_eq] at first
    rcases first with (upper | lower) | rfl
    · omega
    · omega
    · decide

/-- A name is spelled in such characters. -/
theorem isNameChar_of_mem (h : IsName cs) {c : Char} (mem : c ∈ cs) : isNameChar c = true := by
  have word := isWordChar_of_mem h.identifier mem
  simp [isNameChar, word, h.small c mem]

end IsName

/-! ### What the two steps leave alone -/

/-- Words in small letters are joined already. -/
theorem joinWords_eq_self {cs : List Char} (spelled : ∀ c ∈ cs, isNameChar c = true)
    (previous : Option Char) (pending : Bool) : joinWords previous pending cs = cs := by
  induction cs generalizing previous pending with
  | nil => rfl
  | cons c cs ih =>
    have first := spelled c (by simp)
    simp only [isNameChar, Bool.and_eq_true, Bool.not_eq_true'] at first
    rw [joinWords, if_neg (by simp [first.2]), if_pos first.1,
      ih fun d hd => spelled d (by simp [hd])]

/-- No underscore is left at the end. -/
theorem getLast?_dropUnderscores (cs : List Char) : (dropUnderscores cs).getLast? ≠ some '_' := by
  rw [dropUnderscores, List.getLast?_reverse]
  intro underscore
  have other := List.head?_dropWhile_not (· == '_') cs.reverse
  rw [underscore] at other
  cases other

/-- A text that does not end with an underscore keeps all its characters. -/
theorem dropUnderscores_eq_self {cs : List Char} (h : cs.getLast? ≠ some '_') :
    dropUnderscores cs = cs := by
  rw [dropUnderscores]
  cases back : cs.reverse with
  | nil => rw [List.reverse_eq_nil_iff.mp back]; rfl
  | cons c rest =>
    have last : cs.getLast? = some c := by rw [← List.head?_reverse, back]; rfl
    have other : ¬ (c == '_') = true := by
      rw [beq_iff_eq]
      rintro rfl
      exact h last
    rw [List.dropWhile_cons_of_neg (p := (· == '_')) other, ← back, List.reverse_reverse]

/-! ### Names that are made -/

/-- **A name that is made is normal.** -/
theorem isNormal_fieldNameChars (cs : List Char) : IsNormal (fieldNameChars cs) := by
  have name : IsName (fieldNameChars cs) := by
    simpa [fieldName] using isName_fieldName (String.ofList cs)
  refine ⟨name, fun underscore => ?_⟩
  rw [fieldNameChars] at underscore ⊢
  have kept := getLast?_dropUnderscores (joinWords none true cs)
  cases joined : dropUnderscores (joinWords none true cs) with
  | nil =>
    simp only [joined] at underscore ⊢
    split at underscore
    · cases underscore
    · rename_i some
      rw [if_neg some]
  | cons c rest =>
    rw [joined] at kept
    simp only [joined] at underscore
    -- what is put in front of a digit does not change the end
    split at underscore
    · simp only [List.getLast?_cons_cons] at underscore
      exact absurd underscore kept
    · exact absurd underscore kept

/-- **A normal name is left alone.** -/
theorem fieldNameChars_eq_self {cs : List Char} (h : IsNormal cs) : fieldNameChars cs = cs := by
  have joined : joinWords none true cs = cs :=
    joinWords_eq_self (fun c => h.isNameChar_of_mem) none true
  rw [fieldNameChars, joined]
  by_cases underscore : cs.getLast? = some '_'
  · rw [h.last underscore]
    rfl
  · obtain ⟨c, rest, rfl, letter⟩ := h.exists_cons
    simp only [dropUnderscores_eq_self underscore, letter]
    rfl

/-- **The names of fields are normal**, whatever the branches are called: a name that is made is an
identifier of small letters, digits and underscores, which ends with an underscore only if it is a
single one, and making a name of it again changes nothing. The names that are left alone are exactly
those of this sort. -/
theorem fieldName_normal (branch : String) :
    isIdentifier (fieldName branch) = true ∧
    (∀ c ∈ (fieldName branch).toList, c.isLower = true ∨ c.isDigit = true ∨ c = '_') ∧
    ((fieldName branch).toList.getLast? = some '_' → fieldName branch = "_") ∧
    fieldName (fieldName branch) = fieldName branch ∧
    ∀ name, fieldName name = name ↔ IsNormal name.toList := by
  have normal : ∀ name, IsNormal (fieldName name).toList := fun name => by
    rw [fieldName, String.toList_ofList]
    exact isNormal_fieldNameChars name.toList
  have alone : ∀ {name : String}, IsNormal name.toList → fieldName name = name := fun h => by
    rw [fieldName, fieldNameChars_eq_self h, String.ofList_toList]
  refine ⟨(normal branch).identifier, fun c mem => ?_, fun underscore => ?_, alone (normal branch),
    fun name => ⟨fun same => same ▸ normal name, alone⟩⟩
  · exact isNameChar_iff.mp ((normal branch).isNameChar_of_mem mem)
  · exact String.toList_inj.mp ((normal branch).last underscore)

end TreeWire
