import TreeWire.Proofs.Replacement

/-!
# Expanding a text

A text consists of references and of characters that stay. Reading it from the left, a dollar sign
begins a reference if a name follows it, bare or in braces, and the name is the longest one that can
be read there; every other character stays. Which pieces a text has does not depend on the values of
the variables, and expanding the text puts the values in the places of the references, next to each
other with the characters that stay. So what is put in is not looked at again, and no reference
consists of the end of a value and of the text behind it.

* `TreeWire.Reference.Spelled` – a name that can be read behind a dollar sign;
* `TreeWire.Reference.name?_eq_some_iff`, `TreeWire.Reference.name?_eq_none_iff` – the scanner finds
  the longest one, and none only if there is none;
* `TreeWire.Cut` – **the pieces of a text**;
* `TreeWire.Reference.exists_pieces` – every text is cut in one way, and scanning replaces its
  pieces;
* `TreeWire.expand_pieces` – **the main statement**.
-/

namespace TreeWire

namespace Reference

/-! ### Names behind a dollar sign -/

/-- **A name that can be read** at the front of what follows a dollar sign, bare or in braces, and
the rest. It need not be the longest one. -/
inductive Spelled (name rest : List Char) : List Char → Prop
  /-- A bare name. -/
  | bare : isIdentifierChars name = true → Spelled name rest (name ++ rest)
  /-- A name in braces. -/
  | braced : isIdentifierChars name = true → Spelled name rest ('\x7b' :: (name ++ '\x7d' :: rest))

variable {name rest cs : List Char}

/-- A bare name that is found is an identifier at the front of the text. -/
theorem of_bareName? (read : bareName? cs = some (name, rest)) :
    isIdentifierChars name = true ∧ cs = name ++ rest := by
  simp only [bareName?] at read
  split at read
  · rename_i identifier
    obtain ⟨rfl, rfl⟩ := Prod.mk.inj (Option.some.inj read)
    exact ⟨identifier, List.takeWhile_append_dropWhile.symm⟩
  · cases read

/-- What is found can be read. -/
theorem spelled_of_name? (read : name? cs = some (name, rest)) : Spelled name rest cs := by
  unfold name? at read
  split at read
  · split at read
    · rename_i bare
      obtain ⟨rfl, rfl⟩ := Prod.mk.inj (Option.some.inj read)
      obtain ⟨identifier, rfl⟩ := of_bareName? bare
      exact .braced identifier
    · cases read
  · obtain ⟨identifier, rfl⟩ := of_bareName? read
    exact .bare identifier

/-- An identifier at the front of a text is part of the name that is found there. -/
theorem bareName?_append (identifier : isIdentifierChars name = true) (rest : List Char) :
    bareName? (name ++ rest) =
      some (name ++ rest.takeWhile isWordChar, rest.dropWhile isWordChar) := by
  cases name with
  | nil => cases identifier
  | cons c name =>
    obtain ⟨first, others⟩ := Bool.and_eq_true_iff.mp identifier
    have inside := List.all_eq_true.mp others
    rw [List.cons_append, bareName?_cons, if_pos first, List.takeWhile_append_of_pos inside,
      List.dropWhile_append_of_pos inside, List.cons_append]

/-- An identifier does not begin with a brace. -/
theorem append_ne_brace (identifier : isIdentifierChars name = true) (rest behind : List Char) :
    name ++ rest ≠ '\x7b' :: behind := by
  cases name with
  | nil => cases identifier
  | cons c name =>
    intro same
    obtain ⟨rfl, -⟩ := List.cons.inj same
    have word : isWordChar '\x7b' = true := isWordChar_of_mem identifier List.mem_cons_self
    exact absurd word (by decide)

theorem name?_append (identifier : isIdentifierChars name = true) (rest : List Char) :
    name? (name ++ rest) = bareName? (name ++ rest) := by
  rw [name?]
  exact append_ne_brace identifier rest

/-- **Where a name can be read, one is found** that is at least as long. -/
theorem Spelled.exists_name? (h : Spelled name rest cs) :
    ∃ found behind, name? cs = some (found, behind) ∧ name.length ≤ found.length := by
  cases h with
  | bare identifier =>
    exact ⟨name ++ rest.takeWhile isWordChar, rest.dropWhile isWordChar,
      (name?_append identifier rest).trans (bareName?_append identifier rest), by simp⟩
  | braced identifier =>
    have closed : bareName? (name ++ '\x7d' :: rest) = some (name, '\x7d' :: rest) := by
      rw [bareName?_append identifier]
      simp [isWordChar]
    exact ⟨name, rest, by simp only [name?, closed], Nat.le_refl _⟩

/-- Two names of one length that can be read at one place are the same, and so is what follows. -/
theorem Spelled.unique {other behind : List Char} (h : Spelled name rest cs)
    (h' : Spelled other behind cs) (same : name.length = other.length) :
    name = other ∧ rest = behind := by
  generalize whole : cs = cs' at h'
  cases h with
  | bare identifier =>
    cases h' with
    | bare => exact List.append_inj whole same
    | braced => exact absurd whole (append_ne_brace identifier rest _)
  | braced =>
    cases h' with
    | bare identifier => exact absurd whole.symm (append_ne_brace identifier behind _)
    | braced =>
      obtain ⟨rfl, behind⟩ := List.append_inj (List.cons.inj whole).2 same
      exact ⟨rfl, (List.cons.inj behind).2⟩

/-- **Nothing is found only if no name can be read.** -/
theorem name?_eq_none_iff : name? cs = none ↔ ∀ name rest, ¬ Spelled name rest cs := by
  constructor
  · intro nothing name rest spelled
    obtain ⟨found, behind, read, -⟩ := spelled.exists_name?
    cases nothing.symm.trans read
  · intro nothing
    cases read : name? cs with
    | none => rfl
    | some found => exact absurd (spelled_of_name? read) (nothing _ _)

/-- **What is found is the longest name that can be read.** -/
theorem name?_eq_some_iff : name? cs = some (name, rest) ↔
    Spelled name rest cs ∧
      ∀ other behind, Spelled other behind cs → other.length ≤ name.length := by
  have longest : ∀ {found behind}, name? cs = some (found, behind) →
      ∀ other behind, Spelled other behind cs → other.length ≤ found.length := by
    intro found _ read other behind spelled
    obtain ⟨found', _, read', le⟩ := spelled.exists_name?
    obtain ⟨rfl, -⟩ := Prod.mk.inj (Option.some.inj (read.symm.trans read'))
    exact le
  constructor
  · exact fun read => ⟨spelled_of_name? read, longest read⟩
  · rintro ⟨spelled, most⟩
    obtain ⟨found, behind, read, le⟩ := spelled.exists_name?
    have spelled' := spelled_of_name? read
    obtain ⟨rfl, rfl⟩ := spelled.unique spelled' (Nat.le_antisymm le (most _ _ spelled'))
    exact read

end Reference

/-! ### Pieces -/

/-- **A piece of a text.** -/
inductive Piece where
  /-- A character that stays. -/
  | char (c : Char)
  /-- A reference to a variable. -/
  | named (name : String)

/-- What a piece is replaced by. A variable that is not set has no characters. -/
def Piece.value (lookup : Lookup) : Piece → List Char
  | char c => [c]
  | named name => ((lookup name).getD "").toList

/-- **The pieces of a text**, from the left. -/
inductive Cut : List Char → List Piece → Prop
  /-- The empty text has none. -/
  | nil : Cut [] []
  /-- A character other than a dollar sign stays. -/
  | other {c : Char} {cs : List Char} {pieces : List Piece} : c ≠ '$' → Cut cs pieces →
    Cut (c :: cs) (.char c :: pieces)
  /-- A dollar sign stays if no name can be read behind it. -/
  | lone {cs : List Char} {pieces : List Piece} : (∀ name rest, ¬ Reference.Spelled name rest cs) →
    Cut cs pieces → Cut ('$' :: cs) (.char '$' :: pieces)
  /-- A dollar sign and the longest name that can be read behind it are a reference. -/
  | reference {cs name rest : List Char} {pieces : List Piece} : Reference.Spelled name rest cs →
    (∀ other behind, Reference.Spelled other behind cs → other.length ≤ name.length) →
    Cut rest pieces → Cut ('$' :: cs) (.named (String.ofList name) :: pieces)

namespace Cut

variable {c : Char} {cs name rest : List Char} {pieces : List Piece}

theorem nil_iff : Cut [] pieces ↔ pieces = [] :=
  ⟨fun h => by cases h; rfl, fun h => h ▸ .nil⟩

/-- Only one thing can be done with a character other than a dollar sign. -/
theorem cons_iff (h : c ≠ '$') :
    Cut (c :: cs) pieces ↔ ∃ later, pieces = .char c :: later ∧ Cut cs later := by
  constructor
  · intro cut
    cases cut with
    | other _ cut => exact ⟨_, rfl, cut⟩
    | lone => exact absurd rfl h
    | reference => exact absurd rfl h
  · rintro ⟨later, rfl, cut⟩
    exact .other h cut

/-- Behind a dollar sign without a reference, the pieces are those of what follows it. -/
theorem lone_iff (h : Reference.name? cs = none) :
    Cut ('$' :: cs) pieces ↔ ∃ later, pieces = .char '$' :: later ∧ Cut cs later := by
  constructor
  · intro cut
    cases cut with
    | other ne => exact absurd rfl ne
    | lone _ cut => exact ⟨_, rfl, cut⟩
    | reference spelled => exact absurd spelled (Reference.name?_eq_none_iff.mp h _ _)
  · rintro ⟨later, rfl, cut⟩
    exact .lone (Reference.name?_eq_none_iff.mp h) cut

/-- Behind a reference, the pieces are those of the rest. -/
theorem reference_iff (h : Reference.name? cs = some (name, rest)) :
    Cut ('$' :: cs) pieces ↔
      ∃ later, pieces = .named (String.ofList name) :: later ∧ Cut rest later := by
  constructor
  · intro cut
    cases cut with
    | other ne => exact absurd rfl ne
    | lone nothing => exact absurd (Reference.spelled_of_name? h) (nothing _ _)
    | reference spelled longest cut =>
      have found := Reference.name?_eq_some_iff.mpr ⟨spelled, longest⟩
      obtain ⟨rfl, rfl⟩ := Prod.mk.inj (Option.some.inj (found.symm.trans h))
      exact ⟨_, rfl, cut⟩
  · rintro ⟨later, rfl, cut⟩
    obtain ⟨spelled, longest⟩ := Reference.name?_eq_some_iff.mp h
    exact .reference spelled longest cut

end Cut

/-! ### Scanning -/

/-- **Every text is cut in one way**, and scanning replaces its pieces, whatever the values are. -/
theorem Reference.exists_pieces (cs : List Char) :
    ∃ pieces : List Piece, (∀ others, Cut cs others ↔ others = pieces) ∧
      ∀ lookup, expandChars lookup cs = pieces.flatMap (Piece.value lookup) := by
  induction cs using expandChars.induct with
  | case1 => exact ⟨[], fun _ => Cut.nil_iff, fun lookup => by rw [expandChars]; rfl⟩
  | case2 cs name rest read ih =>
    obtain ⟨pieces, unique, same⟩ := ih
    refine ⟨.named (String.ofList name) :: pieces, fun others => ?_, fun lookup => ?_⟩
    · simp [Cut.reference_iff read, unique]
    · rw [expandChars_of_some lookup read, same lookup]
      rfl
  | case3 cs read ih =>
    obtain ⟨pieces, unique, same⟩ := ih
    refine ⟨.char '$' :: pieces, fun others => ?_, fun lookup => ?_⟩
    · simp [Cut.lone_iff read, unique]
    · rw [expandChars_of_none lookup read, same lookup]
      rfl
  | case4 c cs other ih =>
    obtain ⟨pieces, unique, same⟩ := ih
    refine ⟨.char c :: pieces, fun others => ?_, fun lookup => ?_⟩
    · simp [Cut.cons_iff other, unique]
    · rw [expandChars_of_ne lookup other, same lookup]
      rfl

/-- **Expanding is one pass from the left.** A text is cut into references and characters that stay
in one way, which the values of the variables have no part in. Expanding it is putting the values,
or nothing for a variable that is not set, in the places of the references; and this is what
replacing all that the expression of references matches comes to. -/
theorem expand_pieces (text : String) :
    ∃ pieces : List Piece, (∀ others, Cut text.toList others ↔ others = pieces) ∧
      ∀ lookup : Lookup,
        expand lookup text = String.ofList (pieces.flatMap (Piece.value lookup)) ∧
        expand lookup text = String.ofList
          (Pattern.reference.replaceAll (Pattern.Way.value lookup) text.toList) := by
  obtain ⟨pieces, unique, same⟩ := Reference.exists_pieces text.toList
  refine ⟨pieces, unique, fun lookup => ⟨?_, ?_⟩⟩
  · rw [expand, same lookup]
  · rw [expand, Pattern.replaceAll_reference]

example :
    expand (fun name => if name = "A" then some "$B" else none)
      "$A/$\x7bA\x7dB$$A_x$\x7bA" = "$B/$BB$$\x7bA" := by decide +kernel

end TreeWire
