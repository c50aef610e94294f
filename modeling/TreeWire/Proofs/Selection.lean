import Mathlib.Data.List.TakeWhile
import TreeWire.Selection
import TreeWire.Proofs.Glob

/-!
# What a selection selects

The text of a selection falls into pieces at its commas. A piece without the blank characters around
it is an entry, and an entry that is not empty is a sign with a glob. This file says which names are
selected by a list of entries: the sign of the last entry that applies to the name decides, and if
there is no such entry, a name is selected exactly if no entry includes. Reading and deciding a
selection does that for every text and every name.

The decision is a fold over the rules. One more rule at the end of a list overrules all rules in
front of it if it matches, and changes nothing if it does not. That is the step of an induction from
the end of the list, and the place of the last rule that matches comes out of it.

* `TreeWire.Selection.Trims`, `TreeWire.Selection.Signs` – entries and their signs;
* `TreeWire.Selection.Applies` – when an entry applies to a name;
* `TreeWire.Selection.Selects` – the names that a list of entries selects;
* `TreeWire.Selection.accepts_parse_iff` – **a selection selects** what its entries select.
-/

namespace TreeWire

namespace Selection

/-! ### Entries -/

/-- **Cutting a piece**: the blank characters at both of its ends are left out. -/
def Trims (piece entry : List Char) : Prop :=
  ∃ left right, piece = left ++ entry ++ right ∧ (∀ c ∈ left ++ right, isBlank c = true) ∧
    (∀ c ∈ entry.head?, isBlank c = false) ∧ ∀ c ∈ entry.getLast?, isBlank c = false

/-- **The entries of a text**, those that are empty left out. -/
def Entries (text : List Char) (entries : List (List Char)) : Prop :=
  ∃ pieces cut, [','].intercalate pieces = text ∧ (∀ piece ∈ pieces, ',' ∉ piece) ∧
    List.Forall₂ Trims pieces cut ∧ entries = cut.filter (· ≠ [])

/-- **Signs**: a plus includes and a minus excludes what the glob behind it matches. An entry
without a sign is a glob, and it includes. -/
inductive Signs : List Char → Bool → List Char → Prop
  /-- A plus in front of a glob. -/
  | plus {glob : List Char} : Signs ('+' :: glob) true glob
  /-- A minus in front of a glob. -/
  | minus {glob : List Char} : Signs ('-' :: glob) false glob
  /-- A glob alone. -/
  | bare {glob : List Char} : glob.head? ≠ some '+' → glob.head? ≠ some '-' → Signs glob true glob

/-- An entry has one sign and one glob. -/
theorem Signs.unique {entry glob glob' : List Char} {sign sign' : Bool}
    (h : Signs entry sign glob) (h' : Signs entry sign' glob') : sign' = sign ∧ glob' = glob := by
  cases h with
  | plus =>
    cases h' with
    | plus => exact ⟨rfl, rfl⟩
    | bare noPlus _ => exact absurd rfl noPlus
  | minus =>
    cases h' with
    | minus => exact ⟨rfl, rfl⟩
    | bare _ noMinus => exact absurd rfl noMinus
  | bare noPlus noMinus =>
    cases h' with
    | plus => exact absurd rfl noPlus
    | minus => exact absurd rfl noMinus
    | bare _ _ => exact ⟨rfl, rfl⟩

/-! ### Names -/

/-- **An entry applies to a name** if its text behind the sign is a glob, which matches in full some
leading part of the name. -/
def Applies (entry : List Char) (name : String) : Prop :=
  ∃ sign glob, Signs entry sign glob ∧ ∃ g, g ≠ [] ∧ Glob.Spells glob g ∧
    ∃ front rest, name.toList = front ++ rest ∧ Glob.Matches g front

/-- **An entry includes**, whether or not its text behind the sign is a glob. -/
def Includes (entry : List Char) : Prop := ∃ glob, Signs entry true glob

/-- **The names that a list of entries selects**: the last entry that applies to the name includes,
or no entry applies to it and no entry includes. -/
def Selects (entries : List (List Char)) (name : String) : Prop :=
  (∃ before entry after, entries = before ++ entry :: after ∧ Applies entry name ∧
      (∀ e ∈ after, ¬ Applies e name) ∧ Includes entry) ∨
    ((∀ e ∈ entries, ¬ Applies e name) ∧ ∀ e ∈ entries, ¬ Includes e)

/-! ### Reading -/

/-- What is left of a text without the blank characters at its front begins with another one. -/
theorem isBlank_head?_dropWhile {l : List Char} {c : Char}
    (h : c ∈ (l.dropWhile isBlank).head?) : isBlank c = false := by
  have first := List.head?_dropWhile_not isBlank l
  rwa [Option.mem_def.mp h] at first

theorem trims_trimChars (piece : List Char) : Trims piece (trimChars piece) := by
  have behind : piece.dropWhile isBlank =
      trimChars piece ++ ((piece.dropWhile isBlank).reverse.takeWhile isBlank).reverse := by
    rw [trimChars, ← List.reverse_append, List.takeWhile_append_dropWhile, List.reverse_reverse]
  refine ⟨piece.takeWhile isBlank, ((piece.dropWhile isBlank).reverse.takeWhile isBlank).reverse,
    ?_, ?_, ?_, ?_⟩
  · rw [List.append_assoc, ← behind, List.takeWhile_append_dropWhile]
  · intro c mem
    rcases List.mem_append.mp mem with mem | mem
    · exact List.mem_takeWhile_imp mem
    · exact List.mem_takeWhile_imp (List.mem_reverse.mp mem)
  · intro c mem
    refine isBlank_head?_dropWhile (l := piece) ?_
    rw [behind, List.head?_append, Option.mem_def.mp mem]
    rfl
  · intro c mem
    rw [trimChars, List.getLast?_reverse] at mem
    exact isBlank_head?_dropWhile mem

/-- **The entries that are read** are those of the text. -/
theorem exists_entries_of_parse (spec : String) :
    ∃ entries, Entries spec.toList entries ∧ (parse spec).rules = entries.map Rule.ofEntry := by
  refine ⟨_, ⟨splitAtChar ',' spec.toList, _, intercalate_splitAtChar ',' spec.toList,
    fun _ => separator_notMem_of_mem_splitAtChar, ?_, rfl⟩, rfl⟩
  rw [List.forall₂_map_right_iff, List.forall₂_same]
  exact fun piece _ => trims_trimChars piece

/-- **The rule of an entry** has its sign and its glob. -/
theorem signs_ofEntry (entry : List Char) :
    Signs entry (Rule.ofEntry entry).selects (Rule.ofEntry entry).text.toList := by
  simp only [Rule.ofEntry]
  split
  next glob => simpa using Signs.plus
  next glob => simpa using Signs.minus
  next noPlus noMinus =>
    rw [String.toList_ofList]
    refine .bare ?_ ?_
    · intro plus
      obtain ⟨glob, same⟩ := List.head?_eq_some_iff.mp plus
      exact noPlus glob same
    · intro minus
      obtain ⟨glob, same⟩ := List.head?_eq_some_iff.mp minus
      exact noMinus glob same

theorem pattern_ofEntry (entry : List Char) :
    (Rule.ofEntry entry).pattern = Glob.compile? (Rule.ofEntry entry).text := rfl

/-- **A rule includes** exactly if its entry does. -/
theorem selects_ofEntry_iff {entry : List Char} :
    (Rule.ofEntry entry).selects = true ↔ Includes entry := by
  constructor
  · intro includes
    exact ⟨_, includes ▸ signs_ofEntry entry⟩
  · rintro ⟨glob, included⟩
    exact ((signs_ofEntry entry).unique included).1.symm

/-- **A rule matches a name** exactly if its entry applies to the name. -/
theorem holds_ofEntry_iff {entry : List Char} {name : String} :
    (Rule.ofEntry entry).holds name = true ↔ Applies entry name := by
  rw [Rule.holds, pattern_ofEntry, Glob.compile?_eq]
  constructor
  · intro matched
    cases read : Glob.parse? (Rule.ofEntry entry).text with
    | none =>
      rw [read] at matched
      cases matched
    | some g =>
      rw [read] at matched
      obtain ⟨present, written⟩ := Glob.parse?_eq_some_iff.mp read
      exact ⟨_, _, signs_ofEntry entry, g, present, written, Glob.isMatch_regex_iff.mp matched⟩
  · rintro ⟨sign, glob, signed, g, present, written, matched⟩
    obtain ⟨-, rfl⟩ := (signs_ofEntry entry).unique signed
    rw [Glob.parse?_eq_some_iff.mpr ⟨present, written⟩]
    exact Glob.isMatch_regex_iff.mpr matched

/-! ### The decision -/

/-- **The last rule that matches overrules** all other rules and what is decided without a rule. -/
theorem foldl_overrules_iff {α : Type} {p v : α → Bool} {d : Bool} {l : List α} :
    l.foldl (fun decision a => if p a then v a else decision) d = true ↔
      (∃ before a after, l = before ++ a :: after ∧ p a = true ∧ (∀ b ∈ after, ¬ p b = true) ∧
          v a = true) ∨
        ((∀ a ∈ l, ¬ p a = true) ∧ d = true) := by
  induction l generalizing d with
  | nil => simp
  | cons a l ih =>
    rw [List.foldl_cons, ih]
    constructor
    · rintro (⟨before, b, after, rfl, last⟩ | ⟨none, decided⟩)
      · exact Or.inl ⟨a :: before, b, after, rfl, last⟩
      · by_cases here : p a = true
        · rw [if_pos here] at decided
          exact Or.inl ⟨[], a, l, rfl, here, none, decided⟩
        · rw [if_neg here] at decided
          exact Or.inr ⟨List.forall_mem_cons.mpr ⟨here, none⟩, decided⟩
    · rintro (⟨before, b, after, whole, here, none, decided⟩ | ⟨none, decided⟩)
      · cases before with
        | nil =>
          obtain ⟨rfl, rfl⟩ := List.cons.inj whole
          exact Or.inr ⟨none, by rwa [if_pos here]⟩
        | cons c before =>
          obtain ⟨rfl, rfl⟩ := List.cons.inj whole
          exact Or.inl ⟨before, b, after, rfl, here, none, decided⟩
      · obtain ⟨here, none⟩ := List.forall_mem_cons.mp none
        exact Or.inr ⟨none, by rwa [if_neg here]⟩

/-- **A selection selects what its entries select**: it accepts a name exactly if the last entry
that applies to the name includes, or if no entry applies to it and no entry includes. -/
theorem accepts_parse_iff (spec : String) :
    ∃ entries, Entries spec.toList entries ∧
      ∀ name, (parse spec).accepts name = true ↔ Selects entries name := by
  obtain ⟨entries, split, rules⟩ := exists_entries_of_parse spec
  refine ⟨entries, split, fun name => ?_⟩
  have others : (parse spec).acceptsOthers = true ↔ ∀ e ∈ entries, ¬ Includes e := by
    simp [acceptsOthers, rules, ← selects_ofEntry_iff]
  rw [accepts, rules, List.foldl_map, foldl_overrules_iff, others]
  simp only [holds_ofEntry_iff, selects_ofEntry_iff]
  rfl

end Selection

end TreeWire
