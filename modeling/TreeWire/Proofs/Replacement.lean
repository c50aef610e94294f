import Mathlib.Data.List.TakeWhile
import TreeWire.Environment.Reference
import TreeWire.Regex

/-!
# Replacing what an expression matches

What a reference is can be said by one regular expression: a dollar sign, and after it a name that
stands in braces, or else a name. Texts are expanded without one, by a scanner that is made for this
purpose. This file says what replacing all that an expression matches is, and that for the
expression of references it is what the scanner does.

An expression may match the front of a text in many ways, and which one counts is a matter of order:
a longer run comes before a shorter one, and the first of two alternatives before the second. Here
an expression is understood as the list of all its ways in that order, so that going back to a
shorter run is going on in the list. For references going back never helps, since a run of a name
that is cut short is followed by a character of names and not by a closing brace.

* `TreeWire.Pattern`, `TreeWire.Pattern.ways` – expressions with groups and alternatives, and **the
  ways they match** the front of a text, in order;
* `TreeWire.Pattern.replaceAll` – replacing what an expression matches, from the left;
* `TreeWire.Pattern.reference` – the expression of references;
* `TreeWire.Pattern.head?_ways_reference` – the first way it matches is what the scanner finds;
* `TreeWire.Pattern.replaceAll_reference` – **replacing all references is scanning once**.
-/

namespace TreeWire

/-- **The name at the front of a text** begins with its first character or not at all. -/
theorem Reference.bareName?_cons (c : Char) (cs : List Char) :
    bareName? (c :: cs) =
      if c.isAlpha || c == '_' then some (c :: cs.takeWhile isWordChar, cs.dropWhile isWordChar)
      else none := by
  rw [bareName?]
  by_cases first : (c.isAlpha || c == '_') = true
  · have inside := isWordChar_of_first first
    have all : (cs.takeWhile isWordChar).all isWordChar = true :=
      List.all_eq_true.mpr fun d => List.mem_takeWhile_imp
    simp only [List.takeWhile_cons_of_pos inside, List.dropWhile_cons_of_pos inside,
      isIdentifierChars, first, all, Bool.and_self, if_true]
  · rw [if_neg first]
    refine if_neg ?_
    by_cases inside : isWordChar c = true
    · simp [List.takeWhile_cons_of_pos inside, isIdentifierChars, first]
    · simp [List.takeWhile_cons_of_neg inside, isIdentifierChars]

/-- **An expression** whose parts can be kept and can be alternatives. -/
inductive Pattern where
  /-- One character. -/
  | once (a : Regex.Atom)
  /-- A run of characters, as long as possible. -/
  | run (a : Regex.Atom)
  /-- An expression, with a number under which its match is kept. -/
  | group (number : Nat) (p : Pattern)
  /-- One expression and then another. -/
  | both (p q : Pattern)
  /-- One expression or, if that does not work, another. -/
  | either (p q : Pattern)

namespace Pattern

/-- **A way** to match the front of a text. -/
structure Way where
  /-- The front that is matched. -/
  taken : List Char
  /-- What the groups keep of it. -/
  kept : List (Nat × List Char)
  /-- The rest of the text. -/
  rest : List Char

/-- One way and then another. -/
def Way.append (v w : Way) : Way := ⟨v.taken ++ w.taken, v.kept ++ w.kept, w.rest⟩

/-- The ways to match the front of a text by a run, the longest first. -/
def runWays (a : Regex.Atom) : List Char → List Way
  | [] => [⟨[], [], []⟩]
  | c :: cs =>
    if a.holds c then (runWays a cs).map (Way.append ⟨[c], [], cs⟩) ++ [⟨[], [], c :: cs⟩]
    else [⟨[], [], c :: cs⟩]

/-- **The ways to match the front of a text**, the preferred ones first. -/
def ways : Pattern → List Char → List Way
  | once _, [] => []
  | once a, c :: cs => if a.holds c then [⟨[c], [], cs⟩] else []
  | run a, cs => runWays a cs
  | group number p, cs => (p.ways cs).map fun w => ⟨w.taken, (number, w.taken) :: w.kept, w.rest⟩
  | both p q, cs => (p.ways cs).flatMap fun v => (q.ways v.rest).map v.append
  | either p q, cs => p.ways cs ++ q.ways cs

/-- **Replacing what an expression matches**: at each place that is reached, the first way counts,
and what is put in for it is not looked at again. A way has to take something. -/
def replaceAll (p : Pattern) (value : Way → List Char) : List Char → List Char
  | [] => []
  | c :: cs =>
    match (p.ways (c :: cs)).head? with
    | some w =>
      if w.rest.length < (c :: cs).length then value w ++ replaceAll p value w.rest
      else c :: replaceAll p value cs
    | none => c :: replaceAll p value cs
termination_by cs => cs.length
decreasing_by
  · assumption
  · simp
  · simp

/-! ### The expression of references -/

/-- What a name begins with. -/
def letter : Regex.Atom := .oneOf false [⟨'A', 'Z'⟩, ⟨'a', 'z'⟩, ⟨'_', '_'⟩]

/-- What a name goes on with. -/
def word : Regex.Atom := .oneOf false [⟨'A', 'Z'⟩, ⟨'a', 'z'⟩, ⟨'0', '9'⟩, ⟨'_', '_'⟩]

/-- A name, which is kept under a number. -/
def name (number : Nat) : Pattern := .group number (.both (.once letter) (.run word))

/-- A name in braces. -/
def braced : Pattern :=
  .both (.once (.literal '\x7b')) (.both (name 1) (.once (.literal '\x7d')))

/-- **The expression of references.** -/
def reference : Pattern := .both (.once (.literal '$')) (.either braced (name 2))

/-- The name that a way to match a reference keeps. -/
def Way.name (w : Way) : List Char := ((w.kept.lookup 1).or (w.kept.lookup 2)).getD []

/-- What a way to match a reference finds: the name and the rest of the text. -/
def Way.found (w : Way) : List Char × List Char := (w.name, w.rest)

/-- What a way to match a reference is replaced by. -/
def Way.value (lookup : Lookup) (w : Way) : List Char :=
  ((lookup (String.ofList w.name)).getD "").toList

/-! ### Characters -/

/-- The range from a character to itself. -/
theorem holds_single (d c : Char) : Regex.Range.holds ⟨d, d⟩ c = (c == d) := by
  rw [Regex.Range.holds, Bool.eq_iff_iff, Bool.and_eq_true, decide_eq_true_eq, decide_eq_true_eq,
    beq_iff_eq]
  exact ⟨fun h => Char.le_antisymm h.2 h.1, fun h => h ▸ ⟨Char.le_refl _, Char.le_refl _⟩⟩

theorem holds_upper (c : Char) : Regex.Range.holds ⟨'A', 'Z'⟩ c = c.isUpper :=
  (Bool.decide_and _ _).symm

theorem holds_lower (c : Char) : Regex.Range.holds ⟨'a', 'z'⟩ c = c.isLower := rfl

theorem holds_digit (c : Char) : Regex.Range.holds ⟨'0', '9'⟩ c = c.isDigit := rfl

theorem holds_letter (c : Char) : letter.holds c = (c.isAlpha || c == '_') := by
  simp [letter, Regex.Atom.holds, holds_single, holds_upper, holds_lower, isAlpha_eq,
    Bool.or_assoc]

theorem holds_word (c : Char) : word.holds c = isWordChar c := by
  simp [word, Regex.Atom.holds, holds_single, holds_upper, holds_lower, holds_digit,
    isWordChar_eq, Bool.or_assoc]

/-! ### Names -/

/-- **The ways of a run**: first the longest one, and each of the others stops in front of a
character that the run could have taken. -/
theorem exists_runWays (a : Regex.Atom) (cs : List Char) :
    ∃ shorter, runWays a cs = ⟨cs.takeWhile a.holds, [], cs.dropWhile a.holds⟩ :: shorter ∧
      ∀ w ∈ shorter, ∃ c rest, w.rest = c :: rest ∧ a.holds c = true := by
  induction cs with
  | nil => exact ⟨[], rfl, nofun⟩
  | cons c cs ih =>
    obtain ⟨shorter, longest, stops⟩ := ih
    rw [runWays]
    split
    · rename_i holds
      refine ⟨shorter.map (Way.append ⟨[c], [], cs⟩) ++ [⟨[], [], c :: cs⟩], ?_, ?_⟩
      · rw [longest, List.takeWhile_cons_of_pos holds, List.dropWhile_cons_of_pos holds]
        rfl
      · intro w mem
        rcases List.mem_append.mp mem with mem | mem
        · obtain ⟨v, among, rfl⟩ := List.mem_map.mp mem
          exact stops v among
        · obtain rfl := List.mem_singleton.mp mem
          exact ⟨c, cs, rfl, holds⟩
    · rename_i other
      exact ⟨[], by rw [List.takeWhile_cons_of_neg other, List.dropWhile_cons_of_neg other], nofun⟩

/-- There is no way to match a name where none stands. -/
theorem ways_name_of_none {cs : List Char} (h : Reference.bareName? cs = none) (number : Nat) :
    (name number).ways cs = [] := by
  cases cs with
  | nil => rfl
  | cons c cs =>
    rw [Reference.bareName?_cons] at h
    have other : ¬ letter.holds c = true := by
      rw [holds_letter]
      intro first
      rw [if_pos first] at h
      cases h
    simp [name, ways, other]

/-- **The ways to match a name**: first the name as long as it goes, and each of the others stops
inside of it. -/
theorem exists_ways_name {cs found rest : List Char}
    (h : Reference.bareName? cs = some (found, rest)) (number : Nat) :
    ∃ shorter, (name number).ways cs = ⟨found, [(number, found)], rest⟩ :: shorter ∧
      ∀ w ∈ shorter, ∃ c later, w.rest = c :: later ∧ isWordChar c = true := by
  cases cs with
  | nil => cases h
  | cons c cs =>
    rw [Reference.bareName?_cons] at h
    split at h
    · rename_i first
      obtain ⟨rfl, rfl⟩ := Prod.mk.inj (Option.some.inj h)
      obtain ⟨shorter, longest, stops⟩ := exists_runWays word cs
      have holds : letter.holds c = true := (holds_letter c).trans first
      simp only [funext holds_word] at longest stops
      refine ⟨shorter.map fun w => ⟨c :: w.taken, (number, c :: w.taken) :: w.kept, w.rest⟩,
        ?_, ?_⟩
      · simp [name, ways, holds, longest, Way.append]
      · intro w mem
        obtain ⟨v, among, rfl⟩ := List.mem_map.mp mem
        exact stops v among
    · cases h

/-! ### References -/

/-- A bare name is found as it stands. -/
theorem head?_ways_name (cs : List Char) :
    ((name 2).ways cs).head?.map Way.found = Reference.bareName? cs := by
  cases h : Reference.bareName? cs with
  | none => rw [ways_name_of_none h]; rfl
  | some found =>
    obtain ⟨shorter, longest, -⟩ := exists_ways_name h 2
    rw [longest]
    rfl

/-- **A name in braces** is found if the brace follows the name that goes as far as possible. -/
theorem head?_ways_braced (cs : List Char) :
    (braced.ways ('\x7b' :: cs)).head?.map Way.found = Reference.name? ('\x7b' :: cs) := by
  have opened : braced.ways ('\x7b' :: cs) =
      ((both (name 1) (once (.literal '\x7d'))).ways cs).map (Way.append ⟨['\x7b'], [], cs⟩) := by
    simp [braced, ways, Regex.Atom.holds]
  rw [opened, Reference.name?, ways]
  cases h : Reference.bareName? cs with
  | none => rw [ways_name_of_none h]; rfl
  | some found =>
    obtain ⟨found, rest⟩ := found
    obtain ⟨shorter, longest, stops⟩ := exists_ways_name h 1
    -- no shorter name is followed by a brace
    have inside : (shorter.flatMap fun v =>
        ((once (.literal '\x7d')).ways v.rest).map v.append) = [] := by
      refine List.flatMap_eq_nil_iff.mpr fun v among => ?_
      obtain ⟨c, later, stop, word⟩ := stops v among
      have other : ¬ c = '\x7d' := by
        rintro rfl
        exact absurd word (by decide)
      simp [stop, ways, Regex.Atom.holds, other]
    rw [longest, List.flatMap_cons, inside, List.append_nil]
    cases rest with
    | nil => rfl
    | cons d rest =>
      by_cases closed : d = '\x7d'
      · subst closed
        rfl
      · simp [ways, Regex.Atom.holds, closed]

/-- Away from a dollar sign there is no way to match a reference. -/
theorem ways_reference_of_ne {c : Char} (h : c ≠ '$') (cs : List Char) :
    reference.ways (c :: cs) = [] := by
  simp [reference, ways, Regex.Atom.holds, h]

/-- **What the first way to match a reference finds is what the scanner finds.** -/
theorem head?_ways_reference (cs : List Char) :
    (reference.ways ('$' :: cs)).head?.map Way.found = Reference.name? cs := by
  have behind : reference.ways ('$' :: cs) =
      (braced.ways cs ++ (name 2).ways cs).map (Way.append ⟨['$'], [], cs⟩) := by
    simp [reference, ways, Regex.Atom.holds]
  have found : (Way.found ∘ Way.append ⟨['$'], [], cs⟩) = Way.found := rfl
  rw [behind, List.head?_map, Option.map_map, found, List.head?_append]
  cases cs with
  | nil => rfl
  | cons c cs =>
    by_cases brace : c = '\x7b'
    · subst brace
      have bare : (name 2).ways ('\x7b' :: cs) = [] := ways_name_of_none rfl 2
      rw [bare, List.head?_nil, Option.or_none, head?_ways_braced]
    · have none : braced.ways (c :: cs) = [] := by simp [braced, ways, Regex.Atom.holds, brace]
      rw [none, List.head?_nil, Option.none_or, head?_ways_name, Reference.name?_of_ne brace]

/-- **Replacing all references is scanning once.** -/
theorem replaceAll_reference (lookup : Lookup) (cs : List Char) :
    reference.replaceAll (Way.value lookup) cs = Reference.expandChars lookup cs := by
  induction cs using Reference.expandChars.induct with
  | case1 => rw [replaceAll, Reference.expandChars]
  | case2 cs name rest read ih =>
    have first := head?_ways_reference cs
    rw [read] at first
    obtain ⟨w, front, found⟩ := Option.map_eq_some_iff.mp first
    obtain ⟨rfl, rfl⟩ := Prod.mk.inj found
    have less : w.rest.length < ('$' :: cs).length :=
      Nat.lt_succ_of_le (Reference.length_of_name? read)
    rw [Reference.expandChars_of_some lookup read, ← ih, replaceAll]
    simp only [front, less, if_true]
    rfl
  | case3 cs read ih =>
    have first := head?_ways_reference cs
    rw [read, Option.map_eq_none_iff] at first
    rw [Reference.expandChars_of_none lookup read, ← ih, replaceAll]
    simp only [first]
  | case4 c cs other ih =>
    rw [Reference.expandChars_of_ne lookup other, ← ih, replaceAll, ways_reference_of_ne other]
    rfl

end Pattern

end TreeWire
