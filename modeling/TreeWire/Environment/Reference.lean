import TreeWire.Identifier

/-!
# References to variables

A dollar sign with a name after it, bare or in braces, stands for the value of a variable, or for
nothing if the variable is not set. A text is expanded in one pass from the left: a name is taken
as long as it goes, values are not looked at again, and a dollar sign that starts no reference
stays.

* `TreeWire.Reference.name?` – the reference at the front of what follows a dollar sign;
* `TreeWire.expand` – a text with its references replaced.
-/

namespace TreeWire

/-- The values of the variables that are set. -/
abbrev Lookup := String → Option String

namespace Reference

/-- The name at the front of a text, as long as it goes, and the rest. -/
def bareName? (cs : List Char) : Option (List Char × List Char) :=
  let name := cs.takeWhile isWordChar
  if isIdentifierChars name then some (name, cs.dropWhile isWordChar) else none

/-- The name of a reference, given what follows the dollar sign, and the rest. -/
def name? : List Char → Option (List Char × List Char)
  | '\x7b' :: r =>
    match bareName? r with
    | some (name, '\x7d' :: rest) => some (name, rest)
    | _ => none
  | r => bareName? r

/-- Without a brace the name is a bare one. -/
theorem name?_of_ne {c : Char} (other : c ≠ '\x7b') (cs : List Char) :
    name? (c :: cs) = bareName? (c :: cs) := by
  rw [name?]
  exact fun r same => other (List.cons.inj same).1

theorem length_of_bareName? {cs name rest : List Char} (h : bareName? cs = some (name, rest)) :
    rest.length ≤ cs.length := by
  simp only [bareName?] at h
  split at h
  · injection h with h
    injection h with _ h
    rw [← h]
    exact (List.dropWhile_sublist _).length_le
  · cases h

/-- What follows a reference is no longer than what follows its dollar sign. -/
theorem length_of_name? {cs name rest : List Char} (h : name? cs = some (name, rest)) :
    rest.length ≤ cs.length := by
  unfold name? at h
  split at h
  · split at h
    · rename_i hb
      injection h with h
      injection h with _ h
      have := length_of_bareName? hb
      subst h
      simp only [List.length_cons] at this ⊢
      omega
    · cases h
  · exact length_of_bareName? h

/-- The characters of a text with its references replaced. -/
def expandChars (lookup : Lookup) : List Char → List Char
  | [] => []
  | c :: cs =>
    if c = '$' then
      match _h : name? cs with
      | some (name, rest) =>
        ((lookup (String.ofList name)).getD "").toList ++ expandChars lookup rest
      | none => '$' :: expandChars lookup cs
    else c :: expandChars lookup cs
termination_by cs => cs.length
decreasing_by
  · have := length_of_name? _h
    simp only [List.length_cons]
    omega
  · simp
  · simp

section Scanning

variable (lookup : Lookup) {c : Char} {cs name rest : List Char}

/-- A reference is replaced by a value, and scanning goes on behind it. -/
theorem expandChars_of_some (read : name? cs = some (name, rest)) :
    expandChars lookup ('$' :: cs) =
      ((lookup (String.ofList name)).getD "").toList ++ expandChars lookup rest := by
  rw [expandChars, if_pos rfl]
  split
  · rename_i found
    obtain ⟨rfl, rfl⟩ := Prod.mk.inj (Option.some.inj (found.symm.trans read))
    rfl
  · rename_i found
    cases found.symm.trans read

/-- A dollar sign that starts no reference stays. -/
theorem expandChars_of_none (read : name? cs = none) :
    expandChars lookup ('$' :: cs) = '$' :: expandChars lookup cs := by
  rw [expandChars, if_pos rfl]
  split
  · rename_i found
    cases found.symm.trans read
  · rfl

/-- Every other character stays. -/
theorem expandChars_of_ne (other : c ≠ '$') :
    expandChars lookup (c :: cs) = c :: expandChars lookup cs := by
  rw [expandChars, if_neg other]

end Scanning

end Reference

/-- **A text with its references replaced.** -/
def expand (lookup : Lookup) (text : String) : String :=
  String.ofList (Reference.expandChars lookup text.toList)

end TreeWire
