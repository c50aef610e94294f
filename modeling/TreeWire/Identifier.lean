/-!
# Identifiers

The names that schema text allows, and the field name that is made of a branch name: humps of
capital letters become lower-case words joined by underscores, and every run of characters that
identifiers do not allow becomes an underscore.

* `TreeWire.isIdentifier` – identifiers;
* `TreeWire.fieldName` – the field name of a branch name.
-/

namespace TreeWire

/-- Whether a character may stand inside an identifier. -/
def isWordChar (c : Char) : Bool := c.isAlphanum || c == '_'

/-- A letter is a capital or a small one. -/
theorem isAlpha_eq (c : Char) : c.isAlpha = (c.isUpper || c.isLower) := rfl

theorem isWordChar_eq (c : Char) :
    isWordChar c = (c.isUpper || c.isLower || c.isDigit || c == '_') := rfl

/-- Whether a list of characters is an identifier: a letter or an underscore, then letters, digits
and underscores. Only ASCII letters and digits count. -/
def isIdentifierChars : List Char → Bool
  | [] => false
  | c :: cs => (c.isAlpha || c == '_') && cs.all isWordChar

/-- **Identifiers.** -/
def isIdentifier (name : String) : Bool := isIdentifierChars name.toList

/-- What an identifier begins with may stand inside of it as well. -/
theorem isWordChar_of_first {c : Char} (first : (c.isAlpha || c == '_') = true) :
    isWordChar c = true := by
  rw [isWordChar, Char.isAlphanum]
  rcases Bool.or_eq_true_iff.mp first with alpha | underscore
  · simp [alpha]
  · simp [underscore]

/-- All characters of an identifier may stand inside of one. -/
theorem isWordChar_of_mem {cs : List Char} (identifier : isIdentifierChars cs = true) {c : Char}
    (mem : c ∈ cs) : isWordChar c = true := by
  cases cs with
  | nil => cases mem
  | cons d rest =>
    obtain ⟨first, others⟩ := Bool.and_eq_true_iff.mp identifier
    rcases List.mem_cons.mp mem with rfl | mem
    · exact isWordChar_of_first first
    · exact List.all_eq_true.mp others c mem

/-- Whether a new word starts at a capital letter, given the characters around it: after a
lower-case letter or a digit, and at the last capital of a row that a lower-case letter follows. -/
def startsWord (previous following : Option Char) : Bool :=
  match previous with
  | none => false
  | some p =>
    if p.isLower || p.isDigit then true
    else if p.isUpper then
      match following with
      | some n => n.isLower
      | none => false
    else false

/-- The words of a name in lower case, joined by underscores. `previous` is the character in
front of the name's rest, and `pending` tells that the result so far does not end with an
underscore. -/
def joinWords (previous : Option Char) (pending : Bool) : List Char → List Char
  | [] => []
  | c :: cs =>
    if c.isUpper then
      if startsWord previous cs.head? && pending then
        '_' :: c.toLower :: joinWords (some c) true cs
      else c.toLower :: joinWords (some c) true cs
    else if isWordChar c then c :: joinWords (some c) (c != '_') cs
    else if pending then '_' :: joinWords (some c) false cs
    else joinWords (some c) false cs

/-- A list of characters without the underscores at its end. -/
def dropUnderscores (cs : List Char) : List Char :=
  (cs.reverse.dropWhile (· == '_')).reverse

/-- **The field name** of a branch name. Underscores at the end are dropped, unless nothing else is
left; the empty name becomes a word of its own, and a digit in front gets a letter. -/
def fieldNameChars (name : List Char) : List Char :=
  let joined := joinWords none true name
  match dropUnderscores joined with
  | [] => if joined = [] then "field".toList else ['_']
  | c :: cs => if c.isDigit then 'f' :: '_' :: c :: cs else c :: cs

/-- **The field name** of a branch name. -/
def fieldName (branch : String) : String := String.ofList (fieldNameChars branch.toList)

example : fieldName "ElEta" = "el_eta" ∧ fieldName "el.eta" = "el_eta" := by decide

example : fieldName "HLTPath" = "hlt_path" ∧ fieldName "2nd" = "f_2nd" := by decide

example : fieldName "" = "field" ∧ fieldName "é" = "_" ∧ fieldName "_x_" = "_x" := by decide

end TreeWire
