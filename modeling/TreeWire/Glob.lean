import TreeWire.Regex

/-!
# Globs

Patterns for branch names: `*` stands for any run of characters other than slashes, `?` for one
character other than a slash, brackets for one character of a class or, after `^`, for one that is
not in it. A backslash takes away the meaning of the character after it. A glob is matched as a
regular expression, which is bound to the start of a name but not to its end: a glob matches a name
if it matches in full some leading part of it.

* `TreeWire.Glob.Term`, `TreeWire.Glob` – the parts of a glob;
* `TreeWire.Glob.parse?` – reading a glob;
* `TreeWire.Glob.pattern` – the text of the regular expression;
* `TreeWire.Glob.compile?` – the regular expression of a text, if it is a glob.
-/

namespace TreeWire

/-- **A member of a class**: a character, or the characters from one to another. -/
structure Glob.Member where
  /-- The first character. -/
  low : Char
  /-- The last character, if another one is given. -/
  high : Option Char
  deriving DecidableEq, Repr

/-- **A term**: one part of a glob. -/
inductive Glob.Term where
  /-- Any run of characters other than slashes. -/
  | run
  /-- One character other than a slash. -/
  | one
  /-- The character itself. -/
  | literal (c : Char)
  /-- One character that belongs to a member, or to none of them. -/
  | oneOf (negated : Bool) (members : List Glob.Member)
  deriving DecidableEq, Repr

/-- **A glob**: its terms. -/
abbrev Glob := List Glob.Term

namespace Glob

/-! ### Reading -/

/-- A character of a class, escaped or not, and the rest. Neither the closing bracket nor a hyphen
stands for itself. -/
def classChar? : Taker Char
  | [] => none
  | c :: cs =>
    if c = ']' ∨ c = '-' then none
    else if c = '\\' then
      match cs with
      | [] => none
      | d :: cs => some (d, cs)
    else some (c, cs)

/-- A member of a class: a character, or two with a hyphen between them, the first one not above
the second. -/
def member? : Taker Member := fun cs => do
  let (low, rest) ← classChar? cs
  match rest with
  | [] => some (⟨low, none⟩, [])
  | c :: rest =>
    if c = '-' then do
      let (high, rest) ← classChar? rest
      if high < low then none else some (⟨low, some high⟩, rest)
    else some (⟨low, none⟩, c :: rest)

/-- A class whose opening bracket is already read. -/
def class? : Taker Term
  | [] => none
  | c :: cs =>
    if c = '^' then
      (itemsBefore? ']' member? cs.length cs).map fun (members, rest) =>
        (.oneOf true members, rest)
    else
      (itemsBefore? ']' member? (c :: cs).length (c :: cs)).map fun (members, rest) =>
        (.oneOf false members, rest)

/-- The first term of a glob and the rest. -/
def term? : Taker Term
  | [] => none
  | c :: cs =>
    if c = '*' then some (.run, cs)
    else if c = '?' then some (.one, cs)
    else if c = '\\' then
      match cs with
      | [] => none
      | d :: cs => some (.literal d, cs)
    else if c = '[' then class? cs
    else some (.literal c, cs)

/-- **Reading a glob.** The empty text is none. -/
def parse? (text : String) : Option Glob :=
  if text = "" then none else allItems? term? text.toList.length text.toList

/-! ### Regular expressions -/

/-- The text of a member in a regular expression. -/
def Member.pattern (m : Member) : List Char :=
  Regex.escape m.low ++
    match m.high with
    | none => []
    | some high => '-' :: Regex.escape high

/-- The text of a term in a regular expression. -/
def Term.pattern : Term → List Char
  | run => "[^/]*".toList
  | one => "[^/]".toList
  | literal c => Regex.escape c
  | oneOf negated members =>
    '[' :: (if negated then ['^'] else []) ++ members.flatMap Member.pattern ++ [']']

/-- **The text of the regular expression**, which is bound to the start of a name. -/
def pattern (g : Glob) : String := String.ofList ('^' :: g.flatMap Term.pattern)

/-- **The regular expression of a text**, if it is a glob. -/
def compile? (text : String) : Option Regex := do
  let g ← parse? text
  Regex.parse? g.pattern

example : (parse? "el_*[^0-9a\\-z]").map pattern = some "^el_[^/]*[^0-9a\\-z]" := by decide

example : (compile? "a*c").map (·.isMatch "a/c") = some false := by decide

example : parse? "[]" = none ∧ parse? "[a-]" = none ∧ parse? "a\\" = none := by decide

end Glob

end TreeWire
