import TreeWire.Text.Items

/-!
# Regular expressions

The part of the language of regular expressions in which branch selections are written down: a
sequence of parts, each of which is the start of the text, one character, or a run of characters. A
character is a literal or a class, and a star after it makes a run of it. Characters with a meaning
of their own stand for themselves after a backslash, inside of classes as well as outside. An
expression matches a text if its parts match, one after the other, somewhere in the text.

* `TreeWire.Regex.Atom`, `TreeWire.Regex.Part`, `TreeWire.Regex` – expressions;
* `TreeWire.Regex.escape` – a character that stands for itself;
* `TreeWire.Regex.parse?` – reading an expression;
* `TreeWire.Regex.isMatch` – matching a text.
-/

namespace TreeWire

/-- **A range of characters**, both ends included. -/
structure Regex.Range where
  /-- The first character. -/
  low : Char
  /-- The last character. -/
  high : Char
  deriving DecidableEq, Repr

/-- **What stands for one character.** -/
inductive Regex.Atom where
  /-- The character itself. -/
  | literal (c : Char)
  /-- A character in one of the ranges, or in none of them. -/
  | oneOf (negated : Bool) (ranges : List Regex.Range)
  deriving DecidableEq, Repr

/-- **A part** of an expression. -/
inductive Regex.Part where
  /-- The start of the text. -/
  | start
  /-- One character. -/
  | once (a : Regex.Atom)
  /-- Any number of characters. -/
  | run (a : Regex.Atom)
  deriving DecidableEq, Repr

/-- **A regular expression**: its parts in order. -/
abbrev Regex := List Regex.Part

namespace Regex

/-! ### Escaping -/

/-- Whether a character has a meaning of its own, in a class or outside of it. -/
def isSpecial (c : Char) : Bool := "\\.+*?()|[]\x7b\x7d^$#&-~".toList.contains c

/-- Whether a character stands for itself after a backslash. Letters and digits do not, nor do angle
brackets. -/
def isEscapable (c : Char) : Bool := c.toNat < 0x80 && !c.isAlphanum && c != '<' && c != '>'

/-- **A character that stands for itself.** -/
def escape (c : Char) : List Char := if isSpecial c then ['\\', c] else [c]

/-! ### Reading -/

/-- A character that stands for itself, and the rest. -/
def char? : Taker Char
  | [] => none
  | c :: cs =>
    if c = '\\' then
      match cs with
      | [] => none
      | d :: cs => if isEscapable d then some (d, cs) else none
    else if isSpecial c then none
    else some (c, cs)

/-- A member of a class: a character, or two with a hyphen between them, the first one not above
the second. -/
def range? : Taker Range := fun cs => do
  let (low, rest) ← char? cs
  match rest with
  | [] => some (⟨low, low⟩, [])
  | c :: rest =>
    if c = '-' then do
      let (high, rest) ← char? rest
      if high < low then none else some (⟨low, high⟩, rest)
    else some (⟨low, low⟩, c :: rest)

/-- A class whose opening bracket is already read. -/
def class? : Taker Atom
  | [] => none
  | c :: cs =>
    if c = '^' then
      (itemsBefore? ']' range? cs.length cs).map fun (ranges, rest) => (.oneOf true ranges, rest)
    else
      (itemsBefore? ']' range? (c :: cs).length (c :: cs)).map fun (ranges, rest) =>
        (.oneOf false ranges, rest)

/-- What stands for one character. -/
def atom? : Taker Atom
  | [] => none
  | c :: cs =>
    if c = '[' then class? cs else (char? (c :: cs)).map fun (c, rest) => (.literal c, rest)

/-- A part: a star belongs to what stands in front of it. -/
def part? : Taker Part
  | [] => none
  | c :: cs =>
    if c = '^' then some (.start, cs)
    else do
      let (a, rest) ← atom? (c :: cs)
      match rest with
      | [] => some (.once a, [])
      | d :: rest => if d = '*' then some (.run a, rest) else some (.once a, d :: rest)

/-- **Reading an expression.** -/
def parse? (text : String) : Option Regex := allItems? part? text.toList.length text.toList

/-! ### Matching -/

/-- Whether a character lies in a range. -/
def Range.holds (r : Range) (c : Char) : Bool := r.low ≤ c && c ≤ r.high

/-- Whether an atom stands for a character. -/
def Atom.holds : Atom → Char → Bool
  | literal d, c => c == d
  | oneOf negated ranges, c => ranges.any (·.holds c) != negated

/-- For every rest of a text, longest first, whether a run can be followed by what matches the
front of some later rest. -/
def runLeads (a : Atom) : List Char → List Bool → List Bool
  | c :: cs, after :: afters =>
    let later := runLeads a cs afters
    (after || (a.holds c && later.headD false)) :: later
  | _, afters => afters

/-- For every rest of a text, longest first, whether the part and what follows it match the front
of it, given the same for what follows alone. The first rest is the text itself. -/
def Part.leads (p : Part) (cs : List Char) (afters : List Bool) : List Bool :=
  match p with
  | start => (afters.take 1) ++ (afters.drop 1).map fun _ => false
  | once a => cs.zipWith (fun c after => a.holds c && after) (afters.drop 1) ++ [false]
  | run a => runLeads a cs afters

/-- For every rest of a text, longest first, whether the expression matches the front of it. -/
def leads (r : Regex) (cs : List Char) : List Bool :=
  r.foldr (fun p afters => p.leads cs afters) (List.replicate (cs.length + 1) true)

/-- **Matching**: whether the expression matches somewhere in a text. -/
def isMatch (r : Regex) (text : String) : Bool := (r.leads text.toList).any id

example : (parse? "^el_[^/]*[0-9]").map (·.isMatch "el_pt12x") = some true := by decide

example : (parse? "b[^/]*\\.").map (·.isMatch "ab/c.") = some false := by decide

end Regex

end TreeWire
