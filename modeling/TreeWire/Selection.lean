import TreeWire.Glob
import TreeWire.Text.Blank
import TreeWire.Text.Split

/-!
# Branch selections

A selection is a comma-separated list of globs, each with an optional sign: a plus includes the
branches that it matches, a minus excludes them, and no sign is a plus. The last rule that matches
a branch decides. A branch that no rule matches is selected exactly if there is no rule that
includes. A malformed glob matches nothing, but its rule still counts as one that includes or
excludes.

* `TreeWire.Selection.parse` – reading a selection, which never fails;
* `TreeWire.Selection.accepts` – the decision on a branch;
* `TreeWire.Selection.malformed` – the globs that match nothing.
-/

namespace TreeWire

/-- **A rule**: a sign, the text of a glob, and its regular expression if the text is a glob. -/
structure Selection.Rule where
  /-- Whether the branches that match are selected. -/
  selects : Bool
  /-- The text of the glob. -/
  text : String
  /-- The regular expression of the glob. -/
  pattern : Option Regex
  deriving DecidableEq

/-- **A selection**: its text and its rules. -/
structure Selection where
  /-- The text, without blank characters around it. -/
  text : String
  /-- The rules in order. -/
  rules : List Selection.Rule
  deriving DecidableEq

namespace Selection

/-- The rule of an entry that is not empty. -/
def Rule.ofEntry (entry : List Char) : Rule :=
  let (selects, glob) := match entry with
    | '+' :: r => (true, r)
    | '-' :: r => (false, r)
    | r => (true, r)
  ⟨selects, String.ofList glob, Glob.compile? (String.ofList glob)⟩

/-- **Reading a selection.** Blank characters around entries do not count, nor do empty entries. -/
def parse (spec : String) : Selection :=
  let entries := ((splitAtChar ',' spec.toList).map trimChars).filter (· ≠ [])
  ⟨trim spec, entries.map Rule.ofEntry⟩

/-- The selection of all branches. -/
def all : Selection := ⟨"", []⟩

/-- Whether a rule matches a branch. -/
def Rule.holds (r : Rule) (name : String) : Bool :=
  match r.pattern with
  | some p => p.isMatch name
  | none => false

/-- The decision on a branch that no rule matches. -/
def acceptsOthers (s : Selection) : Bool := s.rules.all fun r => !r.selects

/-- **The decision on a branch**: that of the last rule that matches it. -/
def accepts (s : Selection) (name : String) : Bool :=
  s.rules.foldl (fun decision r => if r.holds name then r.selects else decision) s.acceptsOthers

/-- The texts of the rules whose globs are malformed. -/
def malformed (s : Selection) : List String :=
  (s.rules.filter fun r => r.pattern.isNone).map (·.text)

/-- The selection as it is shown. -/
def display (s : Selection) : String := if s.text = "" then "<all>" else s.text

example : (parse "el_*, -el_internal*").accepts "el_internal_x" = false := by decide

example : (parse "-mu_*").accepts "el_pt" = true ∧ (parse "[").accepts "el_pt" = false := by decide

end Selection

end TreeWire
