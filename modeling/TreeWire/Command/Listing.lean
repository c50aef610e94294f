import TreeWire.Json.Printer
import TreeWire.Selection
import TreeWire.Source

/-!
# Listings of branches

A listing has a row for every branch of a tree, with the type that it is mapped to and the decision
of a selection. It is printed as a table or as indented JSON.

* `TreeWire.Row` – a row;
* `TreeWire.Source.listing`, `TreeWire.Source.report` – the rows of a tree, of a data file that is
  open, and of the file at a path;
* `TreeWire.Row.line`, `TreeWire.listingJson` – the two forms.
-/

namespace TreeWire

/-! ### Rows -/

/-- **A row**: a branch with its type and the decision of a selection. -/
structure Row where
  /-- The position of the branch. -/
  index : Nat
  /-- The name of the branch. -/
  name : String
  /-- The native type. -/
  native : String
  /-- The type of the column. -/
  column : ColumnType
  /-- Whether the branch is selected. -/
  selected : Bool
  deriving DecidableEq

/-- The row of a branch at a position. -/
def Row.of (selection : Selection) (index : Nat) (b : Branch) : Row :=
  ⟨index, b.name, b.nativeType, b.columnType, selection.accepts b.name⟩

/-- The rows of a tree. -/
def Tree.listing (t : Tree) (selection : Selection) : List Row :=
  t.branches.mapIdx (Row.of selection)

/-- **The rows of a tree** of a data file. -/
def Source.listing (s : Source) (tree : String) (selection : Selection) :
    Except Fault (List Row) := do
  let t ← s.tree tree
  .ok (t.listing selection)

/-- **The rows of a tree** of the file at a path. -/
def Source.report (s : Store) (workingDirectory path tree : String) (selection : Selection) :
    Except Fault (List Row) := do
  let source ← Source.open s workingDirectory path
  source.listing tree selection

/-! ### Tables -/

/-- A text with spaces at its end, up to a width. -/
def padRight (width : Nat) (s : String) : String :=
  s ++ String.ofList (List.replicate (width - s.length) ' ')

/-- A text with spaces in front of it, up to a width. -/
def padLeft (width : Nat) (s : String) : String :=
  String.ofList (List.replicate (width - s.length) ' ') ++ s

/-- **The line of a row.** -/
def Row.line (r : Row) : String :=
  let mark := if r.selected then "+" else "-"
  let modifier := if r.column.repeated then "repeated" else "optional"
  mark ++ " [" ++ padLeft 3 (toString r.index) ++ "] " ++ padRight 24 r.name ++ " " ++
    padRight 28 r.native ++ " " ++ modifier ++ " " ++ r.column.type.text

/-- The lines of a table, given the names of the tree and the file. -/
def listingTable (file tree : String) (selection : Selection) (rows : List Row) : List String :=
  let selected := (rows.filter (·.selected)).length
  ["Tree: " ++ tree ++ " (" ++ file ++ ")",
    "  Branches:  " ++ toString rows.length,
    "  Selection: " ++ selection.display,
    ""] ++
  rows.map Row.line ++
  ["",
    "Summary:",
    "  Selected: " ++ toString selected ++ "/" ++ toString rows.length]

/-! ### JSON -/

/-- The name of the form of a field type, and its text. -/
def FieldType.form : FieldType → String × String
  | scalar kind => ("Scalar", kind.keyword)
  | unresolved native => ("Unresolved", native)

/-- The word for a truth value. -/
def truthText (b : Bool) : String := if b then "true" else "false"

/-- The lines of a row as an indented object, without a comma at its end. -/
def Row.json (r : Row) : List String :=
  let (form, text) := r.column.type.form
  ["  \x7b",
    "    \"index\": " ++ toString r.index ++ ",",
    "    \"name\": " ++ Json.quoted r.name ++ ",",
    "    \"native\": " ++ Json.quoted r.native ++ ",",
    "    \"mapped\": \x7b",
    "      \"" ++ form ++ "\": " ++ Json.quoted text,
    "    \x7d,",
    "    \"repeated\": " ++ truthText r.column.repeated ++ ",",
    "    \"selected\": " ++ truthText r.selected,
    "  \x7d"]

/-- **A listing as indented JSON**, without a line feed at its end. -/
def listingJson (rows : List Row) : String :=
  if rows = [] then "[]"
  else
    "[\n" ++ ",\n".intercalate (rows.map fun r => "\n".intercalate r.json) ++ "\n]"

end TreeWire
