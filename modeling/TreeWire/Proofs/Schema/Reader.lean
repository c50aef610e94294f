import TreeWire.Number.Integer
import TreeWire.Proofs.Schema.Token
import TreeWire.Text.Split

/-!
# Reading schema text

Schema text is read line by line. A line without tokens says nothing. Any other one is a statement:
one that stands by itself, one that opens a message or an extension, a field, or the brace that
closes what was opened. A reader of this kind knows nothing about how the text came about; it reads
the messages and extensions of any text that keeps to one statement a line.

* `TreeWire.Schema.Declaration` – a field as it is declared, with its settings;
* `TreeWire.Schema.Block` – a message or an extension;
* `TreeWire.Schema.statement?` – the statement of a line;
* `TreeWire.Schema.read?` – **what a text declares**;
* `TreeWire.Schema.Declaration.field?` – the field that a declaration stands for, if its type has a
  kind.
-/

namespace TreeWire

namespace Schema

/-! ### What is declared -/

/-- **A setting of a field**: an option with its value. -/
structure Setting where
  /-- The name of the option. -/
  name : String
  /-- Whether the name stands in parentheses, as that of an extension does. -/
  extended : Bool
  /-- The value. -/
  value : Token
  deriving DecidableEq

/-- **A declaration** of a field. -/
structure Declaration where
  /-- The word in front of the type. -/
  label : String
  /-- The type. -/
  type : String
  /-- The name. -/
  name : String
  /-- The number. -/
  number : Nat
  /-- The settings in order. -/
  settings : List Setting
  deriving DecidableEq

/-- What a block of declarations is. -/
inductive BlockKind where
  /-- A message. -/
  | message
  /-- More fields of a message. -/
  | extension
  deriving DecidableEq

/-- **A block** of declarations. -/
structure Block where
  /-- What it is. -/
  kind : BlockKind
  /-- The name of the message. -/
  name : String
  /-- The declarations in order. -/
  declarations : List Declaration
  deriving DecidableEq

/-- **What stands in a text**, at the outermost level. -/
inductive Item where
  /-- The edition of the language. -/
  | edition (name : String)
  /-- The package. -/
  | package (name : String)
  /-- A file that the text depends on. -/
  | dependency (path : String)
  /-- A block. -/
  | block (b : Block)
  deriving DecidableEq

/-- The packages that a text names. -/
def packages (items : List Item) : List String :=
  items.filterMap fun
    | .package name => some name
    | _ => none

/-- The blocks of one sort in a text. -/
def blocks (kind : BlockKind) (items : List Item) : List Block :=
  items.filterMap fun
    | .block b => if b.kind = kind then some b else none
    | _ => none

/-! ### Lines -/

/-- **The settings of a field**, up to the end of its line. -/
def settings? : List Token → Option (List Setting)
  | .mark '(' :: .word name :: .mark ')' :: .mark '=' :: value :: .mark ',' :: ts => do
    let later ← settings? ts
    some (⟨name, true, value⟩ :: later)
  | .word name :: .mark '=' :: value :: .mark ',' :: ts => do
    let later ← settings? ts
    some (⟨name, false, value⟩ :: later)
  | [.mark '(', .word name, .mark ')', .mark '=', value, .mark ']', .mark ';'] =>
    some [⟨name, true, value⟩]
  | [.word name, .mark '=', value, .mark ']', .mark ';'] => some [⟨name, false, value⟩]
  | _ => none

/-- **The declaration on a line.** -/
def declaration? : List Token → Option Declaration
  | .word label :: .word type :: .word name :: .mark '=' :: .word number :: ts => do
    if label ∉ ["optional", "required", "repeated"] then none
    let number ← naturalOf? number.toList
    let settings ←
      match ts with
      | [.mark ';'] => some []
      | .mark '[' :: ts => settings? ts
      | _ => none
    some ⟨label, type, name, number, settings⟩
  | _ => none

/-- **What a line says.** -/
inductive Statement where
  /-- Something that stands by itself. -/
  | item (i : Item)
  /-- The beginning of a block. -/
  | opening (kind : BlockKind) (name : String)
  /-- A declaration in a block. -/
  | declaration (d : Declaration)
  /-- The end of a block. -/
  | closing
  deriving DecidableEq

/-- **The statement of a line.** -/
def statement? : List Token → Option Statement
  | [.word keyword, .mark '=', .literal name, .mark ';'] =>
    if keyword = "syntax" then some (.item (.edition name)) else none
  | [.word keyword, .word name, .mark ';'] =>
    if keyword = "package" then some (.item (.package name)) else none
  | [.word keyword, .literal path, .mark ';'] =>
    if keyword = "import" then some (.item (.dependency path)) else none
  | [.word keyword, .word name, .mark '\x7b'] =>
    if keyword = "message" then some (.opening .message name)
    else if keyword = "extend" then some (.opening .extension name)
    else none
  | [.mark '\x7d'] => some .closing
  | ts => (declaration? ts).map .declaration

/-! ### Texts -/

/-- **The items of some statements**, given the block that is open, if there is one. -/
def items? : Option Block → List Statement → Option (List Item)
  | none, [] => some []
  | none, .item i :: ss => (items? none ss).map (i :: ·)
  | none, .opening kind name :: ss => items? (some ⟨kind, name, []⟩) ss
  | some b, .declaration d :: ss =>
    items? (some { b with declarations := b.declarations ++ [d] }) ss
  | some b, .closing :: ss => (items? none ss).map (.block b :: ·)
  | _, _ => none

/-- A block goes up to the closing statement. -/
theorem items?_declarations (b : Block) (ds : List Declaration) (later : List Statement) :
    items? (some b) (ds.map .declaration ++ .closing :: later) =
      (items? none later).map (.block { b with declarations := b.declarations ++ ds } :: ·) := by
  induction ds generalizing b with
  | nil => simp [items?]
  | cons d ds ih => simp [items?, ih]

/-- What some tokens say together, which may be nothing. -/
def statements? (ts : List Token) : Option (List Statement) :=
  match ts.filter Token.isSignificant with
  | [] => some []
  | t :: ts => (statement? (t :: ts)).map ([·])

/-- What a line says. -/
def lineStatements? (line : List Char) : Option (List Statement) := (tokens? line).bind statements?

/-- **What a text declares.** -/
def read? (text : String) : Option (List Item) := do
  let statements ← (splitAtChar '\n' text.toList).mapM lineStatements?
  items? none statements.flatten

example :
    read? "message M \x7b // a\n\n repeated int32 x = 7 [(source_branch) = \"\\\"\"];\n\x7d" =
      some [.block ⟨.message, "M",
        [⟨"repeated", "int32", "x", 7, [⟨"source_branch", true, .literal "\""⟩]⟩]⟩] := by
  decide +kernel

/-! ### Fields -/

/-- The branch that a declaration names. -/
def Declaration.branch? (d : Declaration) : Option String :=
  d.settings.findSome? fun s =>
    match s.value with
    | .literal text => if s.extended && s.name == branchOption then some text else none
    | _ => none

/-- Whether the settings of a declaration ask for packed values. -/
def Declaration.packed (d : Declaration) : Bool :=
  d.settings.contains ⟨"packed", false, .word "true"⟩

/-- **The field that a declaration stands for.** -/
def Declaration.field? (d : Declaration) : Option Field := do
  let repeated ←
    if d.label = "repeated" then some true
    else if d.label = "optional" then some false
    else none
  let kind ← Kind.ofKeyword? d.type
  let branch ← d.branch?
  some ⟨d.name, .scalar kind, d.number, branch, repeated⟩

end Schema

end TreeWire
