import TreeWire.Json.Reader
import TreeWire.Tree

/-!
# Tree dumps

A dump is a JSON document that lists trees with their branches. It is read from front to back, and
the first flaw in the order of the text is the one that is reported; only a branch's own name and
types are looked at when the branch has been read to its end. Unknown members of the document and
of a tree are skipped. The document and a tree may also be written as arrays of their members in
order.

* `TreeWire.Dump.Flaw` – a flaw of the text, or branches of different lengths;
* `TreeWire.Dump.read` – the trees of a dump.
-/

namespace TreeWire.Dump

open Json

/-- **Why a dump is refused.** -/
inductive Flaw where
  /-- The text does not hold a dump. -/
  | text (refusal : Json.Refusal)
  /-- The branches of a tree differ in length. -/
  | uneven (difference : Uneven)

/-- The wording of a refusal. -/
def Flaw.message : Flaw → String
  | text refusal => refusal.message
  | uneven difference => difference.message

/-! ### Branches -/

/-- **The declaration of a branch** as far as it has been read. -/
structure Declaration where
  /-- The name. -/
  name : Option String
  /-- The class of the values. -/
  className : Option String
  /-- The type of plain values. -/
  leafType : Option String

/-- The text of a member that has to be given once and hold a string. -/
def declare (member : String) (given : Option String) (j : Json) :
    Except Json.Flaw (Option String) :=
  match given, j with
  | some _, _ => .error (.duplicateField member)
  | none, .string s => .ok (some s)
  | none, j => .error (.invalidType j.found "a string")

/-- The declaration with one more member of the branch taken in, if it is one that declares
something. -/
def Declaration.take (d : Declaration) (member : String) (j : Json) :
    Except Json.Flaw Declaration :=
  if member = "name" then do
    let name ← declare member d.name j
    pure { d with name }
  else if member = "class_name" then do
    let className ← declare member d.className j
    pure { d with className }
  else if member = "leaf_type" then do
    let leafType ← declare member d.leafType j
    pure { d with leafType }
  else pure d

/-- **The members of a branch** as far as they have been read: its values, and all other members
in reverse. -/
structure BranchMembers where
  /-- The values. -/
  values : Option (List Json)
  /-- The other members, last one first. -/
  others : List (String × Json)

/-- The branch that some members describe. -/
def BranchMembers.toBranch (m : BranchMembers) : Except Json.Flaw Branch := do
  let d ← m.others.reverse.foldlM (fun (d : Declaration) o => d.take o.1 o.2) ⟨none, none, none⟩
  match d.name with
  | none => .error (.missingField "name")
  | some name =>
    .ok
      { name
        className := d.className.getD ""
        leafType := d.leafType.getD ""
        values := (m.values.getD []).toArray }

/-- Reads one member of a branch. -/
def branchMember (depth : Nat) (key : String) (read : BranchMembers) : Reader BranchMembers := do
  if key = "values" then
    if read.values.isSome then Reader.refuse (.duplicateField key)
    Reader.colon
    let values ← Reader.listValue depth Reader.value
    pure { read with values := some values }
  else
    Reader.colon
    let j ← Reader.value depth
    pure { read with others := (key, j) :: read.others }

/-- Reads a branch. -/
def branch (depth : Nat) : Reader Branch := do
  let b ← Reader.peekValue
  Reader.located <|
    if b = Reader.code '\x7b' then
      Reader.nested depth Reader.endOfObject fun depth => do
        let read ← Reader.members (branchMember depth) ⟨none, []⟩
        match read.toBranch with
        | .ok b => pure b
        | .error flaw => Reader.refuse flaw
    else Reader.wrongType "struct DumpBranch"

/-! ### Trees and documents -/

/-- A tree as it is written, before the lengths of its branches are compared. -/
abbrev Draft := String × List Branch

/-- Reads one member of a tree. -/
def treeMember (depth : Nat) (key : String) (read : Option String × Option (List Branch)) :
    Reader (Option String × Option (List Branch)) := do
  if key = "name" then
    if read.1.isSome then Reader.refuse (.duplicateField key)
    Reader.colon
    let name ← Reader.stringValue
    pure (some name, read.2)
  else if key = "branches" then
    if read.2.isSome then Reader.refuse (.duplicateField key)
    Reader.colon
    let branches ← Reader.listValue depth branch
    pure (read.1, some branches)
  else
    Reader.colon
    Reader.ignored
    pure read

/-- Reads a tree, whose branches may be left out. -/
def tree (depth : Nat) : Reader Draft := do
  let b ← Reader.peekValue
  Reader.located <|
    if b = Reader.code '[' then
      Reader.nested depth Reader.endOfList fun depth => do
        if ← Reader.hasItem true then
          let name ← Reader.stringValue
          let branches ← if ← Reader.hasItem false then Reader.listValue depth branch else pure []
          pure (name, branches)
        else Reader.refuse (.invalidLength 0 "struct DumpTree with 2 elements")
    else if b = Reader.code '\x7b' then
      Reader.nested depth Reader.endOfObject fun depth => do
        match ← Reader.members (treeMember depth) (none, none) with
        | (none, _) => Reader.refuse (.missingField "name")
        | (some name, branches) => pure (name, branches.getD [])
    else Reader.wrongType "struct DumpTree"

/-- Reads one member of a document. -/
def documentMember (depth : Nat) (key : String) (read : Option (List Draft)) :
    Reader (Option (List Draft)) := do
  if key = "trees" then
    if read.isSome then Reader.refuse (.duplicateField key)
    Reader.colon
    some <$> Reader.listValue depth tree
  else
    Reader.colon
    Reader.ignored
    pure read

/-- Reads a document. -/
def document (depth : Nat) : Reader (List Draft) := do
  let b ← Reader.peekValue
  Reader.located <|
    if b = Reader.code '[' then
      Reader.nested depth Reader.endOfList fun depth => do
        if ← Reader.hasItem true then Reader.listValue depth tree
        else Reader.refuse (.invalidLength 0 "struct DumpFile with 1 element")
    else if b = Reader.code '\x7b' then
      Reader.nested depth Reader.endOfObject fun depth => do
        match ← Reader.members (documentMember depth) none with
        | none => Reader.refuse (.missingField "trees")
        | some trees => pure trees
    else Reader.wrongType "struct DumpFile"

/-- The trees of some drafts, or the first difference in length. -/
def trees (drafts : List Draft) : Except Flaw (List Tree) :=
  drafts.mapM fun d => (Tree.ofBranches d.1 d.2).mapError .uneven

/-- **The trees of a dump.** -/
def read (f : Feed) : Except Flaw (List Tree) := do
  let drafts ← (Reader.readAll (document Reader.depthLimit) f).mapError .text
  trees drafts

/-- A byte that starts no value is refused where it stands, and a missing member at the closing
brace. -/
example :
    read (.ofBytes (utf8 "\n ?")) = .error (.text ⟨.expectedValue, some ⟨2, 2⟩⟩) ∧
      read (.ofBytes (utf8 "\x7b\n\x7d")) = .error (.text ⟨.missingField "trees", some ⟨2, 1⟩⟩) :=
  ⟨rfl, rfl⟩

end TreeWire.Dump
