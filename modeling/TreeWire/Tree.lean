import TreeWire.Fault
import TreeWire.Json.Value
import TreeWire.NativeType

/-!
# Trees

A tree is a named table: branches in the order of their declaration, each with its declared types
and one value for every entry. That all branches of a tree hold the same number of values is part
of the type.

* `TreeWire.Branch`, `TreeWire.Tree` – branches and trees;
* `TreeWire.Tree.ofBranches` – the tree of some branches, or the first branch that differs;
* `TreeWire.Tree.value?` – the value of a branch at an entry;
* `TreeWire.findTree` – a tree of a file by its name.
-/

namespace TreeWire

/-- **A branch**: its name, its declared types, and its values by entry. -/
structure Branch where
  /-- The name. -/
  name : String
  /-- The class of its values, empty for plain values. -/
  className : String
  /-- The type of plain values. -/
  leafType : String
  /-- The values, one an entry. -/
  values : Array Json

/-- The native type of the values: the class if there is one. -/
def Branch.nativeType (b : Branch) : String :=
  if b.className = "" then b.leafType else b.className

/-- The type of the column that the branch fills. -/
def Branch.columnType (b : Branch) : ColumnType := ColumnType.ofNative b.nativeType

/-- **A tree**: a table of branches of one length. -/
structure Tree where
  /-- The name. -/
  name : String
  /-- The branches in the order of declaration. -/
  branches : List Branch
  /-- The number of entries. -/
  entries : Nat
  /-- Every branch has a value for every entry. -/
  size_values : ∀ b ∈ branches, b.values.size = entries
  /-- A tree without branches has no entries. -/
  entries_eq_zero : branches = [] → entries = 0

/-- **Branches of different lengths**: the first branch that does not have as many values as the
first one of the tree. -/
structure Uneven where
  /-- The tree. -/
  tree : String
  /-- The branch. -/
  branch : String
  /-- The number of its values. -/
  actual : Nat
  /-- The number of values of the first branch. -/
  expected : Nat
  deriving DecidableEq

/-- The wording of a difference in length. -/
def Uneven.message (u : Uneven) : String :=
  "branch " ++ u.branch ++ " of tree " ++ u.tree ++ " has " ++ toString u.actual ++
    " entries, expected " ++ toString u.expected

namespace Tree

/-- The number of values of the first branch. -/
def firstSize : List Branch → Nat
  | [] => 0
  | b :: _ => b.values.size

/-- **The tree** of some branches, or the first branch whose length differs. -/
def ofBranches (name : String) (branches : List Branch) : Except Uneven Tree :=
  match h : branches.find? fun b => b.values.size != firstSize branches with
  | some b => .error ⟨name, b.name, b.values.size, firstSize branches⟩
  | none =>
    .ok
      { name
        branches
        entries := firstSize branches
        size_values := fun b hb => by simpa using List.find?_eq_none.1 h b hb
        entries_eq_zero := fun he => by simp [he, firstSize] }

/-- The value of the branch at a position, at an entry. -/
def value? (t : Tree) (position entry : Nat) : Option Json := do
  let b ← t.branches[position]?
  b.values[entry]?

/-- A branch of the tree has a value at each of its entries. -/
theorem value?_eq_some {t : Tree} {position entry : Nat} (hp : position < t.branches.length)
    (he : entry < t.entries) :
    ∃ b, t.branches[position]? = some b ∧ ∃ h : entry < b.values.size,
      t.value? position entry = some b.values[entry] := by
  have hb : t.branches[position] ∈ t.branches := List.getElem_mem hp
  have hs : entry < (t.branches[position]).values.size := by rw [t.size_values _ hb]; exact he
  exact ⟨t.branches[position], List.getElem?_eq_getElem hp, hs, by simp [value?, hp, hs]⟩

end Tree

/-- The tree of a name, the first one if there are several; `path` is the file that is named when
there is none. -/
def findTree (path : String) (trees : List Tree) (name : String) : Except Fault Tree :=
  match trees.find? (·.name == name) with
  | some t => .ok t
  | none => .error (.treeNotFound name path)

end TreeWire
