import TreeWire.Cell
import TreeWire.Tree

/-!
# Bindings

A binding ties a branch of a tree to a buffer. Loading an entry refreshes the buffers of a list of
bindings one after the other. It stops at the first cell that is missing or does not convert: the
buffers before it hold the new entry, the buffers after it are untouched, and a series that was
being filled holds what was read before the item that does not convert.

* `TreeWire.Binding` – a branch, its position in the tree, and a buffer;
* `TreeWire.Tree.bind` – the binding of a branch with a fresh buffer, if the branch holds what is
  asked for;
* `TreeWire.Buffer.fill` – a buffer refreshed with a cell;
* `TreeWire.Tree.load` – bindings refreshed with an entry.
-/

namespace TreeWire

/-- **A binding** of a branch to a buffer. -/
structure Binding where
  /-- The name of the branch. -/
  branch : String
  /-- The position of the branch in its tree. -/
  handle : Nat
  /-- The buffer. -/
  buffer : Buffer
  deriving DecidableEq

/-! ### Binding -/

/-- What a schema asks of a column, in words. -/
def askedFor (kind : Kind) (repeated : Bool) : String :=
  if repeated then "repeated " ++ kind.keyword else kind.keyword

/-- **The binding of a branch**, the first of its name. It is refused if the native type of the
branch is not mapped to the kind that is asked for, or if only one of the two is repeated. -/
def Tree.bind (t : Tree) (branch : String) (kind : Kind) (repeated : Bool) :
    Except Fault Binding :=
  match t.branches.zipIdx.find? (·.1.name == branch) with
  | none => .error (.branchNotFound t.name branch)
  | some (b, position) =>
    if b.columnType = ⟨.scalar kind, repeated⟩ then
      .ok ⟨branch, position, .fresh kind repeated⟩
    else .error (.bindMismatch branch (askedFor kind repeated) b.nativeType)

/-! ### Filling buffers -/

/-- Why a JSON value is refused as a value of a kind. -/
def refusal (kind : Kind) (j : Json) : String := j.compact ++ " is not a valid " ++ kind.keyword

/-- A series with the items of an array put at its end, and what is wrong with the first item that
does not convert. -/
def Series.fill (s : Series) : List Json → Series × Option String
  | [] => (s, none)
  | j :: js =>
    match Scalar.ofJson? s.kind j with
    | some v => (s.push v).1.fill js
    | none => (s, some (refusal s.kind j))

/-- **A buffer refreshed with a cell**, and what is wrong with the cell. A single value is replaced
only by one that converts. A series is emptied once the cell is known to be an array. -/
def Buffer.fill (b : Buffer) (j : Json) : Buffer × Option String :=
  match b, j with
  | .scalar v, j =>
    match Scalar.ofJson? v.kind j with
    | some w => (.scalar w, none)
    | none => (.scalar v, some (refusal v.kind j))
  | .array s, .array items =>
    let (s, flaw) := s.clear.fill items
    (.array s, flaw)
  | .array s, _ => (.array s, some "expected an array")

/-! ### Loading entries -/

/-- The bindings refreshed with an entry of the tree, and the fault at the first one that is not. -/
def Tree.loadRow (t : Tree) (entry : Nat) : List Binding → List Binding × Option Fault
  | [] => ([], none)
  | b :: bs =>
    match t.value? b.handle entry with
    | none => (b :: bs, some (.entryLoad t.name entry))
    | some j =>
      match b.buffer.fill j with
      | (buffer, some detail) =>
        ({ b with buffer } :: bs, some (.valueOutOfRange b.branch entry detail))
      | (buffer, none) =>
        let (bs, fault) := t.loadRow entry bs
        ({ b with buffer } :: bs, fault)

/-- **Bindings refreshed with an entry**, and the number of branches that were read: all branches
of the tree, or none if there is no such entry. -/
def Tree.load (t : Tree) (entry : Nat) (bindings : List Binding) :
    List Binding × Except Fault Nat :=
  if t.entries ≤ entry then (bindings, .ok 0)
  else
    match t.loadRow entry bindings with
    | (bindings, some fault) => (bindings, .error fault)
    | (bindings, none) => (bindings, .ok t.branches.length)

end TreeWire
