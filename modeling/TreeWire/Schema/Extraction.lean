import TreeWire.Schema
import TreeWire.Selection
import TreeWire.Source

/-!
# Fields of a tree

The fields of the data message are extracted from the branches of a tree: one for every selected
branch, in order. Numbers are handed out one after the other and go on over all extractions of a
run. A name that an earlier field of the same extraction has gets the number of the field put at
its end until it is free.

* `TreeWire.Numbering` – the numbers that are still to be handed out;
* `TreeWire.freshName` – a name that is not taken;
* `TreeWire.Source.extract` – the fields of a tree;
* `TreeWire.Request.serveAll` – a run: extractions and numbers by themselves, one after the other.
-/

namespace TreeWire

/-! ### Numbers -/

/-- **The numbers that are still to be handed out**, from the next one on. -/
structure Numbering where
  /-- The next number. -/
  next : Nat
  deriving DecidableEq

/-- All numbers. -/
def Numbering.start : Numbering := ⟨1⟩

/-- The next number, and the numbers after it. -/
def Numbering.take (n : Numbering) : Except Fault Nat × Numbering :=
  if n.next ≤ largestFieldNumber then (.ok n.next, ⟨n.next + 1⟩)
  else (.error (.config "field id space exhausted"), n)

/-! ### Names -/

/-- **A free name**: the name itself, or the name with a suffix put at its end as often as needed.
A name that has been found to be taken does not come up again, since the later ones are longer. -/
def freshName (suffix : String) (taken : List String) (name : String) : String :=
  if _h : name ∈ taken then freshName suffix (taken.erase name) (name ++ suffix) else name
termination_by taken.length
decreasing_by
  have := List.length_pos_of_mem _h
  rw [List.length_erase_of_mem _h]
  omega

/-! ### Fields -/

/-- The field of a branch. -/
def Branch.field (b : Branch) (taken : List String) (id : Nat) : Field :=
  { name := freshName ("_" ++ toString id) taken (fieldName b.name)
    type := b.columnType.type
    id
    branch := b.name
    repeated := b.columnType.repeated }

/-- The fields of the selected ones among some branches, given the names that are taken. -/
def fieldsOf (selection : Selection) :
    List String → List Branch → Numbering → Except Fault (List Field) × Numbering
  | _, [], ids => (.ok [], ids)
  | taken, b :: bs, ids =>
    if selection.accepts b.name then
      match ids.take with
      | (.error fault, ids) => (.error fault, ids)
      | (.ok id, ids) =>
        let field := b.field taken id
        let (fields, ids) := fieldsOf selection (field.name :: taken) bs ids
        (fields.map (field :: ·), ids)
    else fieldsOf selection taken bs ids

/-- The fields of a tree. -/
def Tree.extract (t : Tree) (selection : Selection) (ids : Numbering) :
    Except Fault (List Field) × Numbering :=
  fieldsOf selection [] t.branches ids

/-- **The fields of a tree** of a data file. A tree that is not there takes no numbers. -/
def Source.extract (s : Source) (tree : String) (selection : Selection) (ids : Numbering) :
    Except Fault (List Field) × Numbering :=
  match s.tree tree with
  | .error fault => (.error fault, ids)
  | .ok t => t.extract selection ids

/-- **The fields of a tree** of the file at a path. -/
def Source.emission (s : Store) (workingDirectory path tree : String) (selection : Selection)
    (ids : Numbering) : Except Fault (List Field) := do
  let source ← Source.open s workingDirectory path
  (source.extract tree selection ids).1

/-! ### Runs -/

/-- **What a run asks for**: the fields of a tree of a data file, or a number by itself. -/
inductive Request where
  /-- The fields of the selected branches of a tree. -/
  | extract (source : Source) (tree : String) (selection : Selection)
  /-- A number by itself. -/
  | number

/-- **What is given.** -/
inductive Answer where
  /-- Fields. -/
  | fields (fields : List Field)
  /-- A number. -/
  | number (id : Nat)

/-- What a request is answered with, and the numbers that are left. -/
def Request.serve (ids : Numbering) : Request → Except Fault Answer × Numbering
  | extract source tree selection =>
    let (fields, ids) := source.extract tree selection ids
    (fields.map .fields, ids)
  | number =>
    let (id, ids) := ids.take
    (id.map .number, ids)

/-- **A run**: requests that are served one after the other, whatever becomes of each. -/
def Request.serveAll (ids : Numbering) : List Request → List (Except Fault Answer) × Numbering
  | [] => ([], ids)
  | r :: rs =>
    let (answer, ids) := r.serve ids
    let (answers, ids) := serveAll ids rs
    (answer :: answers, ids)

end TreeWire
