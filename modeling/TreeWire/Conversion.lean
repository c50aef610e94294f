import TreeWire.DataFile
import TreeWire.Descriptor.Decoder
import TreeWire.Session
import TreeWire.Source

/-!
# Conversions

A conversion reads a descriptor set and a data file, and writes the tree that is asked for to a
file of its own. The output file is not touched before both inputs are read and the tree is found.

* `TreeWire.Conversion` – what is asked for;
* `TreeWire.Conversion.arguments` – the command line that asks for the same;
* `TreeWire.Conversion.run` – the conversion;
* `TreeWire.Report` – what a finished conversion reports.
-/

namespace TreeWire

/-- **What is asked for.** -/
structure Conversion where
  /-- The data file. -/
  source : String
  /-- The tree. -/
  tree : String
  /-- The descriptor set. -/
  descriptor : String
  /-- The name of the data message, if it is not to be discovered. -/
  message : Option String
  /-- The greatest number of entries; a negative one means all. -/
  limit : Int
  /-- The output file. -/
  output : String
  /-- How records are separated. -/
  framing : Framing
  deriving DecidableEq

/-- **What a finished conversion reports.** -/
structure Report where
  /-- What was written. -/
  written : Written
  /-- The output file. -/
  output : String
  deriving DecidableEq

/-- The descriptor set of a file. -/
def DescriptorSet.load (s : Store) (workingDirectory path : String) :
    Except Fault DescriptorSet := do
  let bs ← (s.read workingDirectory path).mapError Fault.io
  (decode bs).mapError faultOf

namespace Conversion

/-- **The command line** that asks for the conversion. -/
def arguments (c : Conversion) : List String :=
  ["convert", "--descriptor", c.descriptor, "--file", c.source, "--tree", c.tree,
    "--max-entries", toString c.limit, "--output", c.output, "--framing", c.framing.name] ++
    match c.message with
    | some message => ["--message", message]
    | none => []

/-- The inputs of a conversion: the descriptor set is looked at before the data file. -/
def inputs (c : Conversion) (s : Store) (workingDirectory : String) :
    Except Fault (DescriptorSet × Tree) := do
  let set ← DescriptorSet.load s workingDirectory c.descriptor
  let source ← Source.open s workingDirectory c.source
  let tree ← source.tree c.tree
  .ok (set, tree)

/-- The conversion on a store. -/
def onStore (c : Conversion) (workingDirectory : String) (s : Store) :
    Except Fault Report × Store :=
  match c.inputs s workingDirectory with
  | .error fault => (.error fault, s)
  | .ok (set, tree) =>
    match s.create workingDirectory c.output with
    | .error e => (.error (.io e), s)
    | .ok (location, s) =>
      let (bytes, result) := tree.convert set c.message c.limit c.framing
      (result.map (⟨·, c.output⟩), s.put location (.file bytes))

/-- **The conversion.** -/
def run (c : Conversion) (h : Host) : Task Fault Report :=
  Task.onStore (c.onStore h.workingDirectory)

end Conversion

end TreeWire
