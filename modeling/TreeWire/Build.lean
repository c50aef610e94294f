import TreeWire.Compiler
import TreeWire.Conversion
import TreeWire.Workspace

/-!
# Builds

A build takes a schema through the compiler and, if it is asked to, on to a data file. The
conversion runs in the same process, or as a process of its own in a workspace. A build that is
asked for neither languages nor a conversion does nothing.

* `TreeWire.Plan` – what is asked of the conversion;
* `TreeWire.Build` – what is asked for;
* `TreeWire.Outcome` – what a build has made;
* `TreeWire.Build.run` – the build.
-/

namespace TreeWire

/-- Where a conversion runs. -/
inductive Mode where
  /-- In the same process. -/
  | inProcess
  /-- In a process of its own, which runs a program. -/
  | subprocess (program : String)
  deriving DecidableEq

/-- **What is asked of the conversion.** -/
structure Plan where
  /-- Where it runs. -/
  mode : Mode
  /-- The output file. -/
  output : String
  /-- The name of the data message, if it is not to be discovered. -/
  message : Option String
  /-- The greatest number of entries; a negative one means all. -/
  limit : Int
  /-- How records are separated. -/
  framing : Framing
  /-- Whether the workspace is kept. -/
  keepWorkspace : Bool
  deriving DecidableEq

/-- **What is asked for.** -/
structure Build where
  /-- The data file. -/
  source : String
  /-- The tree. -/
  tree : String
  /-- The schema. -/
  schema : String
  /-- The languages to make bindings for. -/
  languages : List String
  /-- The conversion. -/
  conversion : Option Plan
  deriving DecidableEq

/-- **What a build has made.** -/
structure Outcome where
  /-- The descriptor set, if the compiler ran. -/
  descriptor : Option String := none
  /-- The data file. -/
  data : Option String := none
  /-- The report of a conversion in the same process. -/
  report : Option Report := none
  /-- The workspace, if it is kept. -/
  workspace : Option String := none
  deriving DecidableEq

namespace Build

/-- The conversion of a build, given the descriptor set. -/
def conversionOf (b : Build) (p : Plan) (descriptor : String) : Conversion :=
  { source := b.source
    tree := b.tree
    descriptor
    message := p.message
    limit := p.limit
    output := p.output
    framing := p.framing }

/-- A path from the root. The empty path has none. -/
def fromRoot (h : Host) (path : String) : Except Fault String :=
  if path = "" then .error (.io .emptyPath) else .ok (Path.absolute h.workingDirectory path)

/-- A conversion in a process of its own, which gives the path of the output file. The process
runs in the workspace, and so all paths that it is given start at the root. -/
def convertInside (h : Host) (program : String) (w : Workspace) (c : Conversion) :
    Task Fault String := do
  let descriptor ← w.stage h c.descriptor
  let source ← fromRoot h c.source
  let output ← fromRoot h c.output
  let c := { c with descriptor, source, output }
  h.runProgram program c.arguments w.path
  return output

/-- A run whose fault is handed on as a value. -/
def attempt {ε α : Type} (t : Task ε α) : Task ε (Except ε α) := fun s =>
  let (result, s) := t s
  (.ok result, s)

/-- The conversion of a build. A workspace is kept or removed whether or not the conversion
fails. -/
def convert (h : Host) (p : Plan) (c : Conversion) (made : Outcome) : Task Fault Outcome := do
  match p.mode with
  | .inProcess =>
    let report ← c.run h
    return { made with data := some report.output, report := some report }
  | .subprocess program =>
    let w ← Workspace.create h
    let result ← attempt (convertInside h program w c)
    let workspace ← if p.keepWorkspace then pure (some w.path) else do
      w.remove
      pure none
    let data ← result
    return { made with data := some data, workspace }

/-- **The build.** -/
def run (b : Build) (h : Host) (compiler : Compiler) : Task Fault Outcome := do
  if b.languages = [] ∧ b.conversion = none then return {}
  let descriptor ← compiler.compile h b.schema b.languages
  match b.conversion with
  | none => return { descriptor := some descriptor }
  | some p => convert h p (b.conversionOf p descriptor) { descriptor := some descriptor }

end Build

end TreeWire
