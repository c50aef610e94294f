import TreeWire.Environment.Settings
import TreeWire.Session

/-!
# The schema compiler

The compiler is another program. It runs in the directory of the schema, writes bindings for the
languages that are asked for, and always writes a descriptor set next to the schema.

* `TreeWire.Compiler` – the program and its include directories;
* `TreeWire.descriptorPath` – the descriptor set of a schema;
* `TreeWire.Compiler.arguments` – the command line for a schema;
* `TreeWire.Compiler.compile` – running it.
-/

namespace TreeWire

/-- **The schema compiler.** -/
structure Compiler where
  /-- The program. -/
  program : String := defaultCompiler
  /-- The directories in which it looks for imports. -/
  includes : List String := []
  deriving DecidableEq

/-- The compiler that the settings name. -/
def Settings.schemaCompiler (s : Settings) : Compiler := ⟨s.compiler, s.includes⟩

/-- The name of the descriptor set of a schema. -/
def descriptorName (schema : String) : String := (Path.stem? schema).getD "schema" ++ ".desc"

/-- **The descriptor set** of a schema: next to it, and named like it. -/
def descriptorPath (schema : String) : String :=
  Path.join (Path.directory schema) (descriptorName schema)

namespace Compiler

/-- **The command line** for a schema, which is named relative to its directory. -/
def arguments (c : Compiler) (schema : String) (languages : List String) :
    Except Fault (List String) :=
  match Path.fileName? schema with
  | none => .error (.config ("schema path " ++ schema ++ " has no file name"))
  | some name =>
    .ok ("--proto_path=." :: c.includes.map ("--proto_path=" ++ ·) ++
      languages.map (fun l => "--" ++ l ++ "_out=.") ++
      ["--descriptor_set_out=" ++ descriptorName schema, name])

/-- **Compiling a schema**, which gives the path of its descriptor set. -/
def compile (c : Compiler) (h : Host) (schema : String) (languages : List String) :
    Task Fault String := do
  let arguments ← c.arguments schema languages
  h.runProgram c.program arguments (Path.directory schema)
  return descriptorPath schema

end Compiler

end TreeWire
