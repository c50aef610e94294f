import TreeWire.Command.Arguments
import TreeWire.Command.Listing
import TreeWire.Command.Summary
import TreeWire.Schema.Printer

/-!
# Carrying out commands

What the three commands do with a session. References to variables are expanded in the paths and in
the name of the tree, and nowhere else.

* `TreeWire.Command.generate` – writes a schema and builds what is asked for;
* `TreeWire.Command.inspect` – lists the branches of a tree;
* `TreeWire.Command.convert` – writes a data file.

`generate` writes nothing before the fields of the tree are extracted and the names of the schema
are known to be valid.
-/

namespace TreeWire.Command

/-! ### Options -/

/-- The value of an option that the command needs, with its references expanded. An empty value
counts as none. -/
def require (h : Host) (option : String) (value : Option String) : Except Failure String :=
  match value with
  | none => .error (.missingArgument option)
  | some v => if v = "" then .error (.missingArgument option) else .ok (expand h.environment v)

/-- The name of a file without the ending of a compressed one. -/
def dropCompressed (name : String) : String :=
  match ".gz".toList.isSuffixOf? name.toList with
  | some rest => String.ofList rest
  | none => name

/-- The path of the data file where none is given: in the directory of one file, and named like
another one. -/
def defaultDataPath (near input : String) : String :=
  let name := dropCompressed ((Path.fileName? input).getD "")
  Path.join (Path.directory near) ((Path.stem? name).getD "data" ++ ".pbuf")

/-- The path of the data file: the one that is given, with its references expanded, or else the
one next to a file. -/
def dataPath (h : Host) (given : Option String) (near input : String) : String :=
  match given with
  | some path => expand h.environment path
  | none => defaultDataPath near input

/-- An empty file at a path, filled with a text. -/
def writeText (h : Host) (path text : String) : Task Fault Unit := Task.onStore fun s =>
  match s.create h.workingDirectory path with
  | .error e => (.error (.io e), s)
  | .ok (location, s) => (.ok (), s.put location (.file (utf8 text)))

/-! ### Generating schemas -/

/-- The document of a tree, with the names that the options or else the settings give. -/
def GenerateOptions.document (o : GenerateOptions) (settings : Settings) (h : Host)
    (file tree : String) (s : Store) : Except Fault Document := do
  let fields ←
    Source.emission s h.workingDirectory file tree (Selection.parse o.branches) Numbering.start
  (Document.of (o.package.getD settings.package) (o.message.getD settings.message) fields).mapError
    fun flaw => .invalidName flaw.text

/-- The conversion that the options ask for. -/
def GenerateOptions.plan (o : GenerateOptions) (h : Host) (file schema message : String) :
    Option Plan :=
  if o.convert then
    some
      { mode := if o.subprocess then .subprocess h.executable else .inProcess
        output := dataPath h o.dataOutput schema file
        message := some message
        limit := o.limit
        framing := o.framing
        keepWorkspace := o.keepWorkspace }
  else none

/-- What is printed about a build, its report apart. -/
def Outcome.lines (o : Outcome) : List String :=
  (o.descriptor.map ("  Descriptor:  " ++ ·)).toList ++
    (o.workspace.map ("  Workspace:   " ++ · ++ " (kept)")).toList

/-- **Writing a schema** and building what is asked for. -/
def generate (h : Host) (o : GenerateOptions) : Task Failure Unit := do
  let file ← require h "--file" o.file
  let tree ← require h "--tree" o.tree
  let schema := expand h.environment o.output
  let settings := Settings.of h.environment
  Task.print ":: root -> proto ::"
  Task.print ("  Input file:  " ++ file)
  Task.print ("  Output file: " ++ schema)
  Task.print ("  Tree:        " ++ tree)
  let document ← (Task.look (o.document settings h file tree)).mapFault Failure.ofFault
  (writeText h schema document.render).mapFault Failure.ofFault
  Task.print ("  Schema:      written (" ++ toString document.fields.length ++ " fields)")
  let build : Build :=
    { source := file
      tree
      schema
      languages := o.languages
      conversion := o.plan h file schema document.message }
  let outcome ← (build.run h settings.schemaCompiler).mapFault Failure.ofFault
  (Outcome.lines outcome).forM Task.print
  match outcome.report with
  | some report => report.print h
  | none => pure ()
  Task.print ":: bye."

/-! ### Listing branches -/

/-- The rows of a listing. Where there is nothing to read, there are none. -/
def listingRows (h : Host) (file tree : String) (selection : Selection) (s : Store) :
    Except Fault (List Row) :=
  match Source.report s h.workingDirectory file tree selection with
  | .ok rows => .ok rows
  | .error fault => if fault.isMissingSource then .ok [] else .error fault

/-- **Listing the branches** of a tree. -/
def inspect (h : Host) (o : InspectOptions) : Task Failure Unit := do
  let file ← require h "--file" o.file
  let tree ← require h "--tree" o.tree
  let selection := Selection.parse o.branches
  let rows ← (Task.look (listingRows h file tree selection)).mapFault Failure.ofFault
  if o.json then Task.print (listingJson rows)
  else (listingTable file tree selection rows).forM Task.print

/-! ### Writing data files -/

/-- The conversion that the options ask for. -/
def ConvertOptions.conversion (o : ConvertOptions) (h : Host) : Except Failure Conversion := do
  let file ← require h "--file" o.file
  let tree ← require h "--tree" o.tree
  let descriptor := expand h.environment o.descriptor
  .ok
    { source := file
      tree
      descriptor
      message := o.message
      limit := o.limit
      output := dataPath h o.output descriptor file
      framing := o.framing }

/-- **Writing a data file.** -/
def convert (h : Host) (o : ConvertOptions) : Task Failure Unit := do
  let conversion ← o.conversion h
  let report ← (conversion.run h).mapFault Failure.ofFault
  report.print h

end TreeWire.Command
