import TreeWire.Build
import TreeWire.Command.Grammar
import TreeWire.Number.Integer

/-!
# Commands

The three commands of the program and their options: `generate` makes a schema and, if it is asked
to, compiles it and converts the data; `inspect` lists the branches of a tree; `convert` writes a
data file.

* `TreeWire.Command.Request` – what is asked for, with the options of each command;
* `TreeWire.Command.parse` – reading a command line.
-/

namespace TreeWire.Command

/-! ### Requests -/

/-- The options of `generate`. -/
structure GenerateOptions where
  /-- The data file. -/
  file : Option String
  /-- The tree. -/
  tree : Option String
  /-- The schema. -/
  output : String
  /-- The selection of branches. -/
  branches : String
  /-- The package. -/
  package : Option String
  /-- The name of the data message. -/
  message : Option String
  /-- The languages to make bindings for. -/
  languages : List String
  /-- Whether the data are converted. -/
  convert : Bool
  /-- Whether the conversion runs in a process of its own. -/
  subprocess : Bool
  /-- The data file to write. -/
  dataOutput : Option String
  /-- The greatest number of entries; a negative one means all. -/
  limit : Int
  /-- How records are separated. -/
  framing : Framing
  /-- Whether the workspace is kept. -/
  keepWorkspace : Bool
  deriving DecidableEq

/-- The options of `inspect`. -/
structure InspectOptions where
  /-- The data file. -/
  file : Option String
  /-- The tree. -/
  tree : Option String
  /-- The selection of branches. -/
  branches : String
  /-- Whether the listing is JSON. -/
  json : Bool
  deriving DecidableEq

/-- The options of `convert`. -/
structure ConvertOptions where
  /-- The descriptor set. -/
  descriptor : String
  /-- The data file. -/
  file : Option String
  /-- The tree. -/
  tree : Option String
  /-- The name of the data message. -/
  message : Option String
  /-- The greatest number of entries; a negative one means all. -/
  limit : Int
  /-- The data file to write. -/
  output : Option String
  /-- How records are separated. -/
  framing : Framing
  deriving DecidableEq

/-- **What is asked for.** -/
inductive Request where
  /-- A schema. -/
  | generate (options : GenerateOptions)
  /-- A listing. -/
  | inspect (options : InspectOptions)
  /-- A data file. -/
  | convert (options : ConvertOptions)
  /-- The list of commands, because none is named. -/
  | nothing
  /-- The whole manual. -/
  | manual
  deriving DecidableEq

/-! ### Values -/

/-- The framing of a name. -/
def framingOf? (name : String) : Option Framing :=
  [Framing.concatenated, .lengthDelimited].find? (·.name == name)

/-- The names of the modes of conversion, and whether each one needs a process of its own. -/
def modes : List (String × Bool) := [("in-process", false), ("subprocess", true)]

/-- A number of entries, which has 64 bits. -/
def limitOf? (text : String) : Option Int :=
  (integerOf? text).filter fun n => -0x8000000000000000 ≤ n ∧ n < 0x8000000000000000

/-! ### Options -/

/-- The option for more messages, which every command has. -/
def verboseOption : OptionSpec := { name := "verbose", letter := some 'v', effect := .flag }

/-- The option for help, which every command has. -/
def helpOption : OptionSpec := { name := "help", letter := some 'h', effect := .stop .help }

/-- The options in front of the command. -/
def leadingOptions : List OptionSpec :=
  [verboseOption,
    { name := "markdown-help", effect := .flag },
    helpOption,
    { name := "version", letter := some 'V', effect := .stop .version }]

/-- The option for the data file. -/
def fileOption : OptionSpec := { name := "file", letter := some 'f' }

/-- The option for the tree. -/
def treeOption : OptionSpec := { name := "tree", letter := some 't' }

/-- The option for the output file. -/
def outputOption : OptionSpec := { name := "output", letter := some 'o' }

/-- The option for the selection of branches. -/
def branchesOption : OptionSpec := { name := "branches", letter := some 'b' }

/-- The option for the name of the data message. -/
def messageOption : OptionSpec := { name := "message" }

/-- The option for the number of entries. -/
def limitOption : OptionSpec :=
  { name := "max-entries", negative := true, accepts := fun s => (limitOf? s).isSome }

/-- The option for the framing. -/
def framingOption : OptionSpec :=
  { name := "framing", accepts := fun s => (framingOf? s).isSome }

/-- The options of `generate`. -/
def generateOptions : List OptionSpec :=
  [fileOption, treeOption, outputOption, branchesOption,
    { name := "package" },
    messageOption,
    { name := "gen", effect := .values },
    { name := "convert", effect := .flag },
    { name := "convert-mode", accepts := fun s => (modes.lookup s).isSome },
    { name := "data-output" },
    limitOption, framingOption,
    { name := "keep-workspace", effect := .flag },
    verboseOption, helpOption]

/-- The options of `inspect`. -/
def inspectOptions : List OptionSpec :=
  [fileOption, treeOption, branchesOption, { name := "json", effect := .flag }, verboseOption,
    helpOption]

/-- The options of `convert`. -/
def convertOptions : List OptionSpec :=
  [{ name := "descriptor", letter := some 'd' }, fileOption, treeOption, messageOption,
    limitOption, outputOption, framingOption, verboseOption, helpOption]

/-! ### Reading -/

namespace Given

/-- The number of entries that was given, or all. -/
def limit (g : Given) : Int := ((g.value? limitOption.name).bind limitOf?).getD (-1)

/-- The framing that was given, or none. -/
def framing (g : Given) : Framing :=
  ((g.value? framingOption.name).bind framingOf?).getD .concatenated

/-- The languages that were given: each value is a list that is separated by commas. -/
def languages (g : Given) : List String :=
  (g.allValues "gen").flatMap fun s => (splitAtChar ',' s.toList).map String.ofList

end Given

/-- The request for a schema. -/
def generateRequest (g : Given) : Request :=
  .generate
    { file := g.value? "file"
      tree := g.value? "tree"
      output := (g.value? "output").getD "event.proto"
      branches := (g.value? "branches").getD ""
      package := g.value? "package"
      message := g.value? "message"
      languages := g.languages
      convert := g.has "convert"
      subprocess := ((g.value? "convert-mode").bind (modes.lookup ·)).getD false
      dataOutput := g.value? "data-output"
      limit := g.limit
      framing := g.framing
      keepWorkspace := g.has "keep-workspace" }

/-- The request for a listing. -/
def inspectRequest (g : Given) : Request :=
  .inspect
    { file := g.value? "file"
      tree := g.value? "tree"
      branches := (g.value? "branches").getD ""
      json := g.has "json" }

/-- The request for a data file. The descriptor set has to be given. -/
def convertRequest (g : Given) : Except Stop Request :=
  match g.value? "descriptor" with
  | none => .error .refused
  | some descriptor =>
    .ok <| .convert
      { descriptor
        file := g.value? "file"
        tree := g.value? "tree"
        message := g.value? "message"
        limit := g.limit
        output := g.value? "output"
        framing := g.framing }

/-- The names of the commands. -/
def commandNames : List String := ["generate", "inspect", "convert"]

/-- The options among the words after a command. -/
def commandOptions (options : List OptionSpec) (words : List String) : Except Stop Given := do
  let (g, rest) ← scan options none {} words
  if rest = [] then .ok g else .error .refused

/-- The request of a command and the words after it. The word `help` in place of a command asks for
the help on one. -/
def parseCommand (name : String) (words : List String) : Except Stop Request :=
  if name = "generate" then do return generateRequest (← commandOptions generateOptions words)
  else if name = "inspect" then do return inspectRequest (← commandOptions inspectOptions words)
  else if name = "convert" then do convertRequest (← commandOptions convertOptions words)
  else if name = "help" then
    match words with
    | [] => .error .help
    | [topic] => if topic ∈ "help" :: commandNames then .error .help else .error .refused
    | _ => .error .refused
  else .error .refused

/-- **Reading a command line.** The words in front of the command are looked at first; the manual
comes in the place of the command. -/
def parse (words : List String) : Except Stop Request := do
  let (g, rest) ← scan leadingOptions none {} words
  let request ← match rest with
    | [] => pure .nothing
    | name :: words => parseCommand name words
  return if g.has "markdown-help" then .manual else request

end TreeWire.Command
