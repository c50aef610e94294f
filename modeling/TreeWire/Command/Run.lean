import TreeWire.Command.Perform
import TreeWire.Environment.Definitions

/-!
# Runs of the program

A run reads its command line, takes the variables of the file that counts in its working directory
over those that are not set, and carries out its command. It ends with a code: 0 after success, 1
after a failure, and 2 if the command line is refused.

* `TreeWire.Command.run` – a run, which can start the program itself for a conversion;
* `TreeWire.Command.asProgram` – the program as one that others can start.
-/

namespace TreeWire.Command

/-! ### Texts -/

/-- The name and version of the program. -/
def versionText : String := "root2pb 0.1.0"

/-- What a command needs on its command line. -/
def usage (command : String) : String :=
  "Usage: root2pb " ++ command ++ " [OPTIONS]" ++
    if command = "convert" then " --descriptor <DESCRIPTOR>" else ""

/-- The hint at the help. -/
def helpHint : String := "For more information, try '--help'."

/-- The line of an option in a help text. -/
def OptionSpec.line (o : OptionSpec) : String :=
  let letter := match o.letter with
    | some c => "-" ++ String.ofList [c] ++ ", "
    | none => "    "
  "  " ++ letter ++ "--" ++ o.name ++ if o.effect.hasValue then " <VALUE>" else ""

/-- The help text. -/
def helpText : String :=
  "\n".intercalate <|
    ["Turns trees into schemas and data files", "", "Usage: root2pb [OPTIONS] [COMMAND]", "",
      "Commands:"] ++
    ("help" :: commandNames).map ("  " ++ ·) ++
    ["", "Options:"] ++ leadingOptions.map OptionSpec.line

/-- The part of the manual about a command. -/
def commandManual (name : String) (options : List OptionSpec) : List String :=
  ["", "## root2pb " ++ name, "", usage name, "", "Options:"] ++ options.map OptionSpec.line

/-- The manual. -/
def manualText : String :=
  "\n".intercalate <|
    ["# Command-Line Help for root2pb"] ++
    commandManual "generate" generateOptions ++
    commandManual "inspect" inspectOptions ++
    commandManual "convert" convertOptions

/-! ### Ends of runs -/

/-- The session with a text on standard error. -/
def printErrors (s : Session) (text : String) : Session := { s with errors := s.errors ++ text }

/-- The session with a line on standard output. -/
def printLine (s : Session) (line : String) : Session :=
  { s with output := s.output ++ line ++ "\n" }

/-- What is printed about a failure of a command. -/
def failureText (command : String) : Failure → String
  | .missingArgument option =>
    "Error: " ++ option ++ " is required\n\n" ++ usage command ++ "\n\n" ++ helpHint ++ "\n"
  | failure => "Error: " ++ failure.message ++ "\n"

/-- The code at the end of a command, and the session with what is printed about its failure. -/
def finish (command : String) : Except Failure Unit × Session → Nat × Session
  | (.ok (), s) => (0, s)
  | (.error failure, s) => (1, printErrors s (failureText command failure))

/-- Carrying out a request. -/
def perform (h : Host) (request : Request) (s : Session) : Nat × Session :=
  match request with
  | .generate o => finish "generate" ((generate h o).run s)
  | .inspect o => finish "inspect" ((inspect h o).run s)
  | .convert o => finish "convert" ((convert h o).run s)
  | .nothing => (1, printLine s helpText)
  | .manual => (0, printLine s manualText)

/-- A run, given what has to be done to the host once its variables are known. -/
def runWith (prepare : Host → Host) (h : Host) (words : List String) (s : Session) :
    Nat × Session :=
  match parse words with
  | .error .refused =>
    (2, printErrors s ("error: the command line is not valid\n\n" ++
      "Usage: root2pb [OPTIONS] [COMMAND]\n\n" ++ helpHint ++ "\n"))
  | .error .help => (0, printLine s helpText)
  | .error .version => (0, printLine s versionText)
  | .ok request =>
    let environment := Definitions.environment h.environment s.store h.workingDirectory
    perform (prepare { h with environment }) request s

/-- **The program as one that others can start**, with the variables of their host. It starts no
programs but theirs. -/
def asProgram (h : Host) : Program := fun words directory s =>
  let (code, s) := runWith id { h with workingDirectory := directory } words s
  (.exited code, s)

/-- A host on which the program can be started under its own path. -/
def withItself (h : Host) : Host :=
  { h with programs := (h.executable, asProgram h) :: h.programs }

/-- **A run of the program**: the code at its end, and the session after it. -/
def run (h : Host) (words : List String) (s : Session) : Nat × Session :=
  runWith withItself h words s

end TreeWire.Command
