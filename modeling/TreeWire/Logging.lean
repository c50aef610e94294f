import TreeWire.Environment.Reference
import TreeWire.Text.Blank

/-!
# Log settings

How much is logged, where to and in which form. The environment can change every setting; the
settings themselves are read without regard to case.

* `TreeWire.LogLevel`, `TreeWire.LogOutput`, `TreeWire.LogFormat` – the choices;
* `TreeWire.LogSettings` – the settings and their defaults;
* `TreeWire.LogSettings.merge` – the settings with those of the environment put over them.
-/

namespace TreeWire

/-! ### Choices -/

/-- **How much is logged.** -/
inductive LogLevel where
  /-- Every entry. -/
  | trace
  /-- Every branch. -/
  | debug
  /-- Every step. -/
  | info
  /-- What can be recovered from. -/
  | warn
  /-- What ends a run. -/
  | error
  deriving DecidableEq, Repr

/-- **Where it is logged to.** -/
inductive LogOutput where
  /-- The terminal. -/
  | console
  /-- A file of every day. -/
  | file
  /-- The terminal and a file. -/
  | both
  deriving DecidableEq, Repr

/-- **The form** of a log. -/
inductive LogFormat where
  /-- Lines to be read. -/
  | text
  /-- Lines of JSON. -/
  | json
  deriving DecidableEq, Repr

/-- A choice that is not among those of a setting. -/
inductive LogFlaw where
  /-- No level has the name. -/
  | level (given : String)
  /-- No output has the name. -/
  | output (given : String)
  /-- No format has the name. -/
  | format (given : String)
  deriving DecidableEq

/-- The wording of a choice that is not there. -/
def LogFlaw.message : LogFlaw → String
  | level given => "Invalid log level: " ++ given
  | output given => "Invalid log output: " ++ given
  | format given => "Invalid log format: " ++ given

/-- A text with the capital letters of ASCII in lower case. A letter outside of ASCII never
becomes one of those that spell a choice. -/
def lowerText (s : String) : String := String.ofList (s.toList.map Char.toLower)

/-- The name of a level. -/
def LogLevel.name : LogLevel → String
  | trace => "trace"
  | debug => "debug"
  | info => "info"
  | warn => "warn"
  | error => "error"

/-- The name of an output. -/
def LogOutput.name : LogOutput → String
  | console => "console"
  | file => "file"
  | both => "both"

/-- The name of a format. -/
def LogFormat.name : LogFormat → String
  | text => "text"
  | json => "json"

/-- **The level of a name**, in any case. -/
def LogLevel.ofText (s : String) : Except LogFlaw LogLevel :=
  let name := lowerText s
  if name = "trace" then .ok trace
  else if name = "debug" then .ok debug
  else if name = "info" then .ok info
  else if name = "warn" ∨ name = "warning" then .ok warn
  else if name = "error" then .ok error
  else .error (.level s)

/-- **The output of a name**, in any case. -/
def LogOutput.ofText (s : String) : Except LogFlaw LogOutput :=
  let name := lowerText s
  if name = "console" ∨ name = "stderr" then .ok console
  else if name = "file" then .ok file
  else if name = "both" ∨ name = "all" then .ok both
  else .error (.output s)

/-- **The format of a name**, in any case. -/
def LogFormat.ofText (s : String) : Except LogFlaw LogFormat :=
  let name := lowerText s
  if name = "text" ∨ name = "pretty" then .ok text
  else if name = "json" then .ok json
  else .error (.format s)

/-- The name of a level is read back as that level. -/
@[simp] theorem LogLevel.ofText_name (l : LogLevel) : ofText l.name = .ok l := by
  cases l <;> rfl

/-- The name of an output is read back as that output. -/
@[simp] theorem LogOutput.ofText_name (o : LogOutput) : ofText o.name = .ok o := by
  cases o <;> rfl

/-- The name of a format is read back as that format. -/
@[simp] theorem LogFormat.ofText_name (f : LogFormat) : ofText f.name = .ok f := by
  cases f <;> rfl

/-! ### Settings -/

/-- **The log settings.** -/
structure LogSettings where
  /-- How much is logged. -/
  level : LogLevel := .info
  /-- Where it is logged to. -/
  output : LogOutput := .console
  /-- The form. -/
  format : LogFormat := .text
  /-- The directory of log files. -/
  directory : String := "./logs"
  /-- The beginning of the names of log files. -/
  filePrefix : String := "root2pb"
  /-- Levels for parts of the program. -/
  filter : Option String := none
  /-- Whether lines say where in the program they come from. -/
  withLocation : Bool := false
  /-- Whether lines name the part of the program that they come from. -/
  withTarget : Bool := false
  deriving DecidableEq

/-- Whether a flag is set: only the word `true` sets it, in any case. -/
def isTrueText (s : String) : Bool := lowerText (trim s) == "true"

/-- A setting with the value of a variable put over it. -/
def override {α : Type} (lookup : Lookup) (name : String) (read : String → Except LogFlaw α)
    (old : α) : Except LogFlaw α :=
  match lookup name with
  | none => .ok old
  | some text => read text

/-- **The settings with those of the environment** put over them, or the first one that is not
among the choices. A blank filter does not count. -/
def LogSettings.merge (s : LogSettings) (lookup : Lookup) : Except LogFlaw LogSettings := do
  let level ← override lookup "LOG_LEVEL" LogLevel.ofText s.level
  let output ← override lookup "LOG_OUTPUT" LogOutput.ofText s.output
  let format ← override lookup "LOG_FORMAT" LogFormat.ofText s.format
  let filter := (lookup "LOG_FILTER").filter fun text => trim text ≠ ""
  .ok
    { level
      output
      format
      directory := (lookup "LOG_DIR").getD s.directory
      filePrefix := (lookup "LOG_FILE_PREFIX").getD s.filePrefix
      filter := filter.or s.filter
      withLocation := ((lookup "LOG_INCLUDE_LOCATION").map isTrueText).getD s.withLocation
      withTarget := ((lookup "LOG_INCLUDE_TARGETS").map isTrueText).getD s.withTarget }

end TreeWire
