import TreeWire.Environment.Reference
import TreeWire.Text.Split

/-!
# Settings

What the environment decides: the schema compiler and its include directories, and the package and
the message name of generated schemas.

* `TreeWire.Settings` – the settings and their defaults;
* `TreeWire.Settings.of` – the settings of an environment.
-/

namespace TreeWire

/-- The name of the schema compiler where none is set. -/
def defaultCompiler : String := "protoc"

/-- **The settings.** -/
structure Settings where
  /-- The schema compiler. -/
  compiler : String := defaultCompiler
  /-- The directories in which it looks for imports. -/
  includes : List String := []
  /-- The package of generated schemas. -/
  package : String := "root2pb"
  /-- The name of the data message. -/
  message : String := "Event"
  deriving DecidableEq

/-- The value of a variable, unless it is empty. -/
def nonEmpty (lookup : Lookup) (name : String) : Option String :=
  (lookup name).filter (· ≠ "")

/-- The directories of a list that is separated by colons, without the empty ones. -/
def directoryList (text : String) : List String :=
  ((splitAtChar ':' text.toList).filter (· ≠ [])).map String.ofList

/-- **The settings of an environment.** An empty variable counts as one that is not set. -/
def Settings.of (lookup : Lookup) : Settings :=
  let defaults : Settings := {}
  { compiler := (nonEmpty lookup "PROTOC").getD defaults.compiler
    includes := ((lookup "ROOT2PB_PROTO_PATH").map directoryList).getD defaults.includes
    package := (nonEmpty lookup "ROOT2PB_PACKAGE").getD defaults.package
    message := (nonEmpty lookup "ROOT2PB_MESSAGE").getD defaults.message }

end TreeWire
