import TreeWire.Fault
import TreeWire.Path

/-!
# Failures of commands

A command tells its user what went wrong and, where there is one, what to do about it. Some faults
have an advice of their own; all others are passed on as they are.

* `TreeWire.Command.Failure` – the failures;
* `TreeWire.Command.Failure.ofFault` – the failure of a fault;
* `TreeWire.Command.Failure.message` – the wording.
-/

namespace TreeWire.Command

/-- **The failures of commands.** -/
inductive Failure where
  /-- An option that the command needs is missing. -/
  | missingArgument (option : String)
  /-- A file does not exist. -/
  | fileNotFound (reason : String)
  /-- A tree does not exist. -/
  | treeNotFound (reason : String)
  /-- The schema compiler cannot be started. -/
  | compiler (reason : String)
  /-- A setting cannot be used. -/
  | config (reason : String)
  /-- The operating system refused something. -/
  | io (error : SystemError)
  /-- Any other fault. -/
  | pipeline (fault : Fault)
  deriving DecidableEq

namespace Failure

/-- Whether a program is the schema compiler, by its name. -/
def isCompiler (program : String) : Bool :=
  match Path.fileName? program with
  | some name => "protoc".toList.isPrefixOf name.toList
  | none => false

/-- **The failure of a fault.** -/
def ofFault : Fault → Failure
  | .treeNotFound tree path => treeNotFound (Fault.treeNotFound tree path).message
  | .io error => if error.kind = .notFound then fileNotFound error.text else pipeline (.io error)
  | .toolLaunch program error =>
    if isCompiler program then compiler (Fault.toolLaunch program error).message
    else pipeline (.toolLaunch program error)
  | .config reason => config reason
  | fault => pipeline fault

/-- **The wording of a failure.** -/
def message : Failure → String
  | missingArgument option => "Missing required argument: " ++ option
  | fileNotFound reason =>
    "File not found: '" ++ reason ++
      "'. Verify the file path exists and you have read permissions."
  | treeNotFound reason =>
    reason ++ ". Run 'root2pb inspect' against the file to check the tree name."
  | compiler reason =>
    reason ++ ". Install protoc or point the PROTOC environment variable at it."
  | config reason =>
    "Configuration error: " ++ reason ++ ". Check your environment variables and flags."
  | io error =>
    "File operation failed: " ++ error.text ++ ". Check file permissions and disk space."
  | pipeline fault => fault.message

end Failure

end TreeWire.Command
