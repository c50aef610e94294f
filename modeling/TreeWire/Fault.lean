/-!
# Faults

Everything that can go wrong between a native tree and a data file, as one type of causes with one
function for their wording.

* `TreeWire.SystemError` – what the operating system reports;
* `TreeWire.Fault` – the causes;
* `TreeWire.Fault.message` – their wording;
* `TreeWire.Fault.isMissingSource` – whether a fault says that there is nothing to read, which
  listings treat as an empty tree.
-/

namespace TreeWire

/-- The kinds of what the operating system reports, as far as they are told apart. -/
inductive SystemError.Kind where
  /-- There is no such file. -/
  | notFound
  /-- Any other reason. -/
  | other
  deriving DecidableEq, Repr

/-- **What the operating system reports**: its kind and its wording. -/
structure SystemError where
  /-- The kind. -/
  kind : SystemError.Kind
  /-- The wording. -/
  text : String
  deriving DecidableEq, Repr

namespace SystemError

/-- There is no such file or directory. -/
def noEntry : SystemError := ⟨.notFound, "No such file or directory (os error 2)"⟩

/-- Access is denied. -/
def accessDenied : SystemError := ⟨.other, "Permission denied (os error 13)"⟩

/-- What should be a directory is none. -/
def notDirectory : SystemError := ⟨.other, "Not a directory (os error 20)"⟩

/-- What should be a file is a directory. -/
def isDirectory : SystemError := ⟨.other, "Is a directory (os error 21)"⟩

/-- A name is longer than a file system takes. -/
def nameTooLong : SystemError := ⟨.other, "File name too long (os error 36)"⟩

/-- A path with a zero character cannot be handed to the operating system. -/
def zeroInPath : SystemError := ⟨.other, "file name contained an unexpected NUL byte"⟩

/-- A word with a zero character cannot be handed to a program. -/
def zeroInWord : SystemError := ⟨.other, "nul byte found in provided data"⟩

/-- Only files can be copied. -/
def notRegularFile : SystemError :=
  ⟨.other, "the source path is neither a regular file nor a symlink to a regular file"⟩

/-- The empty path names nothing below a directory. -/
def emptyPath : SystemError := ⟨.other, "cannot make an empty path absolute"⟩

end SystemError

/-- **The causes** for which reading, building or converting fails. -/
inductive Fault where
  /-- The operating system refused something. -/
  | io (error : SystemError)
  /-- A descriptor set cannot be decoded. -/
  | decode (reason : String)
  /-- A data file cannot be read. -/
  | sourceFormat (reason : String)
  /-- The data file has no tree of that name. -/
  | treeNotFound (tree path : String)
  /-- The tree has no branch of that name. -/
  | branchNotFound (tree branch : String)
  /-- The branch holds other values than the schema asks for. -/
  | bindMismatch (branch expected actual : String)
  /-- A value does not fit its kind. -/
  | valueOutOfRange (branch : String) (entry : Nat) (detail : String)
  /-- An entry cannot be loaded. -/
  | entryLoad (tree : String) (entry : Nat)
  /-- A descriptor set does not describe the data message. -/
  | descriptor (reason : String)
  /-- A field has a type that no column can fill. -/
  | unsupportedFieldType (field declared : String)
  /-- A name is no identifier, or a reserved one. -/
  | invalidName (reason : String)
  /-- A program cannot be started. -/
  | toolLaunch (program : String) (error : SystemError)
  /-- A program failed. -/
  | toolFailed (program status : String)
  /-- A setting is missing or cannot be used. -/
  | config (reason : String)
  deriving DecidableEq, Repr

namespace Fault

/-- **The wording** of a fault. -/
def message : Fault → String
  | io error => "IO error: " ++ error.text
  | decode reason => "Descriptor decode error: " ++ reason
  | sourceFormat reason => "Unsupported or malformed data source: " ++ reason
  | treeNotFound tree path => "Tree not found: " ++ tree ++ " (in " ++ path ++ ")"
  | branchNotFound tree branch => "Branch not found: " ++ branch ++ " (in tree " ++ tree ++ ")"
  | bindMismatch branch expected actual =>
    "Branch " ++ branch ++ " holds " ++ actual ++ " values but the schema expects " ++ expected
  | valueOutOfRange branch entry detail =>
    "Value out of range in branch " ++ branch ++ " at entry " ++ toString entry ++ ": " ++ detail
  | entryLoad tree entry => "Problem loading entry " ++ toString entry ++ " of tree " ++ tree
  | descriptor reason => "Descriptor error: " ++ reason
  | unsupportedFieldType field declared =>
    "Field " ++ field ++ " has unsupported protobuf type " ++ declared
  | invalidName reason => "Invalid protobuf identifier: " ++ reason
  | toolLaunch program error => "Could not launch " ++ program ++ ": " ++ error.text
  | toolFailed program status => program ++ " exited unsuccessfully (" ++ status ++ ")"
  | config reason => "Configuration error: " ++ reason

/-- **Whether there is nothing to read**: the file or the tree does not exist. -/
def isMissingSource : Fault → Bool
  | treeNotFound .. => true
  | io error => error.kind = .notFound
  | _ => false

end Fault

end TreeWire
