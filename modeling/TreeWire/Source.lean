import TreeWire.Dump
import TreeWire.Gzip.Member
import TreeWire.Store

/-!
# Data files

A data file is opened by its name: dumps end in `.json`, compressed ones in `.json.gz`, in any
case. Whether a dump is decompressed is decided by the extension as it is written.

* `TreeWire.Source` – an opened file: its path and its trees;
* `TreeWire.Source.ofDump` – a dump of any name;
* `TreeWire.Source.open` – a data file, by its name.
-/

namespace TreeWire

/-- **An opened data file.** -/
structure Source where
  /-- The path it was opened from. -/
  path : String
  /-- Its trees. -/
  trees : List Tree

namespace Source

/-- Whether a file is compressed, by its extension as it is written. -/
def isCompressed (path : String) : Bool := Path.extension? path == some "gz"

/-- The feed of what stands at a path. A directory can be opened but not read. -/
def feed (path : String) : Node → Feed
  | .directory => .broken SystemError.isDirectory.text
  | .file contents => if isCompressed path then Gzip.unpack contents else .ofBytes contents

/-- **A dump of any name.** -/
def ofDump (s : Store) (workingDirectory path : String) : Except Fault Source :=
  match s.node workingDirectory path with
  | .error e => .error (.io e)
  | .ok n =>
    match Dump.read (feed path n) with
    | .ok trees => .ok ⟨path, trees⟩
    | .error flaw => .error (.sourceFormat (path ++ ": " ++ flaw.message))

/-- The file name of a path in lower case. -/
def lowerName (path : String) : List Char :=
  match Path.fileName? path with
  | some name => name.toList.map Char.toLower
  | none => []

/-- Whether a path names a dump. -/
def isDump (path : String) : Bool :=
  ".json".toList.isSuffixOf (lowerName path) || ".json.gz".toList.isSuffixOf (lowerName path)

/-- **A data file**, by its name. Of a file that is no dump, a missing one is reported as missing
before its name is complained about. -/
def «open» (s : Store) (workingDirectory path : String) : Except Fault Source :=
  if isDump path then ofDump s workingDirectory path
  else if s.holds workingDirectory path then
    .error (.sourceFormat
      (path ++ ": no reader for this file type (expected .json or .json.gz)"))
  else .error (.io ⟨.notFound, path ++ " does not exist"⟩)

/-- The names of the trees. -/
def treeNames (s : Source) : List String := s.trees.map (·.name)

/-- The tree of a name, the first one if there are several. -/
def tree (s : Source) (name : String) : Except Fault Tree := findTree s.path s.trees name

end Source

end TreeWire
