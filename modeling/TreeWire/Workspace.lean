import TreeWire.Schema.Extraction
import TreeWire.Session

/-!
# Workspaces

A conversion in a process of its own runs in a fresh directory, which holds a copy of the
descriptor set. The directory is removed afterwards unless it is to be kept.

* `TreeWire.Workspace.create` – a fresh directory;
* `TreeWire.Workspace.stage` – a copy of a file in it;
* `TreeWire.Workspace.remove` – its removal.
-/

namespace TreeWire

/-- The beginning of the names of workspaces. -/
def workspacePrefix : String := "root2pb-"

/-- **A workspace**, by its path and its location. -/
structure Workspace where
  /-- The path. -/
  path : String
  /-- The location. -/
  location : Location
  deriving DecidableEq

namespace Workspace

/-- The name of a fresh workspace among the names in a directory. -/
def freshDirectory (names : List String) : String := freshName "0" names (workspacePrefix ++ "0")

/-- **A fresh directory** for temporary files. -/
def create (h : Host) : Task Fault Workspace := Task.onStore fun s =>
  match s.locate h.workingDirectory h.temporaryDirectory with
  | .error e => (.error (.io e), s)
  | .ok l =>
    if s.get? l = some .directory then
      let name := freshDirectory (s.names l)
      (.ok ⟨Path.join h.temporaryDirectory name, l ++ [name]⟩, s.put (l ++ [name]) .directory)
    else (.error (.io .noEntry), s)

/-- **A copy of a file** in the workspace, by its path. -/
def stage (w : Workspace) (h : Host) (file : String) : Task Fault String := Task.onStore fun s =>
  match Path.fileName? file with
  | none => (.error (.config ("cannot stage " ++ file ++ ": no file name")), s)
  | some name =>
    match s.node h.workingDirectory file with
    | .error e => (.error (.io e), s)
    | .ok .directory => (.error (.io .notRegularFile), s)
    | .ok (.file contents) =>
      (.ok (Path.join w.path name), s.put (w.location ++ [name]) (.file contents))

/-- **The removal** of a workspace and everything in it. -/
def remove (w : Workspace) : Task Fault Unit := Task.onStore fun s => (.ok (), s.remove w.location)

end Workspace

end TreeWire
