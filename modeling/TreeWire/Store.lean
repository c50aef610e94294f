import TreeWire.Bytes
import TreeWire.Fault
import TreeWire.Path

/-!
# File stores

The files and directories that a run can see, as a value. A path is walked component by component
from the root or from the working directory; every component but the last has to lead to a
directory.

* `TreeWire.Location` – the names that lead from the root to a file or directory;
* `TreeWire.Store` – what stands at which location;
* `TreeWire.Store.locate` – the location that a path leads to;
* `TreeWire.Store.read`, `TreeWire.Store.create`, `TreeWire.Store.write` – files by their paths.
-/

namespace TreeWire

/-- **A location**: the names that lead to it from the root. -/
abbrev Location := List String

/-- What stands at a location. -/
inductive Node where
  /-- A file with its contents. -/
  | file (contents : Bytes)
  /-- A directory. -/
  | directory
  deriving DecidableEq

/-- **A store**: the locations at which something stands, each with what stands there. The root is
always a directory and is not listed. -/
structure Store where
  /-- The locations in the order in which they were filled. -/
  nodes : List (Location × Node)

namespace Store

/-- The store without any files. -/
def empty : Store := ⟨[]⟩

/-- What stands at a location. -/
def get? (s : Store) (l : Location) : Option Node :=
  if l = [] then some .directory else (s.nodes.find? fun e => e.1 = l).map (·.2)

/-- The list with a node at a location, in the place of what stood there. -/
def putNode (l : Location) (n : Node) : List (Location × Node) → List (Location × Node)
  | [] => [(l, n)]
  | e :: rest => if e.1 = l then (l, n) :: rest else e :: putNode l n rest

/-- The store with a node at a location, in the place of what stood there. -/
def put (s : Store) (l : Location) (n : Node) : Store := ⟨putNode l n s.nodes⟩

theorem find?_putNode (l k : Location) (n : Node) (nodes : List (Location × Node)) :
    ((putNode l n nodes).find? fun e => e.1 = k) =
      if k = l then some (l, n) else nodes.find? fun e => e.1 = k := by
  induction nodes with
  | nil => by_cases h : k = l <;> simp [putNode, h, eq_comm]
  | cons e rest ih =>
    by_cases he : e.1 = l <;> by_cases hk : k = l
    · simp [putNode, he, hk]
    · have hlk : ¬ l = k := fun h => hk h.symm
      simp [putNode, he, hk, hlk]
    · simp [putNode, he, hk] at ih ⊢
      exact ih
    · by_cases hek : e.1 = k <;> simp [putNode, he, hk, hek] at ih ⊢
      exact ih

/-- Below the root, a node is found where it was put, and everything else where it was. -/
theorem get?_put {l : Location} (hl : l ≠ []) (s : Store) (n : Node) (k : Location) :
    (s.put l n).get? k = if k = l then some n else s.get? k := by
  unfold get? put
  by_cases hk : k = []
  · subst hk
    have : ¬ ([] : Location) = l := fun h => hl h.symm
    simp [this]
  · by_cases hkl : k = l <;> simp [hk, hkl, find?_putNode]
    simp [hl]

/-- The store without a location and everything below it. -/
def remove (s : Store) (l : Location) : Store :=
  ⟨s.nodes.filter fun e => !l.isPrefixOf e.1⟩

/-- The names of what stands directly in a directory. -/
def names (s : Store) (l : Location) : List String :=
  s.nodes.filterMap fun e => if e.1.dropLast = l then e.1.getLast? else none

/-! ### Walking a path -/

/-- The longest name, in bytes, that a file system takes. -/
def longestName : Nat := 255

/-- The longest path, in bytes, that can be walked. -/
def longestPath : Nat := 4095

/-- The location that the pieces of a path lead to from a location. Whatever a piece starts from
has to be a directory. -/
def walk (s : Store) (l : Location) : List (List Char) → Except SystemError Location
  | [] => .ok l
  | piece :: pieces =>
    match s.get? l with
    | none => .error .noEntry
    | some (.file _) => .error .notDirectory
    | some .directory =>
      if !Path.isComponent piece then s.walk l pieces
      else if piece = ['.', '.'] then s.walk l.dropLast pieces
      else
        let name := String.ofList piece
        if longestName < name.utf8ByteSize then .error .nameTooLong
        else s.walk (l ++ [name]) pieces

/-- The location of an absolute path that has no components leading upwards. -/
def locationOf (path : String) : Location :=
  (Path.components path.toList).map String.ofList

/-- **The location that a path leads to** from a working directory, at which something may stand or
not. -/
def locate (s : Store) (workingDirectory path : String) : Except SystemError Location :=
  if path = "" then .error .noEntry
  else if path.toList.contains '\x00' then .error .zeroInPath
  else if longestPath < path.utf8ByteSize then .error .nameTooLong
  else
    let start := if Path.isAbsolute path.toList then [] else locationOf workingDirectory
    s.walk start (Path.splitSlash path.toList)

/-- What a path leads to. -/
def node (s : Store) (workingDirectory path : String) : Except SystemError Node := do
  let l ← s.locate workingDirectory path
  match s.get? l with
  | some n => .ok n
  | none => .error .noEntry

/-! ### Files -/

/-- **The contents of a file.** -/
def read (s : Store) (workingDirectory path : String) : Except SystemError Bytes := do
  match ← s.node workingDirectory path with
  | .file contents => .ok contents
  | .directory => .error .isDirectory

/-- Whether a path leads to something. -/
def holds (s : Store) (workingDirectory path : String) : Bool :=
  (s.node workingDirectory path).isOk

/-- Whether a path leads to a directory. -/
def isDirectory (s : Store) (workingDirectory path : String) : Bool :=
  match s.node workingDirectory path with
  | .ok .directory => true
  | _ => false

/-- The path without the slashes at its end. -/
def dropSlashes (path : String) : String :=
  String.ofList (path.toList.reverse.dropWhile (· == '/')).reverse

/-- **An empty file at a path**, and its location. A file that stands there already loses its
contents. A path with a slash at its end can only be that of a directory. -/
def create (s : Store) (workingDirectory path : String) : Except SystemError (Location × Store) :=
  if dropSlashes path ≠ path ∧ dropSlashes path ≠ "" then
    match s.node workingDirectory (dropSlashes path) with
    | .ok (.file _) => .error .notDirectory
    | .ok .directory => .error .isDirectory
    | .error e => if e = .noEntry ∧ (s.locate workingDirectory (dropSlashes path)).isOk then
        .error .isDirectory else .error e
  else
    match s.locate workingDirectory path with
    | .error e => .error e
    | .ok l =>
      match s.get? l with
      | some .directory => .error .isDirectory
      | _ => .ok (l, s.put l (.file []))

end Store

end TreeWire
