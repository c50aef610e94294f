import TreeWire.Text.Split

/-!
# Paths

Paths are texts whose components are separated by slashes. Empty components and components of a
single dot do not count, except that a path may start with a slash or with a dot. The parts of a
path are cut out of its text, so that they read as they were written.

* `TreeWire.Path.Shape` – the text of a path taken apart at its last component;
* `TreeWire.Path.fileName?`, `TreeWire.Path.parent?`, `TreeWire.Path.stem?`,
  `TreeWire.Path.extension?` – the parts of a path;
* `TreeWire.Path.join` – a path below another one;
* `TreeWire.Path.absolute` – a path made independent of the working directory.
-/

namespace TreeWire.Path

/-! ### Components -/

/-- Whether a path starts at the root. -/
def isAbsolute (path : List Char) : Bool := path.head? == some '/'

/-- Whether a path starts with a component of a single dot. -/
def startsWithDot : List Char → Bool
  | ['.'] => true
  | '.' :: '/' :: _ => true
  | _ => false

/-- The number of characters in front of the first component that counts by itself: the slash of
the root, or the dot that a path starts with. -/
def leadLength (path : List Char) : Nat :=
  if isAbsolute path || startsWithDot path then 1 else 0

/-- The text split at slashes. -/
def splitSlash (path : List Char) : List (List Char) := splitAtChar '/' path

/-- Whether a piece between slashes is a component. -/
def isComponent (piece : List Char) : Bool := piece != [] && piece != ['.']

/-- The components of a path, without the root and a leading dot. -/
def components (path : List Char) : List (List Char) :=
  (splitSlash path).filter isComponent

/-! ### The last component -/

/-- A text in reverse without the slashes and single dots at its end. -/
def dropPadding : List Char → List Char
  | '/' :: r => dropPadding r
  | ['.'] => []
  | '.' :: '/' :: r => dropPadding r
  | r => r

/-- The last component of a path, and what is in front of it without slashes and single dots at
its end. -/
def splitLast (path : List Char) : Option (List Char × List Char) :=
  let lead := path.take (leadLength path)
  let body := dropPadding (path.drop (leadLength path)).reverse
  let last := body.takeWhile (· != '/')
  if last = [] then none
  else some (lead ++ (dropPadding (body.dropWhile (· != '/'))).reverse, last.reverse)

/-- **The file name**: the last component, unless it is the one that leads upwards. -/
def fileName? (path : String) : Option String :=
  match splitLast path.toList with
  | some (_, last) => if last = ['.', '.'] then none else some (String.ofList last)
  | none => none

/-- **The parent**: what is in front of the last component. A path that is only the leading dot
has the empty path as its parent; the root and the empty path have none. -/
def parent? (path : String) : Option String :=
  match splitLast path.toList with
  | some (front, _) => some (String.ofList front)
  | none => if startsWithDot path.toList then some "" else none

/-- The directory of a file: its parent, or the working directory by its short name. -/
def directory (path : String) : String :=
  match parent? path with
  | some dir => if dir = "" then "." else dir
  | none => "."

/-- A file name taken apart at its last dot, unless that is its first character. -/
def splitDot (name : List Char) : List Char × Option (List Char) :=
  let after := (name.reverse.takeWhile (· != '.')).reverse
  let before := (name.reverse.dropWhile (· != '.')).reverse.dropLast
  if before = [] then (name, none) else (before, some after)

/-- The file name without its extension. -/
def stem? (path : String) : Option String :=
  (fileName? path).map fun name => String.ofList (splitDot name.toList).1

/-- **The extension**: what follows the last dot of the file name, unless that is its first
character. -/
def extension? (path : String) : Option String :=
  match fileName? path with
  | some name => (splitDot name.toList).2.map String.ofList
  | none => none

/-! ### Joining -/

/-- **A path below another one**. An absolute path stays as it is. -/
def join (dir path : String) : String :=
  if isAbsolute path.toList then path
  else if dir = "" ∨ dir.toList.getLast? = some '/' then dir ++ path
  else dir ++ "/" ++ path

/-- **A path made absolute**: from the root or from the working directory, with its components
separated by single slashes, and with a slash at the end if there was one. Components that lead
upwards stay. -/
def absolute (workingDirectory path : String) : String :=
  let cs := path.toList
  let start :=
    if !isAbsolute cs then workingDirectory
    else if cs.take 2 = ['/', '/'] ∧ cs.take 3 ≠ ['/', '/', '/'] then "//"
    else "/"
  let joined := (components cs).foldl (fun dir piece => join dir (String.ofList piece)) start
  if cs.getLast? = some '/' then
    (if joined.toList.getLast? = some '/' then joined else joined ++ "/")
  else joined

example : parent? "a/./b.proto" = some "a" ∧ fileName? "a/./b.proto" = some "b.proto" := by decide

example : parent? "//x.proto" = some "/" ∧ parent? "./x.proto" = some "." := by decide

example : parent? "x.proto" = some "" ∧ parent? "a/." = some "" ∧ parent? "." = some "" := by
  decide

example : parent? "/./a" = some "/" ∧ parent? "/." = none ∧ parent? "./." = some "" := by decide

example : parent? "/" = none ∧ fileName? "a/.." = none ∧ parent? "a/.." = some "a" := by decide

example : stem? ".json" = some ".json" ∧ stem? "a.b.json" = some "a.b" := by decide

example : stem? "..." = some ".." := by decide

example : absolute "/w" "./a//b/../c" = "/w/a/b/../c" := by decide

end TreeWire.Path
