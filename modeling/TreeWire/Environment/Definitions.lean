import TreeWire.Environment.Reference
import TreeWire.Store
import TreeWire.Text.Alphanumeric
import TreeWire.Text.Blank

/-!
# Files of variables

A file in the working directory can define variables, one a line: an optional word `export`, a
name, an equals sign and a value, which may be quoted and may refer to other variables. Lines of a
quoted value belong together. The definitions before the first malformed line count, and none of
them changes a variable that is set already.

* `TreeWire.Definitions.logicalLines` – the lines of a file, those of a quoted value joined;
* `TreeWire.Definitions.value?` – the text of a value;
* `TreeWire.Definitions.extend` – an environment with the definitions of a file;
* `TreeWire.Definitions.file?` – the file that counts in a directory.
-/

namespace TreeWire.Definitions

/-! ### Lines -/

/-- **Where a line stands** while its end is looked for. -/
inductive Place where
  /-- Outside of quotes. -/
  | plain
  /-- After a backslash outside of quotes. -/
  | escape
  /-- After blank characters outside of quotes. -/
  | blank
  /-- Inside single quotes. -/
  | strong
  /-- After a backslash inside single quotes. -/
  | strongEscape
  /-- Inside double quotes. -/
  | weak
  /-- After a backslash inside double quotes. -/
  | weakEscape
  /-- In a comment. -/
  | comment
  deriving DecidableEq

/-- The place after one more character. -/
def Place.after : Place → Char → Place
  | .blank, c =>
    if c = '#' then .comment
    else if c = '\\' then .escape
    else if c = '"' then .weak
    else if c = '\'' then .strong
    else .plain
  | .escape, _ => .plain
  | .plain, c =>
    if isBlank c && c != '\n' && c != '\r' then .blank
    else if c = '\\' then .escape
    else if c = '"' then .weak
    else if c = '\'' then .strong
    else .plain
  | .weak, c => if c = '\\' then .weakEscape else if c = '"' then .plain else .weak
  | .weakEscape, _ => .weak
  | .strong, c => if c = '\\' then .strongEscape else if c = '\'' then .plain else .strong
  | .strongEscape, _ => .strong
  | .comment, _ => .comment

/-- The place at the end of a line, and the line without its comment. -/
def scan (p : Place) : List Char → Place × List Char
  | [] => (p, [])
  | c :: cs =>
    match p.after c with
    | .comment => (.comment, [])
    | q =>
      let (r, line) := scan q cs
      (r, c :: line)

/-- A line without the line feed, and the carriage return in front of it, at its end. -/
def dropLineEnd (line : List Char) : List Char :=
  match line.reverse with
  | '\n' :: '\r' :: r => r.reverse
  | '\n' :: r => r.reverse
  | _ => line

/-- A file cut after every line feed. -/
def cutLines : Bytes → List Bytes
  | [] => []
  | b :: bs =>
    match cutLines bs with
    | [] => [[b]]
    | line :: lines => if b = 0x0A then [b] :: line :: lines else (b :: line) :: lines

/-- The lines of a file up to the first one that is no text. -/
def physicalLines (file : Bytes) : List (List Char) :=
  (((cutLines file).map ofUtf8?).takeWhile Option.isSome).filterMap fun line =>
    line.map String.toList

/-- **The lines of a file**, those of a quoted value joined, up to the end or to a value whose
quotes are not closed, which gives nothing. `held` is what has been joined so far. -/
def logicalLines (p : Place) (held : List Char) : List (List Char) → List (Option (List Char))
  | [] => if p = .plain then [] else [none]
  | line :: lines =>
    if (held ++ line).dropWhile isBlank |>.head? |> (· == some '#') then
      some [] :: logicalLines .plain [] lines
    else
      match scan p line with
      | (.plain, _) => some (dropLineEnd (held ++ line)) :: logicalLines .plain [] lines
      | (.comment, kept) => some (held ++ kept) :: logicalLines .plain [] lines
      | (q, _) => logicalLines q (held ++ line) lines

/-! ### Values -/

/-- **What a value has been read to be** so far. -/
structure Reading where
  /-- Whether single quotes are open. -/
  strong : Bool := false
  /-- Whether double quotes are open. -/
  weak : Bool := false
  /-- Whether a backslash came last. -/
  escaped : Bool := false
  /-- Whether the value is over and only a comment may follow. -/
  ended : Bool := false
  /-- Whether a reference is open, and whether it is in braces. -/
  reference : Option Bool := none
  /-- The name of the open reference. -/
  name : List Char := []
  /-- The text of the value. -/
  text : List Char := []

/-- The reading with the open reference replaced by its value. -/
def Reading.close (r : Reading) (lookup : Lookup) : Reading :=
  { r with
    reference := none
    name := []
    text := r.text ++ ((lookup (String.ofList r.name)).getD "").toList }

/-- The reading after a character that stands for itself. -/
def Reading.keep (r : Reading) (c : Char) : Reading := { r with text := r.text ++ [c] }

/-- Whether a character can be part of the name of a reference without braces: the letters and
digits of all scripts can. -/
def isNameChar (c : Char) : Bool := isLetterOrDigit c

/-- The reading after one more character, if the value is well formed so far. The second component
tells that the rest is a comment. -/
def Reading.step (lookup : Lookup) (r : Reading) (c : Char) : Option (Reading × Bool) :=
  if r.ended then
    if c = ' ' ∨ c = '\t' then some (r, false) else if c = '#' then some (r, true) else none
  else if r.escaped then
    if c = '\\' ∨ c = '\'' ∨ c = '"' ∨ c = '$' ∨ c = ' ' then
      some ({ r.keep c with escaped := false }, false)
    else if c = 'n' then some ({ r.keep '\n' with escaped := false }, false)
    else none
  else if r.strong then
    if c = '\'' then some ({ r with strong := false }, false) else some (r.keep c, false)
  else
    match r.reference with
    | some braces =>
      if isNameChar c then some ({ r with name := r.name ++ [c] }, false)
      else if braces then
        if c = '\x7d' then some (r.close lookup, false)
        else some ({ r with name := r.name ++ [c] }, false)
      else if c = '\x7b' ∧ r.name = [] then some ({ r with reference := some true }, false)
      else if c = '$' then some ({ r.close lookup with reference := some false }, false)
      else some ((r.close lookup).keep c, false)
    | none =>
      if c = '$' then some ({ r with reference := some false }, false)
      else if r.weak then
        if c = '"' then some ({ r with weak := false }, false)
        else if c = '\\' then some ({ r with escaped := true }, false)
        else some (r.keep c, false)
      else if c = '\'' then some ({ r with strong := true }, false)
      else if c = '"' then some ({ r with weak := true }, false)
      else if c = '\\' then some ({ r with escaped := true }, false)
      else if c = ' ' ∨ c = '\t' then some ({ r with ended := true }, false)
      else some (r.keep c, false)

/-- The reading after the characters of a value. -/
def Reading.run (lookup : Lookup) (r : Reading) : List Char → Option Reading
  | [] => some r
  | c :: cs =>
    match r.step lookup c with
    | none => none
    | some (r, true) => some r
    | some (r, false) => r.run lookup cs

/-- **The text of a value**, if it is well formed. -/
def value? (lookup : Lookup) (cs : List Char) : Option String :=
  match (Reading.run lookup {} cs) with
  | none => none
  | some r =>
    if r.reference = some true ∨ r.strong ∨ r.weak then none
    else some (String.ofList (r.close lookup).text)

/-! ### Definitions -/

/-- The name at the front of a line, and the rest. -/
def key? (cs : List Char) : Option (List Char × List Char) :=
  let inName := fun c : Char => isWordChar c || c == '.'
  match cs with
  | c :: _ =>
    if c.isAlpha ∨ c = '_' then some (cs.takeWhile inName, (cs.dropWhile inName).dropWhile isBlank)
    else none
  | [] => none

/-- What follows an equals sign at the front, without blank characters. -/
def afterEquals? : List Char → Option (List Char)
  | '=' :: r => some (r.dropWhile isBlank)
  | _ => none

/-- **The definition on a line**: nothing on a malformed one, and no definition on one that is
empty or a comment. -/
def definition? (lookup : Lookup) (line : List Char) : Option (Option (String × String)) :=
  let cs := ((line.reverse.dropWhile isBlank).reverse).dropWhile isBlank
  if cs = [] ∨ cs.head? = some '#' then some none
  else do
    let (name, rest) ← key? cs
    let (name, rest) ← match afterEquals? rest with
      | some r => some (name, r)
      | none =>
        if name = "export".toList then do
          let (name, rest) ← key? rest
          let r ← afterEquals? rest
          some (name, r)
        else none
    if rest = [] ∨ rest.head? = some '#' then some (some (String.ofList name, ""))
    else do
      let v ← value? lookup rest
      some (some (String.ofList name, v))

/-- An environment with one more variable, unless it is set already. -/
def define (lookup : Lookup) (name value : String) : Lookup := fun key =>
  match lookup key with
  | some v => some v
  | none => if key = name then some value else none

/-- The environment with the definitions of some lines up to the first malformed one. -/
def extendLines (lookup : Lookup) : List (Option (List Char)) → Lookup
  | [] => lookup
  | none :: _ => lookup
  | some line :: lines =>
    match definition? lookup line with
    | none => lookup
    | some none => extendLines lookup lines
    | some (some (name, value)) => extendLines (define lookup name value) lines

/-- The bytes of a file without the mark that tells their order. -/
def dropMark : Bytes → Bytes
  | 0xEF :: 0xBB :: 0xBF :: rest => rest
  | bs => bs

/-- **An environment with the definitions of a file.** -/
def extend (lookup : Lookup) (file : Bytes) : Lookup :=
  extendLines lookup (logicalLines .plain [] (physicalLines (dropMark file)))

/-- The name of files of variables. -/
def fileName : String := ".env"

/-- The file of variables in the given number of directories, from a directory upwards. -/
def fileAbove? (s : Store) : Nat → Location → Option Bytes
  | 0, _ => none
  | levels + 1, l =>
    match s.get? (l ++ [fileName]) with
    | some (.file contents) => some contents
    | _ => fileAbove? s levels l.dropLast

/-- **The file of variables** that counts in a directory: its own, or that of the nearest directory
above it that has one. -/
def file? (s : Store) (workingDirectory : String) : Option Bytes :=
  let l := Store.locationOf workingDirectory
  fileAbove? s (l.length + 1) l

/-- The environment in a directory. -/
def environment (lookup : Lookup) (s : Store) (workingDirectory : String) : Lookup :=
  match file? s workingDirectory with
  | some file => extend lookup file
  | none => lookup

end TreeWire.Definitions
