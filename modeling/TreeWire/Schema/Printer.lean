import TreeWire.Schema

/-!
# Schema text

A document as schema text: the package, the field option that names branches, the data message
with a line for every field, and the header message.

* `TreeWire.escapeLiteral` – a branch name inside a string literal;
* `TreeWire.Field.line` – the line of a field;
* `TreeWire.Document.render` – the text of a document.
-/

namespace TreeWire

/-- The characters that stand for a character inside a string literal: quotes, backslashes and
line feeds are escaped, all others stand for themselves. -/
def escapeLiteralChar (c : Char) : List Char :=
  if c = '"' then ['\\', '"']
  else if c = '\\' then ['\\', '\\']
  else if c = '\n' then ['\\', 'n']
  else [c]

/-- **A text inside a string literal.** -/
def escapeLiteral (cs : List Char) : List Char := cs.flatMap escapeLiteralChar

/-- **The line of a field**, without the line feed at its end. -/
def Field.line (f : Field) : List Char :=
  "  ".toList ++ f.modifier.toList ++ ' ' :: f.type.text.toList ++ ' ' :: f.name.toList ++
    " = ".toList ++ (toString f.id).toList ++ " [(".toList ++ branchOption.toList ++
    ") = \"".toList ++ escapeLiteral f.branch.toList ++ ['"'] ++
    (if f.packed then ", packed = true".toList else []) ++ "];".toList

/-- The lines in front of the fields. -/
def Document.opening (d : Document) : List (List Char) :=
  ["syntax = \"proto2\";".toList,
    [],
    "package ".toList ++ d.package.toList ++ [';'],
    [],
    "import \"google/protobuf/descriptor.proto\";".toList,
    [],
    "extend google.protobuf.FieldOptions \x7b".toList,
    "  optional string ".toList ++ branchOption.toList ++ " = ".toList ++
      (toString branchOptionNumber).toList ++ [';'],
    "\x7d".toList,
    [],
    "message ".toList ++ d.message.toList ++ " \x7b".toList]

/-- The lines after the fields. -/
def Document.closing : List (List Char) :=
  ["\x7d".toList,
    [],
    "message ".toList ++ headerMessage.toList ++ " \x7b".toList,
    "  // number of data records following this header".toList,
    "  required uint64 entries = 1;".toList,
    "\x7d".toList]

/-- The lines of a document. -/
def Document.lines (d : Document) : List (List Char) :=
  d.opening ++ d.fields.map Field.line ++ Document.closing

/-- The characters of a document: its lines, a line feed after each. -/
def Document.renderChars (d : Document) : List Char := d.lines.flatMap (· ++ ['\n'])

/-- **The text of a document.** -/
def Document.render (d : Document) : String := String.ofList d.renderChars

end TreeWire
