import TreeWire.Json.Feed

/-!
# Places in a feed

A reader looks one byte ahead: a byte that it has seen may still not be taken. When it refuses a
text, it names the place that it has come to. The place counts every byte that has been seen, also
the one that is not taken.

* `TreeWire.Json.Place` – lines and columns;
* `TreeWire.Json.Cursor` – how far a reader has come in a feed;
* `TreeWire.Json.Cursor.dropSeparators` – the cursor at the next token.
-/

namespace TreeWire.Json

/-- **A place** in a text. -/
structure Place where
  /-- The line; the first one is one. -/
  line : Nat
  /-- The number of bytes of the line up to here. -/
  column : Nat
  deriving DecidableEq

namespace Place

/-- The place in front of a text. -/
def start : Place := ⟨1, 0⟩

/-- The place behind one more byte. A line feed begins a line. -/
def behind (p : Place) (b : UInt8) : Place :=
  if b = 0x0A then ⟨p.line + 1, 0⟩ else ⟨p.line, p.column + 1⟩

/-- The wording of a place. -/
def text (p : Place) : String :=
  "line " ++ toString p.line ++ " column " ++ toString p.column

end Place

/-- **How far a reader has come**. -/
structure Cursor where
  /-- The place behind the last byte that has been seen. -/
  place : Place
  /-- The byte that has been seen and not taken. -/
  ahead : Option UInt8
  /-- What has not been seen. -/
  rest : Feed

namespace Cursor

/-- The cursor in front of a feed. -/
def start (f : Feed) : Cursor := ⟨.start, none, f⟩

/-- What has not been taken. -/
def feed (c : Cursor) : Feed :=
  match c.ahead with
  | some b => .byte b c.rest
  | none => c.rest

/-- The cursor at the first byte of a feed that does not separate tokens. -/
def toToken (p : Place) : Feed → Cursor
  | .byte b rest =>
    if Feed.isSeparator b then toToken (p.behind b) rest else ⟨p.behind b, some b, rest⟩
  | f => ⟨p, none, f⟩

/-- **The cursor at the next token**: the bytes that separate it from what has been taken are
taken. -/
def dropSeparators (c : Cursor) : Cursor :=
  match c.ahead with
  | some b => if Feed.isSeparator b then toToken c.place c.rest else c
  | none => toToken c.place c.rest

end Cursor

example :
    (Cursor.start (.ofBytes [0x20, 0x0A, 0x09, 0x5D, 0x0A])).dropSeparators =
      ⟨⟨2, 2⟩, some 0x5D, .ofBytes [0x0A]⟩ := rfl

end TreeWire.Json
