/-!
# Ranges of code points

The properties that Unicode gives to characters are tables of ranges of code points.

* `TreeWire.CodeRange` – a range, both ends included;
* `TreeWire.isWithin` – whether a character is in one of the ranges of a table.
-/

namespace TreeWire

/-- **A range of code points**: the first one and the last one. -/
abbrev CodeRange := Nat × Nat

/-- Whether a character is in one of the ranges of a table. -/
def isWithin (table : List CodeRange) (c : Char) : Bool :=
  table.any fun range => range.1 ≤ c.toNat && c.toNat ≤ range.2

end TreeWire
