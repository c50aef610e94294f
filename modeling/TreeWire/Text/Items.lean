/-!
# Items of a text

A text can be a sequence of items that a reader takes from its front one by one. The sequence goes
to the end of the text, or to the first place at which a closing character stands where the next
item would begin.

* `TreeWire.Taker` – readers of one item;
* `TreeWire.allItems?` – the items of a whole text;
* `TreeWire.itemsBefore?` – the items in front of a closing character.
-/

namespace TreeWire

/-- **A reader of one item**: the item at the front of a text, and the rest. -/
abbrev Taker (α : Type) := List Char → Option (α × List Char)

variable {α : Type}

/-- The items of a whole text. The number bounds how many there are. -/
def allItems? (take? : Taker α) : Nat → List Char → Option (List α)
  | _, [] => some []
  | 0, _ :: _ => none
  | bound + 1, c :: cs => do
    let (item, rest) ← take? (c :: cs)
    let items ← allItems? take? bound rest
    some (item :: items)

/-- The items in front of a closing character, of which there is at least one, and the rest after
that character. The number bounds how many items there are. -/
def itemsBefore? (close : Char) (take? : Taker α) : Nat → Taker (List α)
  | 0, _ => none
  | bound + 1, cs => do
    let (item, rest) ← take? cs
    match rest with
    | [] => none
    | c :: rest =>
      if c = close then some ([item], rest)
      else do
        let (items, rest) ← itemsBefore? close take? bound (c :: rest)
        some (item :: items, rest)

end TreeWire
