/-!
# Decimal integers

* `TreeWire.integerOf?` – the integer that a text spells: an optional sign and decimal digits.
-/

namespace TreeWire

/-- The natural number that digits spell, if there are any and nothing else. -/
def naturalOf? (cs : List Char) : Option Nat :=
  if cs ≠ [] ∧ cs.all Char.isDigit then
    some (cs.foldl (fun n c => 10 * n + (c.toNat - '0'.toNat)) 0)
  else none

/-- **The integer that a text spells.** -/
def integerOf? (text : String) : Option Int :=
  match text.toList with
  | '-' :: cs => (naturalOf? cs).map fun n => -(n : Int)
  | '+' :: cs => (naturalOf? cs).map fun n => (n : Int)
  | cs => (naturalOf? cs).map fun n => (n : Int)

example : integerOf? "-07" = some (-7) ∧ integerOf? "+" = none ∧ integerOf? "" = none := by decide

end TreeWire
