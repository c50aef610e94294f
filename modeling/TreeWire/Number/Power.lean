/-!
# Powers of two and of ten

The scales of binary and decimal numerals.

* `TreeWire.twoPow`, `TreeWire.tenPow` – the powers.
-/

namespace TreeWire

/-- **The power of two** with a given exponent. -/
abbrev twoPow (n : Nat) : Nat := Nat.pow 2 n

/-- **The power of ten** with a given exponent. -/
abbrev tenPow (n : Nat) : Nat := Nat.pow 10 n

theorem twoPow_add (m n : Nat) : twoPow (m + n) = twoPow m * twoPow n := Nat.pow_add 2 m n

theorem twoPow_pos (n : Nat) : 0 < twoPow n := Nat.pow_pos (by decide)

theorem tenPow_pos (n : Nat) : 0 < tenPow n := Nat.pow_pos (by decide)

end TreeWire
