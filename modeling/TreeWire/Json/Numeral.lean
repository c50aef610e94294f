import TreeWire.Json.Flaw

/-!
# The value of a JSON numeral

A numeral without a fraction and an exponent that 64 bits can hold is an integer. Every other
numeral is a floating-point value, computed the quick way: the digits are collected into an
unsigned integer of 64 bits for as long as they fit, the rest only move the point, and the
collected integer is then scaled by a power of ten in floating-point arithmetic. The result can
differ from the nearest value in the last places.

* `TreeWire.Json.Numeral` – the parts of a numeral as they are written;
* `TreeWire.Json.Numeral.value` – the number, or the flaw that it is out of range.
-/

namespace TreeWire.Json

/-- **A numeral**: its sign, the digits before the point, the digits after it if there is one, and
the exponent if there is one. -/
structure Numeral where
  /-- Whether a minus sign is in front. -/
  negative : Bool
  /-- The digits before the point. -/
  whole : List Nat
  /-- The digits after the point. -/
  fraction : Option (List Nat)
  /-- Whether the exponent is negative, and its digits. -/
  exponent : Option (Bool × List Nat)

namespace Numeral

/-- Digits collected from the front for as long as the result fits 64 bits, and the digits that
are left. -/
def collect (n : Nat) : List Nat → Nat × List Nat
  | [] => (n, [])
  | d :: ds => if 10 * n + d < 0x10000000000000000 then collect (10 * n + d) ds else (n, d :: ds)

/-- A power of ten as a floating-point value. -/
def tenTo (k : Nat) : Binary64 := Binary64.ofDecimal false 1 k

/-- A value divided by `10 ^ 308` for as long as the exponent is below `-308`. -/
def scaleDown (x : Binary64) (e : Int) : Binary64 × Int :=
  if e < -308 ∧ x.isZero = false then scaleDown (x.div (tenTo 308)) (e + 308) else (x, e)
termination_by (-e).toNat
decreasing_by omega

/-- A collected integer scaled by a power of ten, if the result is finite. -/
def scaled? (n : Nat) (e : Int) : Option Binary64 :=
  if 308 < e then
    if n = 0 then some Binary64.zero else none
  else
    let (x, e) := scaleDown (Binary64.ofNat n) e
    match e with
    | .ofNat k =>
      let product := x.mul (tenTo k)
      if product.isFinite then some product else none
    | .negSucc k => if 308 < k + 1 then some x else some (x.div (tenTo (k + 1)))

/-- The number that a list of digits spells. -/
def digitsNumber (ds : List Nat) : Nat := ds.foldl (fun n d => 10 * n + d) 0

/-- The integer that a sign and a magnitude spell, if 64 bits can hold it; a minus sign in front
of zero spells no integer. -/
def integer? (negative : Bool) (n : Nat) : Option Number :=
  if negative then
    if h : n ≠ 0 ∧ n ≤ 0x8000000000000000 then some (.integer (-n) ⟨by omega, by omega⟩) else none
  else if h : n < 0x10000000000000000 then some (.integer n ⟨by omega, by omega⟩) else none

/-- The collected digits of a numeral, and the power of ten that they are to be scaled by before
the exponent counts. -/
def significand (l : Numeral) : Nat × Int :=
  let (n, left) := collect 0 l.whole
  match l.fraction with
  | none => (n, left.length)
  | some ds =>
    let (m, dropped) := collect n ds
    (m, (left.length : Int) - (ds.length - dropped.length))

/-- The value of a numeral that is no integer. An exponent that does not fit 32 bits makes every
value zero or out of range. -/
def real? (l : Numeral) : Option Binary64 :=
  let (n, e) := l.significand
  match l.exponent with
  | none => scaled? n e
  | some (negative, ds) =>
    let x := digitsNumber ds
    if x < 0x80000000 then scaled? n (if negative then e - x else e + x)
    else if n = 0 ∨ negative then some Binary64.zero
    else none

/-- **The number that a numeral spells.** -/
def value (l : Numeral) : Except Flaw Number :=
  let whole : Option Number :=
    if l.fraction.isNone ∧ l.exponent.isNone then
      match collect 0 l.whole with
      | (n, []) => integer? l.negative n
      | _ => none
    else none
  match whole with
  | some n => .ok n
  | none =>
    match l.real? with
    | some x => .ok (.real (if l.negative then x.neg else x))
    | none => .error .numberOutOfRange

end Numeral

end TreeWire.Json
