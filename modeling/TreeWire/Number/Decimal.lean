import TreeWire.Number.Binary

/-!
# Decimal text of binary values

Reading decimal numerals into the 64-bit format, and the fewest digits that read back as a given
value.

* `TreeWire.Binary64.ofDecimal` – the value nearest to `digits · 10 ^ exponent`;
* `TreeWire.Binary64.ofText?` – numerals with an optional sign, fraction and exponent, and the
  words for infinity and for no number in any case; the whole text has to be one numeral;
* `TreeWire.Shortest` – the fewest digits that read back: for 1, 2, … 17 digits the value's two
  neighbours on that decimal grid are tried against the interval of reals that round to the
  value, and the first grid with a hit wins.
-/

namespace TreeWire

/-! ### From decimal digits -/

/-- The value `n · 10 ^ e` as a numerator and a denominator. -/
def decimalRatio (n : Nat) (e : Int) : Nat × Nat :=
  match e with
  | .ofNat k => (n * tenPow k, 1)
  | .negSucc k => (n, tenPow (k + 1))

/-- The value nearest to `digits · 10 ^ exponent`. -/
def Binary64.ofDecimal (negative : Bool) (digits : Nat) (exponent : Int) : Binary64 :=
  let (num, den) := decimalRatio digits exponent
  ofRatio negative num den

/-- The number that a list of decimal digits spells. -/
def digitsValue (cs : List Char) : Nat :=
  cs.foldl (fun n c => 10 * n + (c.toNat - '0'.toNat)) 0

/-- The exponent that a list of digits spells; digits after it has passed `65536` are not
counted, which is far beyond what any value of the format distinguishes. -/
def exponentValue (cs : List Char) : Nat :=
  cs.foldl (fun n c => if n < 65536 then 10 * n + (c.toNat - '0'.toNat) else n) 0

/-- The sign in front of a numeral, and what follows. -/
def signOf : List Char → Bool × List Char
  | '-' :: r => (true, r)
  | '+' :: r => (false, r)
  | r => (false, r)

/-- The exponent part at the end of a numeral: nothing, or a mark, an optional sign and digits. -/
def exponentOf? : List Char → Option Int
  | [] => some 0
  | c :: r =>
    if c = 'e' ∨ c = 'E' then
      let (negative, ds) := signOf r
      if ds ≠ [] ∧ ds.all Char.isDigit then
        some (if negative then -(exponentValue ds : Int) else exponentValue ds)
      else none
    else none

/-- A numeral without a sign: digits, an optional point with digits, an optional exponent, with
at least one digit before the exponent. The digits as one number, and the power of ten. -/
def numeralOf? (cs : List Char) : Option (Nat × Int) :=
  let whole := cs.takeWhile Char.isDigit
  let (fraction, rest) := match cs.dropWhile Char.isDigit with
    | '.' :: r => (r.takeWhile Char.isDigit, r.dropWhile Char.isDigit)
    | r => ([], r)
  if whole = [] ∧ fraction = [] then none
  else (exponentOf? rest).map fun e => (digitsValue (whole ++ fraction), e - fraction.length)

/-- The words that stand for values no digits spell, in lower case. -/
def wordValue? (negative : Bool) (word : List Char) : Option Binary64 :=
  if word = "inf".toList ∨ word = "infinity".toList then some (.infinity negative)
  else if word = "nan".toList then some (.noNumber negative)
  else none

/-- **The value that a text spells**: an optional sign, then a numeral or one of the words. A
numeral gives the value nearest to it. -/
def Binary64.ofText? (text : String) : Option Binary64 :=
  let (negative, cs) := signOf text.toList
  match numeralOf? cs with
  | some (digits, exponent) => some (ofDecimal negative digits exponent)
  | none => wordValue? negative (cs.map Char.toLower)

/-! ### The fewest digits that read back -/

namespace Shortest

/-- The number of decimal digits of a natural number, none for zero. -/
def digitCount (n : Nat) : Nat :=
  if n = 0 then 0 else (Nat.toDigits 10 n).length

/-- The `k` with `10 ^ (k - 1) ≤ num / den < 10 ^ k`, for a positive quotient. -/
def magnitude (num den : Nat) : Int :=
  if den ≤ num then digitCount (num / den) else 1 - (digitCount ((den - 1) / num) : Int)

/-- `num / den` divided by `10 ^ e`. -/
def perPower (num den : Nat) (e : Int) : Nat × Nat :=
  match e with
  | .ofNat k => (num, den * tenPow k)
  | .negSucc k => (num * tenPow (k + 1), den)

/-- **The interval that rounds to a value**: the value itself is `mid / den`, and the reals
between `low / den` and `high / den` round to it, the ends included iff `closed`. -/
structure Span where
  /-- The lower end. -/
  low : Nat
  /-- The value. -/
  mid : Nat
  /-- The upper end. -/
  high : Nat
  /-- The common denominator. -/
  den : Nat
  /-- Whether the ends belong to the interval. -/
  closed : Bool

/-- The interval of a positive finite value. Below a power of two the gap to the next value is
half as wide as above it, except at the lowest exponent. -/
def Span.of (x : Binary64) : Span :=
  let m := x.significand
  let (scale, den) := Format.ratio 1 x.exponent
  let below := if m = Format.wide.unit ∧ Format.wide.field x.bits.toNat ≠ 1 then 1 else 2
  ⟨(4 * m - below) * scale, 4 * m * scale, (4 * m + 2) * scale, 4 * den, m % 2 == 0⟩

/-- Whether `n · 10 ^ e` lies in the interval. -/
def Span.holds (s : Span) (n : Nat) (e : Int) : Bool :=
  let (num, den) := decimalRatio n e
  if s.closed then s.low * den ≤ num * s.den ∧ num * s.den ≤ s.high * den
  else s.low * den < num * s.den ∧ num * s.den < s.high * den

/-- The neighbour of the value on the grid of multiples of `10 ^ e` that lies in the interval,
the nearer one if both do, the even one at equal distance. -/
def Span.onGrid? (s : Span) (e : Int) : Option Nat :=
  let (num, den) := perPower s.mid s.den e
  let a := num / den
  let r := num % den
  match s.holds a e && a != 0, s.holds (a + 1) e with
  | true, true =>
    if 2 * r < den then some a else if den < 2 * r then some (a + 1)
    else if a % 2 = 0 then some a else some (a + 1)
  | true, false => some a
  | false, true => some (a + 1)
  | false, false => none

/-- The first grid with a hit, coarsest first: `count` digits are left to be tried, and `e` is
the power of ten of the last place. -/
def Span.search (s : Span) : Nat → Int → Nat × Int
  | 0, e => ((perPower s.mid s.den e).1 / (perPower s.mid s.den e).2, e)
  | count + 1, e =>
    match s.onGrid? e with
    | some n => (n, e)
    | none => s.search count (e - 1)

/-- The digits without the zeros at the end, which go into the exponent. -/
def dropZeros (n : Nat) (e : Int) : Nat × Int :=
  if h : n ≠ 0 ∧ n % 10 = 0 then dropZeros (n / 10) (e + 1) else (n, e)
termination_by n
decreasing_by omega

end Shortest

/-- **The fewest digits that read back** as a positive finite value, and the power of ten of the
last of them. -/
def Binary64.shortest (x : Binary64) : Nat × Int :=
  let s := Shortest.Span.of x
  let (n, e) := s.search 17 (Shortest.magnitude s.mid s.den - 1)
  Shortest.dropZeros n e

/-! ### The two directions at work -/

example : Binary64.ofText? "1e23" = some ⟨0x44B52D02C7E14AF6⟩ := by decide +kernel

example : Binary64.ofText? "-.5" = some ⟨0xBFE0000000000000⟩ := by decide +kernel

example : Binary64.ofText? "Infinity" = some ⟨0x7FF0000000000000⟩ := by decide +kernel

example : Binary64.ofText? "." = none ∧ Binary64.ofText? "1e" = none := by decide +kernel

example : (Binary64.ofDecimal false 1 23).shortest = (1, 23) := by decide +kernel

example : (Binary64.ofDecimal false 3 (-1)).shortest = (3, -1) := by decide +kernel

end TreeWire
