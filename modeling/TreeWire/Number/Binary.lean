import TreeWire.Number.Power

/-!
# Binary interchange formats

Floating-point values are kept as the bit patterns of the two interchange formats that files
hold, and all arithmetic on them is done on natural numbers: a pattern stands for `m · 2 ^ e`,
and every operation forms the exact result as a quotient of naturals and rounds it once.

* `TreeWire.Format.roundRatio` – the pattern nearest to a quotient, a tie going to the pattern
  whose last bit is zero, and what lies beyond the largest finite value going to infinity;
* `TreeWire.Binary64`, `TreeWire.Binary32` – the two formats;
* `TreeWire.Binary64.mul`, `TreeWire.Binary64.div`, `TreeWire.Binary64.narrow` – correctly
  rounded product, quotient and conversion to the narrower format.
-/

namespace TreeWire

/-- **An interchange format**: how many bits store the fraction and how many the exponent. -/
structure Format where
  /-- Bits of the fraction. -/
  fractionBits : Nat
  /-- Bits of the exponent. -/
  exponentBits : Nat

namespace Format

/-- The format of 64 bits. -/
def wide : Format := ⟨52, 11⟩

/-- The format of 32 bits. -/
def narrow : Format := ⟨23, 8⟩

/-- One unit of the fraction field's range, which is also the hidden bit. -/
def unit (f : Format) : Nat := twoPow f.fractionBits

/-- The exponent field of infinities and of values that are no numbers. -/
def topField (f : Format) : Nat := twoPow f.exponentBits - 1

/-- The exponent of the last place of the smallest values. -/
def lowestExponent (f : Format) : Int := 2 - twoPow (f.exponentBits - 1) - f.fractionBits

/-- The pattern of infinity, sign apart. -/
def infinity (f : Format) : Nat := f.topField * f.unit

/-- The pattern of the value that is no number, sign apart. -/
def noNumber (f : Format) : Nat := f.infinity + f.unit / 2

/-- The place of the sign bit. -/
def signBit (f : Format) : Nat := twoPow (f.fractionBits + f.exponentBits)

/-- The exponent field of a pattern. -/
def field (f : Format) (bits : Nat) : Nat := bits / f.unit % twoPow f.exponentBits

/-- Whether a pattern carries the sign. -/
def isNegative (f : Format) (bits : Nat) : Bool := bits / f.signBit % 2 == 1

/-- Whether a pattern stands for a finite value. -/
def isFinite (f : Format) (bits : Nat) : Bool := f.field bits != f.topField

/-- The integer `m` of the value `m · 2 ^ e` that a finite pattern stands for, sign apart. -/
def significand (f : Format) (bits : Nat) : Nat :=
  if f.field bits = 0 then bits % f.unit else bits % f.unit + f.unit

/-- The exponent `e` of the value `m · 2 ^ e` that a finite pattern stands for. -/
def exponent (f : Format) (bits : Nat) : Int :=
  f.lowestExponent + (max (f.field bits) 1 - 1 : Nat)

/-- The value `m · 2 ^ e` as a numerator and a denominator. -/
def ratio (m : Nat) (e : Int) : Nat × Nat :=
  match e with
  | .ofNat k => (m * twoPow k, 1)
  | .negSucc k => (m, twoPow (k + 1))

/-- The largest `k` with `2 ^ k ≤ num / den`, for a positive quotient. -/
def floorLog (num den : Nat) : Int :=
  let k : Int := (num.log2 : Int) - den.log2
  let (n, d) := match k with
    | .ofNat j => (num, den * twoPow j)
    | .negSucc j => (num * twoPow (j + 1), den)
  if d ≤ n then k else k - 1

/-- The natural number nearest to a quotient; a tie goes to the even one. -/
def roundEven (num den : Nat) : Nat :=
  let q := num / den
  let r := num % den
  if den < 2 * r ∨ (2 * r = den ∧ q % 2 = 1) then q + 1 else q

/-- **Rounding to nearest**: the pattern, sign apart, of the value of the format nearest to
`num / den`. The quotient is scaled so that its integer part fills the significand, or to the
lowest exponent when it is too small for that. A significand that rounds up to the next power of
two carries into the exponent field by itself. -/
def roundRatio (f : Format) (num den : Nat) : Nat :=
  if num = 0 then 0
  else
    let e : Int := max f.lowestExponent (floorLog num den - f.fractionBits)
    let m := match e with
      | .ofNat k => roundEven num (den * twoPow k)
      | .negSucc k => roundEven (num * twoPow (k + 1)) den
    min ((e - f.lowestExponent).toNat * f.unit + m) f.infinity

/-- The pattern with the sign put in. -/
def withSign (f : Format) (negative : Bool) (bits : Nat) : Nat :=
  if negative then f.signBit + bits else bits

end Format

/-- **A value of the 64-bit format**, as its bit pattern. -/
structure Binary64 where
  /-- The pattern. -/
  bits : UInt64
  deriving DecidableEq, Repr

/-- **A value of the 32-bit format**, as its bit pattern. -/
structure Binary32 where
  /-- The pattern. -/
  bits : UInt32
  deriving DecidableEq, Repr

namespace Binary64

/-- The value nearest to a quotient of naturals, with the given sign. -/
def ofRatio (negative : Bool) (num den : Nat) : Binary64 :=
  ⟨(Format.wide.withSign negative (Format.wide.roundRatio num den)).toUInt64⟩

/-- The value nearest to a natural number. -/
def ofNat (n : Nat) : Binary64 := ofRatio false n 1

/-- Infinity. -/
def infinity (negative : Bool) : Binary64 :=
  ⟨(Format.wide.withSign negative Format.wide.infinity).toUInt64⟩

/-- The value that is no number. -/
def noNumber (negative : Bool) : Binary64 :=
  ⟨(Format.wide.withSign negative Format.wide.noNumber).toUInt64⟩

/-- Zero. -/
def zero : Binary64 := ⟨0⟩

/-- Whether the sign bit is set. -/
def isNegative (x : Binary64) : Bool := Format.wide.isNegative x.bits.toNat

/-- Whether the value is finite. -/
def isFinite (x : Binary64) : Bool := Format.wide.isFinite x.bits.toNat

/-- Whether the value is an infinity. -/
def isInfinite (x : Binary64) : Bool :=
  !x.isFinite && x.bits.toNat % Format.wide.unit == 0

/-- Whether the value is zero, of either sign. -/
def isZero (x : Binary64) : Bool := x.isFinite && Format.wide.significand x.bits.toNat == 0

/-- The integer `m` of the magnitude `m · 2 ^ e` of a finite value. -/
def significand (x : Binary64) : Nat := Format.wide.significand x.bits.toNat

/-- The exponent `e` of the magnitude `m · 2 ^ e` of a finite value. -/
def exponent (x : Binary64) : Int := Format.wide.exponent x.bits.toNat

/-- The magnitude of a finite value as a numerator and a denominator. -/
def magnitude (x : Binary64) : Nat × Nat := Format.ratio x.significand x.exponent

/-- The value with the other sign. -/
def neg (x : Binary64) : Binary64 :=
  ⟨if x.isNegative then (x.bits.toNat - Format.wide.signBit).toUInt64
    else (x.bits.toNat + Format.wide.signBit).toUInt64⟩

/-- The product of two finite values, rounded once. -/
def mul (x y : Binary64) : Binary64 :=
  let (a, b) := x.magnitude
  let (c, d) := y.magnitude
  ofRatio (x.isNegative != y.isNegative) (a * c) (b * d)

/-- The quotient of two finite values, the second of them not zero, rounded once. -/
def div (x y : Binary64) : Binary64 :=
  let (a, b) := x.magnitude
  let (c, d) := y.magnitude
  ofRatio (x.isNegative != y.isNegative) (a * d) (b * c)

/-- The largest finite magnitude of the narrower format. -/
def narrowLimit : Nat := 0xFFFFFF * twoPow 104

/-- Whether the magnitude of a finite value is above all finite values of the narrower format. -/
def exceedsNarrow (x : Binary64) : Bool :=
  let (a, b) := x.magnitude
  narrowLimit * b < a

/-- The value of the narrower format nearest to this one. -/
def narrow (x : Binary64) : Binary32 :=
  let magnitude :=
    if x.isFinite then
      let (a, b) := x.magnitude
      Format.narrow.roundRatio a b
    else if x.isInfinite then Format.narrow.infinity
    else Format.narrow.noNumber
  ⟨(Format.narrow.withSign x.isNegative magnitude).toUInt32⟩

end Binary64

namespace Binary32

/-- Zero. -/
def zero : Binary32 := ⟨0⟩

/-- Whether the value is finite. -/
def isFinite (x : Binary32) : Bool := Format.narrow.isFinite x.bits.toNat

end Binary32

/-! ### The formats at work -/

/-- A third in 64 bits. -/
example : (Binary64.ofRatio false 1 3).bits = 0x3FD5555555555555 := by decide +kernel

/-- A tie goes to the even neighbour, downwards here and upwards in the next example. -/
example : Binary64.ofNat (twoPow 53 + 1) = Binary64.ofNat (twoPow 53) := by decide +kernel

example : Binary64.ofNat (twoPow 53 + 3) = Binary64.ofNat (twoPow 53 + 4) := by decide +kernel

/-- What rounds beyond the largest finite value is infinity. -/
example : Binary64.narrow (Binary64.ofNat (twoPow 128)) = ⟨0x7F800000⟩ := by decide +kernel

end TreeWire
