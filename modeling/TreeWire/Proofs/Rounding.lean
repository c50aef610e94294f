import Mathlib.Algebra.Order.Field.Power
import Mathlib.Data.Rat.Cast.Order
import Mathlib.Tactic.FieldSimp
import Mathlib.Tactic.Linarith
import Mathlib.Tactic.Positivity
import Mathlib.Tactic.Ring
import TreeWire.Number.Binary

/-!
# Rounding to the nearest value

A quotient is rounded by scaling it so that its integer part fills a significand, and rounding that
to an integer. This file says where the result lies, in terms of the quotient itself: it passes a
value exactly if the quotient lies past the middle between that value and the next one. From this
follow the magnitudes at which rounding ends at infinity, and those at which a value of 64 bits is
too large for 32 bits.

* `TreeWire.PastMiddle` – past the middle between two multiples of a step;
* `TreeWire.Format.lt_roundEven_iff`, `TreeWire.Format.floorLog_spec` – rounding to an integer, and
  logarithms;
* `TreeWire.Format.roundRatio_eq` – a rounded quotient as a significand with its exponent;
* `TreeWire.Format.lt_roundRatio_iff`, `TreeWire.Format.lt_value_iff` – **the order** of rounded
  quotients, patterns and values;
* `TreeWire.Format.roundRatio_eq_infinity_iff` – **when a quotient is rounded to infinity**;
* `TreeWire.Binary64.isFinite_ofRatio`, `TreeWire.Binary64.exceedsNarrow_ofRatio`,
  `TreeWire.Binary64.isFinite_narrow` – the two formats.
-/

namespace TreeWire

theorem cast_twoPow (n : Nat) : ((twoPow n : Nat) : ℚ) = 2 ^ n := Nat.cast_pow 2 n

theorem two_mul_zpow_le {a b : Int} (h : a < b) : (2 : ℚ) * 2 ^ a ≤ 2 ^ b := by
  rw [← zpow_one_add₀ two_ne_zero]
  exact zpow_le_zpow_right₀ one_le_two (by omega)

/-- **Past the middle** between a multiple of a step and the next one: nearer to the next one, or in
the middle if the next one is the even one. -/
def PastMiddle (n : Nat) (step x : ℚ) : Prop :=
  if n % 2 = 0 then (n + 1 / 2) * step < x else (n + 1 / 2) * step ≤ x

namespace PastMiddle

variable {n : Nat} {step x : ℚ}

theorem of_lt (h : (n + 1 / 2) * step < x) : PastMiddle n step x := by
  rw [PastMiddle]
  split
  · exact h
  · exact h.le

theorem le (h : PastMiddle n step x) : (n + 1 / 2) * step ≤ x := by
  rw [PastMiddle] at h
  split at h
  · exact h.le
  · exact h

theorem div_right (pos : 0 < step) : PastMiddle n 1 (x / step) ↔ PastMiddle n step x := by
  rw [PastMiddle, PastMiddle, mul_one, lt_div_iff₀ pos, le_div_iff₀ pos]

end PastMiddle

namespace Format

/-! ### Integers -/

/-- The middle between two integers, in naturals. -/
theorem pastMiddle_div_iff {num den : Nat} (pos : 0 < den) (n : Nat) :
    PastMiddle n 1 (num / den) ↔
      if n % 2 = 0 then (2 * n + 1) * den < 2 * num else (2 * n + 1) * den ≤ 2 * num := by
  have positive : (0 : ℚ) < den := Nat.cast_pos.mpr pos
  rw [PastMiddle, mul_one, lt_div_iff₀ positive, le_div_iff₀ positive, ← @Nat.cast_lt ℚ,
    ← @Nat.cast_le ℚ]
  push_cast
  constructor <;> intro h <;> split <;> split at h <;> first | contradiction | linarith

/-- **When rounding passes an integer.** -/
theorem lt_roundEven_iff {num den : Nat} (pos : 0 < den) (n : Nat) :
    n < roundEven num den ↔ PastMiddle n 1 (num / den) := by
  have whole := Nat.div_add_mod num den
  have small := Nat.mod_lt num pos
  rw [pastMiddle_div_iff pos, roundEven]
  generalize num / den = q at *
  generalize num % den = r at *
  obtain rfl := whole
  -- the remainder only counts if the integer is the quotient rounded down
  rcases Nat.lt_trichotomy n q with below | rfl | above
  · have : 2 * (n + 1) * den ≤ 2 * q * den := Nat.mul_le_mul_right den (by omega)
    have passed : (2 * n + 1) * den < 2 * (den * q + r) := by linarith
    refine iff_of_true ?_ ?_
    · split <;> omega
    · split
      · exact passed
      · exact passed.le
  · have middle : (2 * n + 1) * den = 2 * (den * n) + den := by ring
    rw [middle]
    split <;> split <;> omega
  · have : 2 * (q + 1) * den ≤ 2 * n * den := Nat.mul_le_mul_right den (by omega)
    have missed : 2 * (den * q + r) < (2 * n + 1) * den := by linarith
    refine iff_of_false ?_ ?_
    · split <;> omega
    · split <;> omega

/-! ### Scales -/

/-- A quotient divided by a power of two. -/
def scaled (num den : Nat) (e : Int) : Nat × Nat :=
  match e with
  | .ofNat k => (num, den * twoPow k)
  | .negSucc k => (num * twoPow (k + 1), den)

theorem scaled_snd_pos {den : Nat} (pos : 0 < den) (num : Nat) (e : Int) :
    0 < (scaled num den e).2 := by
  cases e with
  | ofNat k => exact Nat.mul_pos pos (twoPow_pos k)
  | negSucc k => exact pos

theorem scaled_div (num den : Nat) (e : Int) :
    ((scaled num den e).1 / (scaled num den e).2 : ℚ) = num / den / 2 ^ e := by
  cases e with
  | ofNat k =>
    have power : (2 : ℚ) ^ (Int.ofNat k) = 2 ^ k := zpow_natCast 2 k
    rw [scaled, power, div_div, Nat.cast_mul, cast_twoPow]
  | negSucc k =>
    have power : (2 : ℚ) ^ (Int.negSucc k) = (2 ^ (k + 1))⁻¹ := zpow_negSucc 2 k
    rw [scaled, power, div_inv_eq_mul, Nat.cast_mul, cast_twoPow, mul_div_right_comm]

/-- The value of a significand and an exponent. -/
theorem ratio_div (m : Nat) (e : Int) : ((ratio m e).1 / (ratio m e).2 : ℚ) = m * 2 ^ e := by
  cases e with
  | ofNat k =>
    have power : (2 : ℚ) ^ (Int.ofNat k) = 2 ^ k := zpow_natCast 2 k
    rw [ratio, power, Nat.cast_mul, cast_twoPow, Nat.cast_one, div_one]
  | negSucc k =>
    have power : (2 : ℚ) ^ (Int.negSucc k) = (2 ^ (k + 1))⁻¹ := zpow_negSucc 2 k
    rw [ratio, power, cast_twoPow, div_eq_mul_inv]

theorem ratio_snd_pos (m : Nat) (e : Int) : 0 < (ratio m e).2 := by
  cases e with
  | ofNat k => exact Nat.one_pos
  | negSucc k => exact twoPow_pos (k + 1)

section Quotient

variable {num den : Nat}

theorem zpow_log2_le {n : Nat} (pos : 0 < n) : (2 : ℚ) ^ (n.log2 : Int) ≤ n := by
  rw [zpow_natCast]
  exact_mod_cast Nat.log2_self_le pos.ne'

theorem lt_zpow_log2 (n : Nat) : (n : ℚ) < 2 ^ (n.log2 + 1 : Int) := by
  have bound : n < 2 ^ (n.log2 + 1) := Nat.lt_log2_self
  exact_mod_cast bound

/-- A scaled quotient is at least one if the quotient is at least the scale. -/
theorem scaled_le_iff (hd : 0 < den) (e : Int) :
    (scaled num den e).2 ≤ (scaled num den e).1 ↔ (2 : ℚ) ^ e ≤ num / den := by
  have pos : (0 : ℚ) < (scaled num den e).2 := Nat.cast_pos.mpr (scaled_snd_pos hd num e)
  rw [← @Nat.cast_le ℚ, ← one_le_div pos, scaled_div, one_le_div (by positivity)]

/-- The logarithm is the difference of two logarithms, or one less. -/
theorem floorLog_eq (hd : 0 < den) : floorLog num den =
    if (2 : ℚ) ^ ((num.log2 : Int) - den.log2) ≤ num / den then (num.log2 : Int) - den.log2
    else num.log2 - den.log2 - 1 := by
  simp only [← scaled_le_iff hd]
  rw [floorLog]
  cases (num.log2 : Int) - den.log2 <;> rfl

/-- **The logarithm of a quotient**, rounded down. -/
theorem floorLog_spec (hn : 0 < num) (hd : 0 < den) :
    (2 : ℚ) ^ floorLog num den ≤ num / den ∧ (num / den : ℚ) < 2 ^ (floorLog num den + 1) := by
  have two : (2 : ℚ) ≠ 0 := two_ne_zero
  have positive : (0 : ℚ) < den := Nat.cast_pos.mpr hd
  have lowNum := zpow_log2_le hn
  have highNum := lt_zpow_log2 num
  have lowDen := zpow_log2_le hd
  have highDen := lt_zpow_log2 den
  rw [floorLog_eq hd]
  split
  · next reached =>
    refine ⟨reached, ?_⟩
    rw [div_lt_iff₀ positive]
    calc (num : ℚ) < 2 ^ (num.log2 + 1 : Int) := highNum
      _ = 2 ^ ((num.log2 : Int) - den.log2 + 1) * 2 ^ (den.log2 : Int) := by
        rw [← zpow_add₀ two]; congr 1; ring
      _ ≤ 2 ^ ((num.log2 : Int) - den.log2 + 1) * den := by gcongr
  · next missed =>
    refine ⟨?_, by rwa [sub_add_cancel, ← not_le]⟩
    rw [le_div_iff₀ positive]
    calc (2 : ℚ) ^ ((num.log2 : Int) - den.log2 - 1) * den
        ≤ 2 ^ ((num.log2 : Int) - den.log2 - 1) * 2 ^ (den.log2 + 1 : Int) := by gcongr
      _ = 2 ^ (num.log2 : Int) := by rw [← zpow_add₀ two]; congr 1; ring
      _ ≤ num := lowNum

/-! ### The rounded significand -/

variable (f : Format)

/-- The exponent of the last place to which a quotient is rounded. -/
def place (num den : Nat) : Int :=
  max f.lowestExponent (floorLog num den - f.fractionBits)

/-- The significand to which a quotient is rounded. -/
def mantissa (num den : Nat) : Nat :=
  roundEven (scaled num den (f.place num den)).1 (scaled num den (f.place num den)).2

/-- The pattern of a significand and the number of its exponent, the lowest exponent being the
first one. -/
def pattern (m i : Nat) : Nat := i * f.unit + m

/-- **Rounding** packs the significand and its exponent, and ends at infinity. -/
theorem roundRatio_eq (hn : 0 < num) : f.roundRatio num den =
    min (f.pattern (f.mantissa num den) (f.place num den - f.lowestExponent).toNat) f.infinity := by
  have each : ∀ e : Int,
      (match e with
        | .ofNat k => roundEven num (den * twoPow k)
        | .negSucc k => roundEven (num * twoPow (k + 1)) den) =
      roundEven (scaled num den e).1 (scaled num den e).2 := by
    intro e
    cases e <;> rfl
  rw [roundRatio, if_neg hn.ne']
  exact congrArg (fun m => min (f.pattern m (f.place num den - f.lowestExponent).toNat) f.infinity)
    (each (f.place num den))

theorem unit_pos : 0 < f.unit := twoPow_pos f.fractionBits

theorem cast_unit : (f.unit : ℚ) = 2 ^ (f.fractionBits : Int) := by
  rw [unit, cast_twoPow, zpow_natCast]

/-- **When rounding passes a significand.** -/
theorem lt_mantissa_iff (hd : 0 < den) (n : Nat) :
    n < f.mantissa num den ↔ PastMiddle n (2 ^ f.place num den) (num / den) := by
  rw [mantissa, lt_roundEven_iff (scaled_snd_pos hd num _), scaled_div,
    PastMiddle.div_right (by positivity)]

/-- The quotient has no more digits than the significand has places, to the last place. -/
theorem quotient_lt (hn : 0 < num) (hd : 0 < den) :
    (num / den : ℚ) < 2 * f.unit * 2 ^ f.place num den := by
  have below : floorLog num den + 1 ≤ 1 + f.fractionBits + f.place num den := by
    have := le_max_right f.lowestExponent (floorLog num den - f.fractionBits)
    rw [place]
    omega
  calc (num / den : ℚ) < 2 ^ (floorLog num den + 1) := (floorLog_spec hn hd).2
    _ ≤ 2 ^ (1 + f.fractionBits + f.place num den) := zpow_le_zpow_right₀ one_le_two below
    _ = 2 * f.unit * 2 ^ f.place num den := by
      rw [cast_unit, zpow_add₀ two_ne_zero, zpow_add₀ two_ne_zero, zpow_one]

/-- Above the lowest exponent it has as many. -/
theorem le_quotient (hn : 0 < num) (hd : 0 < den) (above : f.lowestExponent < f.place num den) :
    f.unit * 2 ^ f.place num den ≤ (num / den : ℚ) := by
  have same : f.fractionBits + f.place num den = floorLog num den := by
    rw [place] at above ⊢
    omega
  calc f.unit * 2 ^ f.place num den = (2 : ℚ) ^ (f.fractionBits + f.place num den) := by
        rw [cast_unit, zpow_add₀ two_ne_zero]
    _ = 2 ^ floorLog num den := by rw [same]
    _ ≤ num / den := (floorLog_spec hn hd).1

theorem mantissa_le (hn : 0 < num) (hd : 0 < den) : f.mantissa num den ≤ 2 * f.unit := by
  rw [← not_lt, lt_mantissa_iff f hd]
  intro past
  have := past.le
  have := f.quotient_lt hn hd
  have : (0 : ℚ) < 2 ^ f.place num den := by positivity
  push_cast at *
  linarith

theorem unit_le_mantissa (hn : 0 < num) (hd : 0 < den)
    (above : f.lowestExponent < f.place num den) : f.unit ≤ f.mantissa num den := by
  have pos := f.unit_pos
  have passed : f.unit - 1 < f.mantissa num den := by
    rw [lt_mantissa_iff f hd]
    have := f.le_quotient hn hd above
    have : (0 : ℚ) < 2 ^ f.place num den := by positivity
    refine PastMiddle.of_lt ?_
    rw [Nat.cast_pred pos]
    linarith
  omega

/-! ### The order of patterns -/

section Order

variable {m n : Nat}

/-- **Patterns are ordered like exponents**, and like significands where the exponents are the same.
The larger one may have been rounded up to the next power of two. -/
theorem pattern_lt_iff {i j : Nat} (low : f.unit ≤ n) (high : n < 2 * f.unit)
    (full : i < j → f.unit ≤ m) (bounded : m ≤ 2 * f.unit) :
    f.pattern n i < f.pattern m j ↔ i < j ∨ i = j ∧ n < m := by
  rw [pattern, pattern]
  rcases Nat.lt_trichotomy i j with h | rfl | h
  · have : (i + 1) * f.unit ≤ j * f.unit := Nat.mul_le_mul_right _ h
    have := full h
    rw [Nat.add_mul] at *
    omega
  · omega
  · have : (j + 1) * f.unit ≤ i * f.unit := Nat.mul_le_mul_right _ h
    rw [Nat.add_mul] at *
    omega

/-- **Values are ordered in the same way.** -/
theorem mul_zpow_lt_iff {e d : Int} (low : f.unit ≤ n) (high : n < 2 * f.unit)
    (full : e < d → f.unit ≤ m) (bounded : m ≤ 2 * f.unit) :
    (n : ℚ) * 2 ^ e < m * 2 ^ d ↔ e < d ∨ e = d ∧ n < m := by
  rcases lt_trichotomy e d with h | rfl | h
  · refine iff_of_true ?_ (.inl h)
    calc (n : ℚ) * 2 ^ e < (2 * f.unit : ℕ) * 2 ^ e := by
          have : (0 : ℚ) < 2 ^ e := by positivity
          gcongr
      _ = f.unit * (2 * 2 ^ e) := by push_cast; ring
      _ ≤ f.unit * 2 ^ d := by have := two_mul_zpow_le h; gcongr
      _ ≤ m * 2 ^ d := by have := full h; gcongr
  · have : (0 : ℚ) < 2 ^ e := by positivity
    rw [mul_lt_mul_iff_left₀ this, Nat.cast_lt]
    omega
  · refine iff_of_false (not_lt.mpr ?_) (by omega)
    calc (m : ℚ) * 2 ^ d ≤ (2 * f.unit : ℕ) * 2 ^ d := by gcongr
      _ = f.unit * (2 * 2 ^ d) := by push_cast; ring
      _ ≤ f.unit * 2 ^ e := by have := two_mul_zpow_le h; gcongr
      _ ≤ n * 2 ^ e := by gcongr

end Order

/-! ### Where the rounded value lies -/

section Place

variable {n : Nat} {e : Int}

/-- **When rounding passes a value**: past the middle between it and the next one. -/
theorem rounded_iff (hn : 0 < num) (hd : 0 < den) (low : f.unit ≤ n) (high : n < 2 * f.unit)
    (reach : f.lowestExponent ≤ e) :
    e < f.place num den ∨ e = f.place num den ∧ n < f.mantissa num den ↔
      PastMiddle n (2 ^ e) (num / den) := by
  have lowCast : (f.unit : ℚ) ≤ n := Nat.cast_le.mpr low
  have highCast : (n + 1 : ℚ) ≤ 2 * f.unit := by exact_mod_cast high
  rcases lt_trichotomy e (f.place num den) with h | same | h
  · refine iff_of_true (.inl h) (PastMiddle.of_lt ?_)
    have : (0 : ℚ) < 2 ^ e := by positivity
    calc (n + 1 / 2 : ℚ) * 2 ^ e < 2 * f.unit * 2 ^ e := by gcongr; linarith
      _ = f.unit * (2 * 2 ^ e) := by ring
      _ ≤ f.unit * 2 ^ f.place num den := by have := two_mul_zpow_le h; gcongr
      _ ≤ num / den := f.le_quotient hn hd (by omega)
  · rw [same, ← lt_mantissa_iff f hd]
    omega
  · refine iff_of_false (by omega) fun past => absurd past.le (not_le.mpr ?_)
    have : (0 : ℚ) < 2 ^ e := by positivity
    calc (num / den : ℚ) < 2 * f.unit * 2 ^ f.place num den := f.quotient_lt hn hd
      _ = f.unit * (2 * 2 ^ f.place num den) := by ring
      _ ≤ f.unit * 2 ^ e := by have := two_mul_zpow_le h; gcongr
      _ ≤ (n + 1 / 2) * 2 ^ e := by gcongr; linarith

/-- **When the rounded pattern passes a pattern** below infinity. -/
theorem lt_roundRatio_iff (hd : 0 < den) (low : f.unit ≤ n) (high : n < 2 * f.unit)
    (reach : f.lowestExponent ≤ e)
    (finite : f.pattern n (e - f.lowestExponent).toNat < f.infinity) :
    f.pattern n (e - f.lowestExponent).toNat < f.roundRatio num den ↔
      PastMiddle n (2 ^ e) (num / den) := by
  rcases Nat.eq_zero_or_pos num with rfl | hn
  · refine iff_of_false (Nat.not_lt_zero _) fun past => absurd past.le (not_le.mpr ?_)
    rw [Nat.cast_zero, zero_div]
    positivity
  · have inside : f.lowestExponent ≤ f.place num den := le_max_left _ _
    rw [f.roundRatio_eq hn, lt_min_iff, and_iff_left finite,
      f.pattern_lt_iff low high (fun h => f.unit_le_mantissa hn hd (by omega))
        (f.mantissa_le hn hd), ← f.rounded_iff hn hd low high reach]
    omega

end Place

theorem roundRatio_le_infinity (num den : Nat) : f.roundRatio num den ≤ f.infinity := by
  rw [roundRatio]
  split
  · exact Nat.zero_le _
  · exact Nat.min_le_right _ _

/-- **The magnitude from which on quotients are rounded to infinity**: the middle between the
largest finite value and the next power of two. -/
def overflowBound : ℚ := (2 * f.unit - 1 / 2) * 2 ^ (f.lowestExponent + f.topField - 2)

/-- **When a quotient is rounded to infinity.** -/
theorem roundRatio_eq_infinity_iff (hd : 0 < den) (top : 2 ≤ f.topField) :
    f.roundRatio num den = f.infinity ↔ f.overflowBound ≤ num / den := by
  have pos := f.unit_pos
  have last : f.pattern (2 * f.unit - 1)
      (f.lowestExponent + f.topField - 2 - f.lowestExponent).toNat + 1 = f.infinity := by
    have index : (f.lowestExponent + f.topField - 2 - f.lowestExponent).toNat = f.topField - 2 := by
      omega
    obtain ⟨t, ht⟩ := Nat.exists_eq_add_of_le' top
    rw [index, pattern, infinity, ht, Nat.add_sub_cancel, Nat.add_mul]
    omega
  have odd : (2 * f.unit - 1) % 2 ≠ 0 := by omega
  have middle : ((2 * f.unit - 1 : ℕ) + 1 / 2 : ℚ) = 2 * f.unit - 1 / 2 := by
    rw [Nat.cast_pred (by omega)]
    push_cast
    ring
  have passed : f.pattern (2 * f.unit - 1)
      (f.lowestExponent + f.topField - 2 - f.lowestExponent).toNat < f.roundRatio num den ↔
        PastMiddle (2 * f.unit - 1) (2 ^ (f.lowestExponent + f.topField - 2)) (num / den) :=
    f.lt_roundRatio_iff hd (by omega) (by omega) (by omega) (by omega)
  rw [PastMiddle, if_neg odd, middle] at passed
  rw [overflowBound, ← passed]
  have := f.roundRatio_le_infinity num den
  omega

end Quotient

/-! ### The values of patterns -/

/-- The value of a finite pattern, sign apart. -/
def value (f : Format) (bits : Nat) : ℚ := f.significand bits * 2 ^ f.exponent bits

section Value

variable (f : Format) {bits : Nat}

theorem field_of_lt (finite : bits < f.infinity) : f.field bits = bits / f.unit := by
  have : bits / f.unit < f.topField := (Nat.div_lt_iff_lt_mul f.unit_pos).mpr finite
  rw [field, Nat.mod_eq_of_lt (by rw [topField] at this; omega)]

/-- A finite pattern is that of its significand and its exponent. -/
theorem pattern_significand (finite : bits < f.infinity) :
    f.pattern (f.significand bits) (max (f.field bits) 1 - 1) = bits := by
  have whole := Nat.div_add_mod bits f.unit
  rw [pattern, significand, f.field_of_lt finite]
  split
  · next zero =>
    have first : max 0 1 - 1 = 0 := rfl
    rw [zero] at whole ⊢
    rw [first, Nat.zero_mul]
    omega
  · next present =>
    -- the hidden bit makes up for the field that starts at one
    obtain ⟨q, hq⟩ := Nat.exists_eq_add_of_le' (Nat.pos_of_ne_zero present)
    have index : max (q + 1) 1 - 1 = q := by omega
    rw [hq, Nat.mul_add] at whole
    rw [hq, index, Nat.mul_comm]
    omega

theorem significand_le (bits : Nat) : f.significand bits ≤ 2 * f.unit := by
  have small := Nat.mod_lt bits f.unit_pos
  rw [significand]
  split <;> omega

theorem unit_le_significand (above : f.lowestExponent < f.exponent bits) :
    f.unit ≤ f.significand bits := by
  rw [exponent] at above
  rw [significand, if_neg (by omega)]
  omega

/-- **Patterns are ordered like their values.** -/
theorem lt_value_iff {n : Nat} {e : Int} (low : f.unit ≤ n) (high : n < 2 * f.unit)
    (reach : f.lowestExponent ≤ e) (finite : bits < f.infinity) :
    (n : ℚ) * 2 ^ e < f.value bits ↔ f.pattern n (e - f.lowestExponent).toNat < bits := by
  have bounded := f.significand_le bits
  have values := f.mul_zpow_lt_iff low high
    (fun h : e < f.exponent bits => f.unit_le_significand (by omega)) bounded
  have patterns := f.pattern_lt_iff low high
    (fun h : (e - f.lowestExponent).toNat < max (f.field bits) 1 - 1 =>
      f.unit_le_significand (by rw [exponent]; omega)) bounded
  rw [f.pattern_significand finite] at patterns
  rw [value, values, patterns, exponent]
  omega

end Value

/-! ### Signs -/

section Sign

variable (f : Format) (negative : Bool)

theorem signBit_eq : f.signBit = f.unit * twoPow f.exponentBits := twoPow_add _ _

theorem field_withSign (bits : Nat) : f.field (f.withSign negative bits) = f.field bits := by
  cases negative with
  | false => rfl
  | true =>
    change (f.signBit + bits) / f.unit % _ = _
    rw [signBit_eq, Nat.mul_add_div f.unit_pos, Nat.add_mod_left, field]

theorem mod_unit_withSign (bits : Nat) : f.withSign negative bits % f.unit = bits % f.unit := by
  cases negative with
  | false => rfl
  | true =>
    change (f.signBit + bits) % f.unit = _
    rw [signBit_eq, Nat.mul_add_mod]

/-- **The sign does not count** for the value of a pattern. -/
theorem value_withSign (bits : Nat) : f.value (f.withSign negative bits) = f.value bits := by
  rw [value, value, significand, significand, exponent, exponent, field_withSign, mod_unit_withSign]

/-- The patterns up to infinity are finite, and infinity is not. -/
theorem isFinite_withSign {bits : Nat} (h : bits ≤ f.infinity) :
    f.isFinite (f.withSign negative bits) = true ↔ bits < f.infinity := by
  have top : bits / f.unit ≤ f.topField := Nat.div_le_of_le_mul (by rwa [Nat.mul_comm])
  have range : f.topField < twoPow f.exponentBits := Nat.sub_one_lt (twoPow_pos _).ne'
  rw [isFinite, field_withSign, field, Nat.mod_eq_of_lt (by omega), bne_iff_ne, infinity,
    ← Nat.div_lt_iff_lt_mul f.unit_pos]
  omega

theorem withSign_le {bits : Nat} (h : bits ≤ f.infinity) :
    f.withSign negative bits ≤ f.signBit + f.infinity := by
  cases negative with
  | false => exact h.trans (Nat.le_add_left _ _)
  | true => exact Nat.add_le_add_left h _

end Sign

end Format

/-! ### Values of the two formats -/

namespace Binary64

/-- The magnitude from which on numbers are rounded to infinity. -/
def overflowBound : ℚ := 2 ^ 1024 - 2 ^ 970

/-- The magnitude above which numbers are rounded to more than the largest finite value of the
narrower format. -/
def narrowBound : ℚ := 2 ^ 128 - 2 ^ 104 + 2 ^ 74

theorem overflowBound_eq : Format.wide.overflowBound = overflowBound := by
  have unit : (Format.wide.unit : ℚ) = 2 ^ 52 := cast_twoPow 52
  have exponent : Format.wide.lowestExponent + Format.wide.topField - 2 = ((1 + 970 : ℕ) : ℤ) := by
    decide
  have whole : (2 : ℚ) ^ 1024 = 2 ^ 54 * 2 ^ 970 := pow_add 2 54 970
  rw [Format.overflowBound, overflowBound, unit, exponent, zpow_natCast, pow_add, whole]
  generalize (2 : ℚ) ^ 970 = scale
  ring

variable {negative : Bool} {num den : Nat}

theorem toNat_ofRatio : (ofRatio negative num den).bits.toNat =
    Format.wide.withSign negative (Format.wide.roundRatio num den) := by
  have le := Format.wide.withSign_le negative (Format.wide.roundRatio_le_infinity num den)
  have range : Format.wide.signBit + Format.wide.infinity < 2 ^ 64 := by decide
  exact UInt64.toNat_ofNat_of_lt' (le.trans_lt range)

/-- **A number is infinite** from the bound on, with its sign. -/
theorem ofRatio_eq_infinity (pos : 0 < den) (beyond : overflowBound ≤ num / den) :
    ofRatio negative num den = infinity negative := by
  have reached : Format.wide.roundRatio num den = Format.wide.infinity :=
    (Format.wide.roundRatio_eq_infinity_iff pos (by decide)).mpr (overflowBound_eq ▸ beyond)
  rw [ofRatio, reached, infinity]

/-- **A number is finite** below the bound. -/
theorem isFinite_ofRatio (pos : 0 < den) :
    (ofRatio negative num den).isFinite = true ↔ num / den < overflowBound := by
  have le := Format.wide.roundRatio_le_infinity num den
  rw [isFinite, toNat_ofRatio, Format.isFinite_withSign _ _ le, le.lt_iff_ne, ne_eq,
    Format.wide.roundRatio_eq_infinity_iff pos (by decide), overflowBound_eq, not_le]

/-- **The value** of a pattern, sign apart. -/
theorem magnitude_div (x : Binary64) :
    (x.magnitude.1 / x.magnitude.2 : ℚ) = Format.wide.value x.bits.toNat :=
  Format.ratio_div _ _

theorem exceedsNarrow_iff (x : Binary64) :
    x.exceedsNarrow = true ↔ (narrowLimit : ℚ) < Format.wide.value x.bits.toNat := by
  have positive : (0 : ℚ) < x.magnitude.2 := Nat.cast_pos.mpr (Format.ratio_snd_pos _ _)
  have unfolded : x.exceedsNarrow = true ↔ narrowLimit * x.magnitude.2 < x.magnitude.1 :=
    decide_eq_true_iff
  rw [unfolded, ← magnitude_div, lt_div_iff₀ positive, ← Nat.cast_mul, Nat.cast_lt]

/-- The largest finite value of the narrower format, as a significand of the wider one. -/
theorem cast_narrowLimit :
    (narrowLimit : ℚ) = (0xFFFFFF * 2 ^ 29 : ℕ) * 2 ^ (75 : ℤ) := by
  have power : (2 : ℚ) ^ (75 : ℤ) = 2 ^ 75 := zpow_natCast 2 75
  rw [narrowLimit, Nat.cast_mul, cast_twoPow, power]
  norm_num

/-- **A finite number is too large for the narrower format** above its bound. -/
theorem exceedsNarrow_ofRatio (pos : 0 < den)
    (finite : (ofRatio negative num den).isFinite = true) :
    (ofRatio negative num den).exceedsNarrow = true ↔ narrowBound < num / den := by
  have le := Format.wide.roundRatio_le_infinity num den
  rw [isFinite, toNat_ofRatio, Format.isFinite_withSign _ _ le] at finite
  have power : (2 : ℚ) ^ (75 : ℤ) = 2 ^ 75 := zpow_natCast 2 75
  have middle : ((0xFFFFFF * 2 ^ 29 : ℕ) + 1 / 2 : ℚ) * 2 ^ (75 : ℤ) = narrowBound := by
    rw [narrowBound, power]
    norm_num
  rw [exceedsNarrow_iff, toNat_ofRatio, Format.value_withSign, cast_narrowLimit,
    Format.wide.lt_value_iff (by decide) (by decide) (by decide) finite,
    Format.wide.lt_roundRatio_iff pos (by decide) (by decide) (by decide) (by decide),
    PastMiddle, if_pos (by decide), middle]

theorem narrowLimit_lt : (narrowLimit : ℚ) < Format.narrow.overflowBound := by
  have unit : (Format.narrow.unit : ℚ) = 2 ^ 23 := cast_twoPow 23
  have exponent : Format.narrow.lowestExponent + Format.narrow.topField - 2 = ((104 : ℕ) : ℤ) := by
    decide
  rw [Format.overflowBound, narrowLimit, Nat.cast_mul, cast_twoPow, unit, exponent, zpow_natCast]
  norm_num

/-- **A finite value within the narrower format** stays finite in it. -/
theorem isFinite_narrow {x : Binary64} (finite : x.isFinite = true)
    (within : ¬ x.exceedsNarrow = true) : x.narrow.isFinite = true := by
  have pos : 0 < x.magnitude.2 := Format.ratio_snd_pos _ _
  have le := Format.narrow.roundRatio_le_infinity x.magnitude.1 x.magnitude.2
  have small : Format.narrow.roundRatio x.magnitude.1 x.magnitude.2 < Format.narrow.infinity := by
    refine le.lt_of_ne fun same => ?_
    rw [Format.narrow.roundRatio_eq_infinity_iff pos (by decide), magnitude_div] at same
    rw [exceedsNarrow_iff, not_lt] at within
    exact absurd (same.trans within) (not_le.mpr narrowLimit_lt)
  have range : Format.narrow.signBit + Format.narrow.infinity < 2 ^ 32 := by decide
  have bits : x.narrow.bits.toNat = Format.narrow.withSign x.isNegative
      (Format.narrow.roundRatio x.magnitude.1 x.magnitude.2) := by
    rw [narrow, if_pos finite]
    exact UInt32.toNat_ofNat_of_lt' ((Format.narrow.withSign_le _ le).trans_lt range)
  rw [Binary32.isFinite, bits, Format.isFinite_withSign _ _ le]
  exact small

end Binary64

end TreeWire
