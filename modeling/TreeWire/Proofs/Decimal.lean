import Mathlib.Algebra.Order.Field.Power
import Mathlib.Data.List.TakeWhile
import Mathlib.Data.Rat.Cast.Order
import Mathlib.Tactic.GCongr
import Mathlib.Tactic.NormNum
import Mathlib.Tactic.Positivity
import TreeWire.Number.Decimal
import TreeWire.Proofs.FieldName

/-!
# Texts that spell numbers

A text is read as a floating-point value if it is an optional sign with a decimal number, or with a
word for infinity or for no number. This file says which texts these are and what number a text
spells. The exponent of a number is not counted to its end when it is very large, which makes no
difference to the comparison with a bound unless the number has tens of thousands of digits.

* `TreeWire.Decimal`, `TreeWire.Decimal.Spells` – **numbers as they are written**, with
  `TreeWire.Decimal.magnitude`;
* `TreeWire.Decimal.ofText?_of_spells` – how a number is read;
* `TreeWire.SpellsInfinity` – words for infinity, with `TreeWire.ofText?_of_spellsInfinity`;
* `TreeWire.ofText?_cases` – there is nothing else that is read;
* `TreeWire.Decimal.magnitudeRead_iff` – exponents that are not counted to their end.
-/

namespace TreeWire

/-! ### Decimal numbers -/

/-- **A decimal number** as it is written. -/
structure Decimal where
  /-- Whether it has a minus sign. -/
  negative : Bool
  /-- The digits in front of the point. -/
  whole : List Char
  /-- The digits after the point. -/
  fraction : List Char
  /-- Whether the exponent has a minus sign. -/
  exponentNegative : Bool
  /-- The digits of the exponent. -/
  exponent : List Char

namespace Decimal

/-- How a sign is written. -/
inductive Sign : Bool → List Char → Prop
  /-- A minus sign. -/
  | minus : Sign true ['-']
  /-- A plus sign. -/
  | plus : Sign false ['+']
  /-- No sign. -/
  | none : Sign false []

/-- How the digits after the point are written. -/
inductive Point : List Char → List Char → Prop
  /-- No point. -/
  | none : Point [] []
  /-- A point, and digits. -/
  | digits (ds : List Char) : Point ds ('.' :: ds)

/-- How an exponent is written. -/
inductive Power : Bool → List Char → List Char → Prop
  /-- No exponent. -/
  | none : Power false [] []
  /-- A mark, a sign, and digits. -/
  | digits {c : Char} {negative : Bool} {sign ds : List Char} :
    c = 'e' ∨ c = 'E' → Sign negative sign → ds ≠ [] → Power negative ds (c :: (sign ++ ds))

/-- All digits but those of the exponent. -/
def digits (n : Decimal) : List Char := n.whole ++ n.fraction

/-- **How a number is written** without its sign: digits, an optional point with digits, and an
optional exponent, with a digit in front of the exponent. -/
structure Body (n : Decimal) (cs : List Char) : Prop where
  /-- The parts. -/
  parts : ∃ point power, cs = n.whole ++ (point ++ power) ∧ Point n.fraction point ∧
    Power n.exponentNegative n.exponent power
  /-- They are made of digits. -/
  isDigit : ∀ c ∈ n.digits ++ n.exponent, c.isDigit = true
  /-- There is a digit. -/
  present : n.digits ≠ []

/-- **A text spells a number.** -/
def Spells (n : Decimal) (text : String) : Prop :=
  ∃ sign body, text.toList = sign ++ body ∧ Sign n.negative sign ∧ n.Body body

/-- The power of ten of the last digit. -/
def place (n : Decimal) : Int :=
  (if n.exponentNegative then -(digitsValue n.exponent : Int) else digitsValue n.exponent) -
    n.fraction.length

/-- The power of ten of the last digit as it is read: an exponent is not counted any further after
it has passed 65536. -/
def placeRead (n : Decimal) : Int :=
  (if n.exponentNegative then -(exponentValue n.exponent : Int) else exponentValue n.exponent) -
    n.fraction.length

/-- **The magnitude of a number.** -/
def magnitude (n : Decimal) : ℚ := digitsValue n.digits * 10 ^ n.place

/-- The magnitude of a number as it is read. -/
def magnitudeRead (n : Decimal) : ℚ := digitsValue n.digits * 10 ^ n.placeRead

/-- The value of 64 bits that is nearest to a number as it is read. -/
def nearest (n : Decimal) : Binary64 :=
  .ofDecimal n.negative (digitsValue n.digits) n.placeRead

/-! ### Signs -/

theorem exists_sign (cs : List Char) :
    ∃ sign, Sign (signOf cs).1 sign ∧ cs = sign ++ (signOf cs).2 := by
  rw [signOf.eq_def]
  split
  · exact ⟨_, .minus, rfl⟩
  · exact ⟨_, .plus, rfl⟩
  · exact ⟨_, .none, rfl⟩

/-- A sign is told from what follows it, which does not start with another one. -/
theorem signOf_append {negative : Bool} {sign cs : List Char} (h : Sign negative sign)
    (other : ∀ c ∈ cs.head?, c ≠ '-' ∧ c ≠ '+') : signOf (sign ++ cs) = (negative, cs) := by
  cases h with
  | minus => rfl
  | plus => rfl
  | none =>
    cases cs with
    | nil => rfl
    | cons c cs =>
      obtain ⟨minus, plus⟩ := other c rfl
      rw [List.nil_append, signOf.eq_def]
      split
      · next same => exact absurd (List.cons.inj same).1 minus
      · next same => exact absurd (List.cons.inj same).1 plus
      · rfl

theorem ne_sign_of_isDigit {c : Char} (h : c.isDigit = true) : c ≠ '-' ∧ c ≠ '+' := by
  constructor <;> rintro rfl <;> revert h <;> decide

/-! ### Exponents -/

/-- **An exponent is read** as what its digits spell. -/
theorem exponentOf?_of_power {negative : Bool} {ds cs : List Char} (h : Power negative ds cs)
    (digits : ∀ c ∈ ds, c.isDigit = true) :
    exponentOf? cs = some (if negative then -(exponentValue ds : Int) else exponentValue ds) := by
  cases h with
  | none => rfl
  | digits mark sign present =>
    have split := signOf_append sign fun c first =>
      ne_sign_of_isDigit (digits c (List.mem_of_mem_head? first))
    have all : ds.all Char.isDigit = true := List.all_eq_true.mpr digits
    rw [exponentOf?, if_pos mark, split]
    exact if_pos ⟨present, all⟩

/-- Whatever is read as an exponent is one. -/
theorem exists_power {cs : List Char} (h : (exponentOf? cs).isSome = true) :
    ∃ negative ds, Power negative ds cs ∧ ∀ c ∈ ds, c.isDigit = true := by
  cases cs with
  | nil => exact ⟨false, [], .none, List.forall_mem_nil _⟩
  | cons c cs =>
    rw [exponentOf?] at h
    split at h
    · next mark =>
      obtain ⟨sign, signed, split⟩ := exists_sign cs
      dsimp only at h
      split at h
      · next valid =>
        have power := Power.digits mark signed valid.1
        rw [← split] at power
        exact ⟨_, _, power, List.all_eq_true.mp valid.2⟩
      · cases h
    · cases h

/-! ### Numbers -/

/-- The digits at the front of a text. -/
theorem span_digits {ds rest : List Char} (digits : ∀ c ∈ ds, c.isDigit = true)
    (stop : ∀ c ∈ rest.head?, c.isDigit = false) :
    (ds ++ rest).takeWhile Char.isDigit = ds ∧ (ds ++ rest).dropWhile Char.isDigit = rest := by
  rw [List.takeWhile_append_of_pos digits, List.dropWhile_append_of_pos digits]
  cases rest with
  | nil => simp
  | cons c rest => simp [stop c rfl]

/-- What follows the digits in front of the point does not start with a digit. -/
theorem head?_power {negative : Bool} {ds cs : List Char} (h : Power negative ds cs) :
    ∀ c ∈ cs.head?, c.isDigit = false ∧ c ≠ '.' := by
  cases h with
  | none => nofun
  | digits mark _ _ =>
    intro c first
    obtain rfl := Option.some.inj first
    rcases mark with rfl | rfl <;> decide

/-- The parts of a number are told from each other. -/
theorem numeralOf?_append {whole fraction point power : List Char} {e : Int}
    (pointed : Point fraction point) (wholeDigits : ∀ c ∈ whole, c.isDigit = true)
    (fractionDigits : ∀ c ∈ fraction, c.isDigit = true)
    (stop : ∀ c ∈ power.head?, c.isDigit = false ∧ c ≠ '.')
    (exponent : exponentOf? power = some e) (present : whole ++ fraction ≠ []) :
    numeralOf? (whole ++ (point ++ power)) =
      some (digitsValue (whole ++ fraction), e - fraction.length) := by
  have notBoth : ¬ (whole = [] ∧ fraction = []) := fun h => present (List.append_eq_nil_iff.mpr h)
  cases pointed with
  | none =>
    obtain ⟨front, behind⟩ := span_digits wholeDigits fun c first => (stop c first).1
    rw [numeralOf?, List.nil_append, front, behind]
    split
    next same =>
    split at same
    · exact absurd rfl (stop '.' rfl).2
    · obtain ⟨rfl, rfl⟩ := Prod.mk.inj same
      rw [if_neg notBoth, exponent]
      rfl
  | digits =>
    have dot : ∀ c ∈ ('.' :: fraction ++ power).head?, c.isDigit = false := by
      intro c first
      obtain rfl := Option.some.inj first
      decide
    obtain ⟨front, behind⟩ := span_digits wholeDigits dot
    obtain ⟨inside, after⟩ := span_digits fractionDigits fun c first => (stop c first).1
    rw [numeralOf?, front, behind]
    simp only [List.cons_append, inside, after, if_neg notBoth, exponent, Option.map_some]

variable {n : Decimal} {cs : List Char} {text : String}

/-- **A number is read** as its digits and the power of ten of the last of them. -/
theorem numeralOf?_of_body (h : n.Body cs) :
    numeralOf? cs = some (digitsValue n.digits, n.placeRead) := by
  obtain ⟨⟨point, power, rfl, pointed, powered⟩, isDigit, present⟩ := h
  have digits : ∀ c ∈ n.digits, c.isDigit = true := fun c mem =>
    isDigit c (List.mem_append_left _ mem)
  have exponent := exponentOf?_of_power powered fun c mem =>
    isDigit c (List.mem_append_right _ mem)
  exact numeralOf?_append pointed (fun c mem => digits c (List.mem_append_left _ mem))
    (fun c mem => digits c (List.mem_append_right _ mem)) (head?_power powered) exponent present

/-- Whatever is read as a number is one. -/
theorem exists_body (negative : Bool) (h : (numeralOf? cs).isSome = true) :
    ∃ n : Decimal, n.negative = negative ∧ n.Body cs := by
  have wholeDigits : ∀ c ∈ cs.takeWhile Char.isDigit, c.isDigit = true := fun c mem =>
    List.mem_takeWhile_imp mem
  have whole := List.takeWhile_append_dropWhile (p := Char.isDigit) (l := cs)
  rw [numeralOf?] at h
  -- what follows the digits in front decides whether there is a point
  generalize cs.takeWhile Char.isDigit = front at *
  generalize cs.dropWhile Char.isDigit = rest at *
  obtain rfl := whole
  split at h
  next fraction power same =>
  obtain ⟨point, pointed, rfl, fractionDigits⟩ : ∃ point, Point fraction point ∧
      rest = point ++ power ∧ ∀ c ∈ fraction, c.isDigit = true := by
    split at same
    · next r =>
      obtain ⟨rfl, rfl⟩ := Prod.mk.inj same
      exact ⟨_, .digits _, by rw [List.cons_append, List.takeWhile_append_dropWhile],
        fun c mem => List.mem_takeWhile_imp mem⟩
    · obtain ⟨rfl, rfl⟩ := Prod.mk.inj same
      exact ⟨[], .none, rfl, List.forall_mem_nil _⟩
  split at h
  · cases h
  · next present =>
    rw [Option.isSome_map] at h
    obtain ⟨exponentNegative, exponent, powered, exponentDigits⟩ := exists_power h
    refine ⟨⟨negative, front, fraction, exponentNegative, exponent⟩, rfl,
      ⟨point, power, rfl, pointed, powered⟩, ?_, fun h => present (List.append_eq_nil_iff.mp h)⟩
    intro c mem
    rcases List.mem_append.mp mem with digit | digit
    · exact (List.mem_append.mp digit).elim (wholeDigits c) (fractionDigits c)
    · exact exponentDigits c digit

/-- A number starts with a digit or with its point. -/
theorem head?_body (h : n.Body cs) : ∃ c, cs.head? = some c ∧ (c.isDigit = true ∨ c = '.') := by
  obtain ⟨⟨point, power, rfl, pointed, -⟩, isDigit, present⟩ := h
  cases start : n.whole with
  | cons d ds =>
    have digit : d ∈ n.digits := List.mem_append_left _ (start ▸ List.mem_cons_self)
    exact ⟨d, rfl, .inl (isDigit d (List.mem_append_left _ digit))⟩
  | nil =>
    generalize same : n.fraction = fraction at pointed
    cases pointed with
    | none => exact absurd (List.append_eq_nil_iff.mpr ⟨start, same⟩) present
    | digits ds => exact ⟨'.', rfl, .inr rfl⟩

/-- **A text that spells a number** is read as the value that is nearest to it. -/
theorem ofText?_of_spells (h : n.Spells text) : Binary64.ofText? text = some n.nearest := by
  obtain ⟨sign, body, split, signed, written⟩ := h
  have unsigned : ∀ c ∈ body.head?, c ≠ '-' ∧ c ≠ '+' := by
    intro c first
    obtain ⟨d, same, digit | rfl⟩ := head?_body written
    · obtain rfl := Option.some.inj (same.symm.trans first)
      exact ne_sign_of_isDigit digit
    · obtain rfl := Option.some.inj (same.symm.trans first)
      decide
  rw [Binary64.ofText?, split, signOf_append signed unsigned]
  simp only [numeralOf?_of_body written]
  rfl

end Decimal

/-! ### Words -/

/-- **A text spells infinity**: a sign, and one of two words in any case. -/
def SpellsInfinity (negative : Bool) (text : String) : Prop :=
  ∃ sign word, text.toList = sign ++ word ∧ Decimal.Sign negative sign ∧
    (word.map Char.toLower = "inf".toList ∨ word.map Char.toLower = "infinity".toList)

/-- The letter that the words for infinity start with. -/
theorem of_toLower_eq {c : Char} (h : c.toLower = 'i') :
    (c ≠ '-' ∧ c ≠ '+') ∧ ¬ (c.isDigit = true ∨ c = '.') := by
  refine ⟨⟨?_, ?_⟩, ?_⟩
  · rintro rfl
    cases h
  · rintro rfl
    cases h
  · rintro (digit | rfl)
    · by_cases upper : c.isUpper = true
      · have := isDigit_iff.mp digit
        have := isUpper_iff.mp upper
        omega
      · have same : c.toLower = c := dif_neg fun range => upper (decide_eq_true range)
        rw [same] at h
        subst h
        cases digit
    · cases h

/-- A text that spells infinity is read as infinity. -/
theorem ofText?_of_spellsInfinity {negative : Bool} {text : String}
    (h : SpellsInfinity negative text) : Binary64.ofText? text = some (.infinity negative) := by
  obtain ⟨sign, word, split, signed, lower⟩ := h
  -- the letter that both words start with is neither a sign nor the start of a number
  obtain ⟨c, first, letter⟩ : ∃ c, word.head? = some c ∧ c.toLower = 'i' := by
    cases word with
    | nil => rcases lower with lower | lower <;> cases lower
    | cons c cs =>
      rcases lower with lower | lower <;> exact ⟨c, rfl, (List.cons.inj lower).1⟩
  obtain ⟨unsigned, notBody⟩ := of_toLower_eq letter
  have noNumber : numeralOf? word = none := by
    rw [← Option.not_isSome_iff_eq_none]
    intro read
    obtain ⟨n, -, written⟩ := Decimal.exists_body negative read
    obtain ⟨d, same, start⟩ := Decimal.head?_body written
    obtain rfl := Option.some.inj (same.symm.trans first)
    exact notBody start
  have other : ∀ d ∈ word.head?, d ≠ '-' ∧ d ≠ '+' := by
    intro d here
    obtain rfl := Option.some.inj (first.symm.trans here)
    exact unsigned
  rw [Binary64.ofText?, split, Decimal.signOf_append signed other]
  simp only [noNumber]
  exact if_pos lower

/-- **What a text is read as**: a number, infinity, or no number. -/
theorem ofText?_cases {text : String} {x : Binary64} (h : Binary64.ofText? text = some x) :
    (∃ n : Decimal, n.Spells text) ∨ (∃ negative, SpellsInfinity negative text) ∨
      ∃ negative, x = .noNumber negative := by
  obtain ⟨sign, signed, split⟩ := Decimal.exists_sign text.toList
  rw [Binary64.ofText?] at h
  cases read : numeralOf? (signOf text.toList).2 with
  | some numeral =>
    have some : (numeralOf? (signOf text.toList).2).isSome = true := by rw [read]; rfl
    obtain ⟨n, same, written⟩ := Decimal.exists_body (signOf text.toList).1 some
    exact .inl ⟨n, sign, _, split, same ▸ signed, written⟩
  | none =>
    simp only [read, wordValue?] at h
    split at h
    · next word => exact .inr (.inl ⟨_, sign, _, split, signed, word⟩)
    · split at h
      · exact .inr (.inr ⟨_, (Option.some.inj h).symm⟩)
      · cases h

/-! ### Exponents that are not counted to their end -/

/-- **Exponents are counted** to their end, or far enough. -/
theorem exponentValue_spec (ds : List Char) :
    exponentValue ds = digitsValue ds ∨ 65536 ≤ exponentValue ds ∧ 65536 ≤ digitsValue ds := by
  -- the two counts are the same until they pass the limit, and stay behind it
  refine List.foldl_rel (r := fun m n => m = n ∨ 65536 ≤ m ∧ 65536 ≤ n) (.inl rfl)
    fun c _ m n h => ?_
  rcases h with rfl | h
  · split
    · exact .inl rfl
    · omega
  · rw [if_neg (by omega)]
    omega

/-- Digits spell less than the power of ten that has one more. -/
theorem digitsValue_lt {ds : List Char} (digits : ∀ c ∈ ds, c.isDigit = true) :
    digitsValue ds < 10 ^ ds.length := by
  induction ds using List.reverseRecOn with
  | nil => decide
  | append_singleton ds c ih =>
    have before := ih fun d mem => digits d (List.mem_append_left _ mem)
    have digit := isDigit_iff.mp (digits c (List.mem_append_right _ (List.mem_singleton_self c)))
    have zero : '0'.toNat = 48 := rfl
    have value : digitsValue (ds ++ [c]) = 10 * digitsValue ds + (c.toNat - '0'.toNat) :=
      List.foldl_append
    rw [value, List.length_append, List.length_singleton, pow_succ]
    omega

namespace Decimal

variable {n : Decimal} {text : String} {e : Nat} {c : ℚ}

/-- **A number whose exponent counts**: it is counted to its end, or there are too few digits to
make up for what is not counted. -/
def Counted (n : Decimal) : Prop := digitsValue n.exponent < 65536 ∨ n.digits.length ≤ 65000

/-- A number with few digits and a large exponent is large. -/
theorem lt_of_exponent (present : 0 < digitsValue n.digits) (few : n.digits.length ≤ 65000)
    (large : 65536 ≤ e) (high : c ≤ 10 ^ 400) :
    c < digitsValue n.digits * 10 ^ ((e : Int) - n.fraction.length) := by
  have places : n.fraction.length ≤ n.digits.length := by
    rw [digits, List.length_append]
    omega
  have one : (1 : ℚ) ≤ digitsValue n.digits := Nat.one_le_cast.mpr present
  calc c ≤ 10 ^ 400 := high
    _ = 10 ^ (400 : Int) := (zpow_natCast 10 400).symm
    _ < 10 ^ ((e : Int) - n.fraction.length) := zpow_lt_zpow_right₀ (by norm_num) (by omega)
    _ = 1 * 10 ^ ((e : Int) - n.fraction.length) := (one_mul _).symm
    _ ≤ digitsValue n.digits * 10 ^ ((e : Int) - n.fraction.length) := by gcongr

/-- A number with few digits and a large negative exponent is small. -/
theorem lt_of_negative_exponent (isDigit : ∀ c ∈ n.digits, c.isDigit = true)
    (few : n.digits.length ≤ 65000) (large : 65536 ≤ e) (low : 1 ≤ c) :
    digitsValue n.digits * 10 ^ (-(e : Int) - n.fraction.length) < c := by
  have bound : (digitsValue n.digits : ℚ) ≤ 10 ^ (n.digits.length : Int) := by
    rw [zpow_natCast]
    exact_mod_cast (digitsValue_lt isDigit).le
  calc (digitsValue n.digits : ℚ) * 10 ^ (-(e : Int) - n.fraction.length)
      ≤ 10 ^ (n.digits.length : Int) * 10 ^ (-(e : Int) - n.fraction.length) := by gcongr
    _ = 10 ^ (n.digits.length + (-(e : Int) - n.fraction.length)) :=
      (zpow_add₀ (by norm_num) _ _).symm
    _ < 10 ^ (0 : Int) := zpow_lt_zpow_right₀ (by norm_num) (by omega)
    _ = 1 := zpow_zero _
    _ ≤ c := low

/-- **The magnitude as it is read** lies on the same side of a bound as the magnitude. -/
theorem magnitudeRead_iff (spelled : n.Spells text) (counted : n.Counted) (low : 1 ≤ c)
    (high : c ≤ 10 ^ 400) :
    (c ≤ n.magnitudeRead ↔ c ≤ n.magnitude) ∧ (c < n.magnitudeRead ↔ c < n.magnitude) := by
  obtain ⟨_, _, _, _, written⟩ := spelled
  rcases exponentValue_spec n.exponent with same | ⟨read, whole⟩
  · have : n.magnitudeRead = n.magnitude := by
      rw [magnitudeRead, magnitude, placeRead, place, same]
    rw [this]
    exact ⟨Iff.rfl, Iff.rfl⟩
  · have few : n.digits.length ≤ 65000 := counted.resolve_left (by omega)
    have isDigit : ∀ c ∈ n.digits, c.isDigit = true := fun c mem =>
      written.isDigit c (List.mem_append_left _ mem)
    rw [magnitudeRead, magnitude, placeRead, place]
    cases n.exponentNegative with
    | true =>
      have small := lt_of_negative_exponent isDigit few read low
      have small' := lt_of_negative_exponent isDigit few whole low
      exact ⟨iff_of_false (not_le.mpr small) (not_le.mpr small'),
        iff_of_false (not_lt.mpr small.le) (not_lt.mpr small'.le)⟩
    | false =>
      rcases Nat.eq_zero_or_pos (digitsValue n.digits) with zero | present
      · rw [zero, Nat.cast_zero, zero_mul, zero_mul]
        exact ⟨Iff.rfl, Iff.rfl⟩
      · have large := lt_of_exponent present few read high
        have large' := lt_of_exponent present few whole high
        exact ⟨iff_of_true large.le large'.le, iff_of_true large large'⟩

end Decimal

end TreeWire
