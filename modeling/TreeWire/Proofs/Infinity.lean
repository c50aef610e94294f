import TreeWire.Proofs.Cell
import TreeWire.Proofs.Decimal
import TreeWire.Proofs.Rounding

/-!
# Numbers that become infinity

A cell of a floating-point kind may be a text that spells a number. The number is rounded to 64 bits
first, and only a finite result is compared with the largest value of 32 bits. So in 32 bits a
number is refused if it is too large for them and not too large for 64 bits, and what is too large
for 64 bits becomes infinity in both kinds.

* `TreeWire.Decimal.isFinite_nearest`, `TreeWire.Decimal.exceedsNarrow_nearest` – the numbers that
  stay finite in 64 bits, and those of them that are too large for 32 bits;
* `TreeWire.Binary64.ofText?_eq_infinity_iff` – the texts that are read as infinity;
* `TreeWire.Kind.ReadsText` – **what a column makes of a text**;
* `TreeWire.Tree.load_text` – **the main statement**: loading texts.
-/

namespace TreeWire

/-! ### Values -/

theorem decimalRatio_div (digits : Nat) (e : Int) :
    ((decimalRatio digits e).1 / (decimalRatio digits e).2 : ℚ) = digits * 10 ^ e := by
  have cast (k : Nat) : ((tenPow k : Nat) : ℚ) = 10 ^ k := Nat.cast_pow 10 k
  cases e with
  | ofNat k =>
    have power : (10 : ℚ) ^ (Int.ofNat k) = 10 ^ k := zpow_natCast 10 k
    rw [decimalRatio, power, Nat.cast_mul, cast, Nat.cast_one, div_one]
  | negSucc k =>
    have power : (10 : ℚ) ^ (Int.negSucc k) = (10 ^ (k + 1))⁻¹ := zpow_negSucc 10 k
    rw [decimalRatio, power, cast, div_eq_mul_inv]

theorem decimalRatio_snd_pos (digits : Nat) (e : Int) : 0 < (decimalRatio digits e).2 := by
  cases e with
  | ofNat k => exact Nat.one_pos
  | negSucc k => exact tenPow_pos (k + 1)

namespace Decimal

variable {n : Decimal}

open Binary64

theorem isFinite_nearest : n.nearest.isFinite = true ↔ n.magnitudeRead < overflowBound := by
  rw [magnitudeRead, ← decimalRatio_div]
  exact isFinite_ofRatio (decimalRatio_snd_pos _ _)

theorem nearest_eq_infinity (beyond : overflowBound ≤ n.magnitudeRead) :
    n.nearest = infinity n.negative := by
  rw [magnitudeRead, ← decimalRatio_div] at beyond
  exact ofRatio_eq_infinity (decimalRatio_snd_pos _ _) beyond

theorem exceedsNarrow_nearest (finite : n.nearest.isFinite = true) :
    n.nearest.exceedsNarrow = true ↔ narrowBound < n.magnitudeRead := by
  rw [magnitudeRead, ← decimalRatio_div]
  exact exceedsNarrow_ofRatio (decimalRatio_snd_pos _ _) finite

end Decimal

namespace Binary64

open Decimal

/-! ### Infinities -/

theorem infinity_inj {a b : Bool} (h : infinity a = infinity b) : a = b := by
  revert h
  cases a <;> cases b <;> decide

theorem not_isFinite_infinity (negative : Bool) : ¬ (infinity negative).isFinite = true := by
  cases negative <;> decide

theorem noNumber_ne_infinity (a b : Bool) : noNumber a ≠ infinity b := by
  cases a <;> cases b <;> decide

/-- **A text is read as infinity** if it spells a number that is too large, or infinity. -/
theorem ofText?_eq_infinity_iff {text : String} {negative : Bool} :
    ofText? text = some (infinity negative) ↔
    (∃ n : Decimal, n.Spells text ∧ n.negative = negative ∧ overflowBound ≤ n.magnitudeRead) ∨
      SpellsInfinity negative text := by
  constructor
  · intro h
    rcases ofText?_cases h with ⟨n, spelled⟩ | ⟨sign, spelled⟩ | ⟨sign, same⟩
    · have same := Option.some.inj ((ofText?_of_spells spelled).symm.trans h)
      have beyond : overflowBound ≤ n.magnitudeRead := by
        refine not_lt.mp fun below => not_isFinite_infinity negative ?_
        rw [← same]
        exact isFinite_nearest.mpr below
      rw [nearest_eq_infinity beyond] at same
      exact .inl ⟨n, spelled, infinity_inj same, beyond⟩
    · have same := Option.some.inj ((ofText?_of_spellsInfinity spelled).symm.trans h)
      exact .inr (infinity_inj same ▸ spelled)
    · exact absurd same.symm (noNumber_ne_infinity sign negative)
  · rintro (⟨n, spelled, rfl, beyond⟩ | spelled)
    · rw [ofText?_of_spells spelled, nearest_eq_infinity beyond]
    · exact ofText?_of_spellsInfinity spelled

end Binary64

namespace Binary32

/-- Infinity in 32 bits. -/
def infinity (negative : Bool) : Binary32 :=
  ⟨(Format.narrow.withSign negative Format.narrow.infinity).toUInt32⟩

theorem infinity_inj {a b : Bool} (h : infinity a = infinity b) : a = b := by
  revert h
  cases a <;> cases b <;> decide

theorem not_isFinite_infinity (negative : Bool) : ¬ (infinity negative).isFinite = true := by
  cases negative <;> decide

end Binary32

namespace Binary64

open Decimal

/-- What a text spells is finite, an infinity, or no number. -/
theorem finite_or_infinity_or_noNumber {text : String} {x : Binary64} (h : ofText? text = some x) :
    x.isFinite = true ∨ (∃ negative, x = infinity negative) ∨
      ∃ negative, x = noNumber negative := by
  rcases ofText?_cases h with ⟨n, spelled⟩ | ⟨negative, spelled⟩ | noNumber
  · have same := Option.some.inj ((ofText?_of_spells spelled).symm.trans h)
    by_cases below : n.magnitudeRead < overflowBound
    · exact .inl (same ▸ isFinite_nearest.mpr below)
    · exact .inr (.inl ⟨_, same ▸ nearest_eq_infinity (not_lt.mp below)⟩)
  · have same := Option.some.inj ((ofText?_of_spellsInfinity spelled).symm.trans h)
    exact .inr (.inl ⟨negative, same.symm⟩)
  · exact .inr (.inr noNumber)

theorem narrow_infinity (negative : Bool) : (infinity negative).narrow = .infinity negative := by
  cases negative <;> decide

theorem narrow_noNumber_ne (a b : Bool) : (noNumber a).narrow ≠ .infinity b := by
  cases a <;> cases b <;> decide

end Binary64

/-! ### Reading a text as a floating-point value -/

namespace Kind

/-- Whether a value is the infinity of a sign. -/
def IsInfinity (negative : Bool) : (k : Kind) → k.Carrier → Prop
  | float, x => x = Binary32.infinity negative
  | double, x => x = Binary64.infinity negative
  | _, _ => False

/-- Whether a value is finite. -/
def IsFinite : (k : Kind) → k.Carrier → Prop
  | float, x => x.isFinite = true
  | double, x => x.isFinite = true
  | _, _ => True

/-- **What a column of a floating-point kind makes of a text**: a value, or none if the text is
refused. -/
structure ReadsText (k : Kind) (text : String) (r : Option k.Carrier) : Prop where
  /-- Infinity stands for the numbers from a bound on, which is the same for both kinds, and for the
  words that spell it. -/
  infinite : ∀ negative, (∃ w, r = some w ∧ k.IsInfinity negative w) ↔
    (∃ n : Decimal, n.Spells text ∧ n.negative = negative ∧
      Binary64.overflowBound ≤ n.magnitudeRead) ∨ SpellsInfinity negative text
  /-- The numbers below that stay finite, in 32 bits up to a bound of their own. -/
  finite : ∀ n : Decimal, n.Spells text → ((∃ w, r = some w ∧ k.IsFinite w) ↔
    n.magnitudeRead < Binary64.overflowBound ∧
      (k = .float → n.magnitudeRead ≤ Binary64.narrowBound))
  /-- The numbers between the two bounds are refused in 32 bits. -/
  refused : ∀ n : Decimal, n.Spells text → (r = none ↔
    k = .float ∧ Binary64.narrowBound < n.magnitudeRead ∧
      n.magnitudeRead < Binary64.overflowBound)

open Binary64 Decimal

theorem readsText_double (text : String) : double.ReadsText text (ofText? text) where
  infinite negative := by
    rw [← ofText?_eq_infinity_iff]
    constructor
    · rintro ⟨w, read, rfl⟩
      exact read
    · intro read
      exact ⟨_, read, rfl⟩
  finite n spelled := by
    have value : (∃ w, ofText? text = some w ∧ double.IsFinite w) ↔ n.nearest.isFinite = true := by
      rw [ofText?_of_spells spelled]
      constructor
      · rintro ⟨w, read, finite⟩
        obtain rfl := Option.some.inj read
        exact finite
      · intro finite
        exact ⟨_, rfl, finite⟩
    rw [value, isFinite_nearest]
    exact ⟨fun below => ⟨below, nofun⟩, And.left⟩
  refused n spelled := by
    rw [ofText?_of_spells spelled]
    exact ⟨nofun, fun h => nomatch h.1⟩

/-- In 32 bits, what is read is narrowed unless it is finite and too large. -/
theorem readNarrow?_eq_some_iff {text : String} {w : Binary32} :
    readNarrow? (.string text) = some w ↔ ∃ x, ofText? text = some x ∧
      ¬ (x.isFinite = true ∧ x.exceedsNarrow = true) ∧ x.narrow = w := by
  have unfolded : readNarrow? (.string text) = (ofText? text).bind fun x =>
      if (x.isFinite && x.exceedsNarrow) = true then none else some x.narrow := rfl
  rw [unfolded, Option.bind_eq_some_iff]
  refine exists_congr fun x => and_congr_right fun _ => ?_
  rw [← Bool.and_eq_true_iff]
  split
  · next large => simp [large]
  · next fits => simp [fits]

/-- A number is read in 32 bits unless it lies between the bounds. -/
theorem readNarrow?_of_spells {n : Decimal} {text : String} (spelled : n.Spells text) :
    readNarrow? (.string text) = none ↔
      narrowBound < n.magnitudeRead ∧ n.magnitudeRead < overflowBound := by
  have value := ofText?_of_spells spelled
  rw [Option.eq_none_iff_forall_ne_some]
  constructor
  · intro none
    by_contra outside
    refine none _ (readNarrow?_eq_some_iff.mpr ⟨_, value, fun large => outside ?_, rfl⟩)
    exact ⟨(exceedsNarrow_nearest large.1).mp large.2, isFinite_nearest.mp large.1⟩
  · rintro ⟨above, below⟩ w read
    obtain ⟨x, other, fits, -⟩ := readNarrow?_eq_some_iff.mp read
    obtain rfl := Option.some.inj (value.symm.trans other)
    have finite := isFinite_nearest.mpr below
    exact fits ⟨finite, (exceedsNarrow_nearest finite).mpr above⟩

theorem readsText_float (text : String) : float.ReadsText text (readNarrow? (.string text)) where
  infinite negative := by
    rw [← ofText?_eq_infinity_iff]
    constructor
    · rintro ⟨w, read, infinite⟩
      obtain ⟨x, value, fits, rfl⟩ := readNarrow?_eq_some_iff.mp read
      -- a finite value that is not refused stays finite, so infinity comes from infinity only
      rcases finite_or_infinity_or_noNumber value with finite | ⟨sign, rfl⟩ | ⟨sign, rfl⟩
      · have := isFinite_narrow finite fun large => fits ⟨finite, large⟩
        rw [show x.narrow = _ from infinite] at this
        exact absurd this (Binary32.not_isFinite_infinity negative)
      · have same : sign = negative :=
          Binary32.infinity_inj ((narrow_infinity sign).symm.trans infinite)
        rw [value, same]
      · exact absurd infinite (narrow_noNumber_ne sign negative)
    · intro value
      refine ⟨_, readNarrow?_eq_some_iff.mpr ⟨_, value, fun large => ?_, rfl⟩,
        narrow_infinity negative⟩
      exact not_isFinite_infinity negative large.1
  finite n spelled := by
    have value := ofText?_of_spells spelled
    constructor
    · rintro ⟨w, read, finite⟩
      obtain ⟨x, other, fits, rfl⟩ := readNarrow?_eq_some_iff.mp read
      obtain rfl := Option.some.inj (value.symm.trans other)
      have below : n.magnitudeRead < overflowBound := by
        refine not_le.mp fun beyond => Binary32.not_isFinite_infinity n.negative ?_
        have stored : n.nearest.narrow = Binary32.infinity n.negative := by
          rw [nearest_eq_infinity beyond, narrow_infinity]
        exact stored ▸ finite
      refine ⟨below, fun _ => not_lt.mp fun above => fits ?_⟩
      have finite := isFinite_nearest.mpr below
      exact ⟨finite, (exceedsNarrow_nearest finite).mpr above⟩
    · rintro ⟨below, within⟩
      have finite := isFinite_nearest.mpr below
      have fits : ¬ n.nearest.exceedsNarrow = true :=
        fun large => absurd ((exceedsNarrow_nearest finite).mp large) (not_lt.mpr (within rfl))
      exact ⟨_, readNarrow?_eq_some_iff.mpr ⟨_, value, fun large => fits large.2, rfl⟩,
        isFinite_narrow finite fits⟩
  refused n spelled := by
    rw [readNarrow?_of_spells spelled]
    exact (and_iff_right rfl).symm

/-- **A text in a column of a floating-point kind.** -/
theorem readsText {k : Kind} (real : k.exact = false) (text : String) :
    k.ReadsText text (k.read? (.string text)) := by
  cases k with
  | float => exact readsText_float text
  | double => exact readsText_double text
  | _ => cases real

end Kind

/-! ### Loading texts -/

theorem Binary64.le_overflowBound : 2 ^ 970 ≤ overflowBound := by
  have split : (2 : ℚ) ^ 1024 = 2 ^ 970 * 2 ^ 54 := pow_add 2 970 54
  have one : (1 : ℚ) ≤ 2 ^ 970 := one_le_pow₀ one_le_two
  rw [overflowBound, split]
  generalize (2 : ℚ) ^ 970 = scale at one
  linarith

theorem Binary64.overflowBound_range : 1 ≤ overflowBound ∧ overflowBound ≤ 10 ^ 400 := by
  constructor
  · exact (one_le_pow₀ one_le_two).trans le_overflowBound
  · calc overflowBound ≤ 2 ^ 1024 := sub_le_self _ (by positivity)
      _ = (2 ^ 8) ^ 128 := pow_mul 2 8 128
      _ ≤ (10 ^ 3) ^ 128 := by gcongr; norm_num
      _ = 10 ^ 384 := (pow_mul 10 3 128).symm
      _ ≤ 10 ^ 400 := pow_le_pow_right₀ (by norm_num) (by decide)

theorem Binary64.narrowBound_range : 1 ≤ narrowBound ∧ narrowBound ≤ 10 ^ 400 := by
  constructor
  · rw [narrowBound]
    norm_num
  · calc narrowBound ≤ 10 ^ 40 := by rw [narrowBound]; norm_num
      _ ≤ 10 ^ 400 := pow_le_pow_right₀ (by norm_num) (by decide)

namespace Tree

variable {t : Tree} {entry : Nat} {b c : Binding} {fault : Fault}

theorem Loaded.load (h : t.Loaded entry b c) (inside : entry < t.entries) :
    t.load entry [b] = ([c], .ok t.branches.length) := by
  rw [Tree.load, if_neg (Nat.not_le_of_gt inside), loadRow_cons_of_ok [] h.refresh]
  rfl

theorem Stops.load (h : t.Stops entry b c fault) (inside : entry < t.entries) :
    t.load entry [b] = ([c], .error fault) := by
  rw [Tree.load, if_neg (Nat.not_le_of_gt inside), h.loadRow_cons []]

/-- **Texts are loaded** into a binding of a floating-point kind as `TreeWire.Kind.ReadsText` says:
a single value is stored or refused as out of range, and an array is stored item by item, up to the
first item that is refused. So a number below the two bounds is stored as a finite value or refused,
and one beyond them is stored as infinity. For a number whose exponent counts, its magnitude can be
taken for the one that is read. -/
theorem load_text (real : b.buffer.kind.exact = false) :
    (∀ v text, b.buffer = .scalar v → t.value? b.handle entry = some (.string text) →
      ∃ r, v.kind.ReadsText text r ∧ t.load entry [b] =
        match r with
        | some w => ([{ b with buffer := .scalar ⟨v.kind, w⟩ }], .ok t.branches.length)
        | none =>
          ([b], .error (.valueOutOfRange b.branch entry (refusal v.kind (.string text))))) ∧
    (∀ s items, b.buffer = .array s → t.value? b.handle entry = some (.array items) →
      (∃ values, List.Forall₂ (fun i w => ∀ text, i = .string text →
          s.kind.ReadsText text (some w)) items values ∧
        t.load entry [b] =
          ([{ b with buffer := .array ⟨s.kind, values.toArray⟩ }], .ok t.branches.length)) ∨
      ∃ before bad after values, items = before ++ bad :: after ∧
        List.Forall₂ (fun i w => ∀ text, i = .string text →
          s.kind.ReadsText text (some w)) before values ∧
        (∀ text, bad = .string text → s.kind.ReadsText text none) ∧
        t.load entry [b] = ([{ b with buffer := .array ⟨s.kind, values.toArray⟩ }],
          .error (.valueOutOfRange b.branch entry (refusal s.kind bad)))) ∧
    ∀ n : Decimal, ∀ text, n.Spells text → n.Counted →
      (Binary64.overflowBound ≤ n.magnitudeRead ↔ Binary64.overflowBound ≤ n.magnitude) ∧
      (Binary64.narrowBound < n.magnitudeRead ↔ Binary64.narrowBound < n.magnitude) := by
  refine ⟨fun v text single cell => ?_, fun s items array cell => ?_,
    fun n text spelled counted => ?_⟩
  · have realKind : v.kind.exact = false := by rwa [single] at real
    exact ⟨v.kind.read? (.string text), Kind.readsText realKind text, load_scalar single cell⟩
  · have realKind : s.kind.exact = false := by rwa [array] at real
    have inside := lt_entries_of_value? cell
    have reads : ∀ {i w}, s.kind.read? i = some w →
        ∀ text, i = .string text → s.kind.ReadsText text (some w) := by
      rintro i w read text rfl
      exact read ▸ Kind.readsText realKind text
    rcases forall₂_or_exists_first (fun i w => s.kind.read? i = some w) items with
      ⟨values, all⟩ | ⟨before, bad, after, values, rfl, all, refused⟩
    · exact .inl ⟨values, all.imp fun _ _ => reads, (Loaded.array cell array all).load inside⟩
    · have none := Option.eq_none_iff_forall_ne_some.mpr refused
      refine .inr ⟨before, bad, after, values, rfl, all.imp fun _ _ => reads, ?_,
        (Stops.item cell array all none).load inside⟩
      rintro text rfl
      exact none ▸ Kind.readsText realKind text
  · obtain ⟨low, high⟩ := Binary64.overflowBound_range
    obtain ⟨lowNarrow, highNarrow⟩ := Binary64.narrowBound_range
    exact ⟨(Decimal.magnitudeRead_iff spelled counted low high).1,
      (Decimal.magnitudeRead_iff spelled counted lowNarrow highNarrow).2⟩

/-- Texts that spell numbers that are too large for 32 bits, and for 64 bits. -/
def oversized : Tree where
  name := "oversized"
  branches :=
    [⟨"x", "", "Float_t", #[.string "1e39", .string "1e400"]⟩,
      ⟨"y", "", "Double_t", #[.string "1e39", .string "1e999"]⟩]
  entries := 2
  size_values := by simp
  entries_eq_zero := nofun

/-- The smaller one of the numbers, ten to the power of 39. -/
def tenTo39 : Decimal := ⟨false, ['1'], [], false, ['3', '9']⟩

/-- The smaller number is refused in 32 bits. -/
theorem load_text_oversized :
    oversized.load 0 [⟨"x", 0, .scalar ⟨.float, Binary32.zero⟩⟩] =
      ([⟨"x", 0, .scalar ⟨.float, Binary32.zero⟩⟩],
        .error (.valueOutOfRange "x" 0 "\"1e39\" is not a valid float")) := by
  obtain ⟨r, reads, loaded⟩ :=
    (@load_text oversized 0 ⟨"x", 0, .scalar ⟨.float, Binary32.zero⟩⟩ rfl).1
      ⟨.float, Binary32.zero⟩ "1e39" rfl rfl
  have spelled : tenTo39.Spells "1e39" := by
    have digits : ['1', '3', '9'].all Char.isDigit = true := rfl
    refine ⟨[], "1e39".toList, rfl, .none, ⟨[], "e39".toList, rfl, .none, ?_⟩,
      List.all_eq_true.mp digits, by decide⟩
    exact .digits (.inl rfl) .none (by decide)
  have magnitude : tenTo39.magnitudeRead = 10 ^ 39 := by
    have place : tenTo39.placeRead = (39 : ℕ) := rfl
    have digit : digitsValue tenTo39.digits = 1 := rfl
    rw [Decimal.magnitudeRead, place, digit, Nat.cast_one, one_mul, zpow_natCast]
  have above : Binary64.narrowBound < 10 ^ 39 := by
    rw [Binary64.narrowBound]
    norm_num
  have below : (10 : ℚ) ^ 39 < Binary64.overflowBound :=
    calc (10 : ℚ) ^ 39 < 2 ^ 130 := by norm_num
      _ ≤ 2 ^ 970 := pow_le_pow_right₀ one_le_two (by decide)
      _ ≤ Binary64.overflowBound := Binary64.le_overflowBound
  obtain rfl := (reads.refused _ spelled).mpr ⟨rfl, by rwa [magnitude], by rwa [magnitude]⟩
  have text : refusal .float (.string "1e39") = "\"1e39\" is not a valid float" := by
    decide +kernel
  rw [loaded, ← text]

/-- **Numbers beyond the other bound** are refused by neither kind: they become infinity. -/
theorem load_stores_infinity :
    oversized.load 1 [⟨"x", 0, .scalar ⟨.float, Binary32.zero⟩⟩,
        ⟨"y", 1, .scalar ⟨.double, Binary64.zero⟩⟩] =
      ([⟨"x", 0, .scalar ⟨.float, Binary32.infinity false⟩⟩,
        ⟨"y", 1, .scalar ⟨.double, Binary64.infinity false⟩⟩], .ok 2) := by
  decide +kernel

end Tree

end TreeWire
