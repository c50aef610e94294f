import TreeWire.Number.Integer

/-!
# Decimal integers that are read back

What is printed of a number are its digits, after a dash if it is negative. A command line and a
schema hold numbers in this form.

* `TreeWire.naturalOf?_toDigits` – digits;
* `TreeWire.integerOf?_toString` – **integers**.
-/

namespace TreeWire

/-- Decimal digits are read back. -/
theorem naturalOf?_toDigits (n : Nat) : naturalOf? (Nat.toDigits 10 n) = some n := by
  have digits : (Nat.toDigits 10 n).all Char.isDigit = true := by
    rw [List.all_eq_true]
    exact fun c mem => Nat.isDigit_of_mem_toDigits (by decide) (by decide) mem
  rw [naturalOf?, if_pos ⟨Nat.toDigits_ne_nil, digits⟩]
  exact congrArg some Nat.ofDigitChars_ten_toDigits

theorem toList_toString_ofNat (n : Nat) : (toString (n : Int)).toList = Nat.toDigits 10 n :=
  Nat.toList_repr

theorem toList_toString_negSucc (n : Nat) :
    (toString (Int.negSucc n)).toList = '-' :: Nat.toDigits 10 (n + 1) := by
  rw [← Nat.toList_repr]
  exact String.toList_append

/-- The digits of a number do not begin with a sign. -/
theorem exists_toDigits_eq_cons (n : Nat) :
    ∃ c cs, Nat.toDigits 10 n = c :: cs ∧ c.isDigit = true := by
  obtain ⟨c, cs, digits⟩ := List.exists_cons_of_ne_nil (Nat.toDigits_ne_nil (n := n) (b := 10))
  have first : c ∈ Nat.toDigits 10 n := digits ▸ List.mem_cons_self
  exact ⟨c, cs, digits, Nat.isDigit_of_mem_toDigits (by decide) (by decide) first⟩

/-- **Numbers are read back.** -/
theorem integerOf?_toString (n : Int) : integerOf? (toString n) = some n := by
  rw [integerOf?]
  cases n with
  | ofNat n =>
    have text := toList_toString_ofNat n
    have read := naturalOf?_toDigits n
    obtain ⟨c, cs, digits, first⟩ := exists_toDigits_eq_cons n
    rw [digits] at text read
    have plus : c ≠ '+' := by rintro rfl; exact absurd first (by decide)
    have minus : c ≠ '-' := by rintro rfl; exact absurd first (by decide)
    simp only [Int.ofNat_eq_natCast, text]
    split
    next cs' same => exact absurd (List.cons.inj same).1 minus
    next cs' same => exact absurd (List.cons.inj same).1 plus
    next => rw [read]; rfl
  | negSucc n =>
    rw [toList_toString_negSucc]
    simp only [naturalOf?_toDigits]
    rfl

end TreeWire
