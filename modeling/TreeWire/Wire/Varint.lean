import TreeWire.Bytes
import TreeWire.Number.Power

/-!
# Variable-length integers

A number is written in groups of seven bits, the lowest first. Every byte but the last has its high
bit set. A number of 64 bits takes at most ten bytes, and the tenth can only hold the one bit that
is left.

* `TreeWire.Wire.varint` – the bytes of a number;
* `TreeWire.Wire.readVarint?` – the number at the front of a byte string.

Reading what was written gives the number back together with whatever follows it.
-/

namespace TreeWire.Wire

/-- **The bytes of a number.** -/
def varint (n : Nat) : Bytes :=
  if n < 128 then [n.toUInt8] else (n % 128 + 128).toUInt8 :: varint (n / 128)
termination_by n
decreasing_by omega

/-- The greatest number of bytes. -/
def longestVarint : Nat := 10

/-- The number at the front, in at most the given number of bytes, and the rest. The byte that
uses up the room holds a single bit. -/
def readGroups? : Nat → Bytes → Option (Nat × Bytes)
  | 0, _ => none
  | _, [] => none
  | room + 1, b :: bs =>
    if b.toNat < 128 then if room = 0 ∧ 2 ≤ b.toNat then none else some (b.toNat, bs)
    else
      match readGroups? room bs with
      | some (n, rest) => some (b.toNat - 128 + 128 * n, rest)
      | none => none

/-- **The number at the front** of a byte string, and the rest. -/
def readVarint? (bs : Bytes) : Option (Nat × Bytes) := readGroups? longestVarint bs

/-- A number is a byte if it is small enough. -/
theorem toNat_toUInt8 {n : Nat} (h : n < 256) : n.toUInt8.toNat = n := by
  simp [Nat.mod_eq_of_lt h]

/-- At least one byte is written. -/
theorem varint_ne_nil (n : Nat) : varint n ≠ [] := by
  rw [varint]
  split <;> simp

/-- What was written within the room is read back. -/
theorem readGroups?_varint_append {room n : Nat} (h : n < twoPow (7 * room + 1)) (rest : Bytes) :
    readGroups? (room + 1) (varint n ++ rest) = some (n, rest) := by
  induction room generalizing n with
  | zero =>
    have hn : n < 2 := by simpa using h
    rw [varint, if_pos (by omega)]
    simp [readGroups?, Nat.mod_eq_of_lt (show n < 256 by omega), show n < 128 by omega,
      show ¬ 2 ≤ n by omega]
  | succ room ih =>
    rw [varint]
    split
    · rename_i small
      simp [readGroups?, Nat.mod_eq_of_lt (show n < 256 by omega), small]
    · rename_i large
      have byte := toNat_toUInt8 (show n % 128 + 128 < 256 by omega)
      have bound : n / 128 < twoPow (7 * room + 1) := by
        rw [Nat.div_lt_iff_lt_mul (by omega)]
        calc n < twoPow (7 * (room + 1) + 1) := h
          _ = twoPow (7 * room + 1) * 128 := by
            rw [show 7 * (room + 1) + 1 = (7 * room + 1) + 7 by omega, twoPow_add]
      rw [List.cons_append, readGroups?, byte, if_neg (by omega), ih bound]
      simp only [Option.some.injEq, Prod.mk.injEq, and_true]
      omega

/-- **What was written is read back**, with whatever follows it. -/
theorem readVarint?_varint_append {n : Nat} (h : n < 0x10000000000000000) (rest : Bytes) :
    readVarint? (varint n ++ rest) = some (n, rest) :=
  @readGroups?_varint_append 9 n h rest

theorem length_of_readGroups? {room n : Nat} {bs rest : Bytes}
    (h : readGroups? room bs = some (n, rest)) : rest.length < bs.length := by
  induction room generalizing bs n rest with
  | zero => simp [readGroups?] at h
  | succ room ih =>
    cases bs with
    | nil => simp [readGroups?] at h
    | cons b bs =>
      rw [readGroups?] at h
      split at h
      · split at h
        · cases h
        · simp only [Option.some.injEq, Prod.mk.injEq] at h
          simp [← h.2]
      · split at h
        · rename_i m after hr
          simp only [Option.some.injEq, Prod.mk.injEq] at h
          have := ih hr
          simp only [List.length_cons, ← h.2]
          omega
        · cases h

/-- At least one byte is read. -/
theorem length_of_readVarint? {n : Nat} {bs rest : Bytes} (h : readVarint? bs = some (n, rest)) :
    rest.length < bs.length :=
  length_of_readGroups? h

example : varint 300 = [0xAC, 0x02] := by decide +kernel

example : readVarint? [0x80, 0x00, 7] = some (0, [7]) := by decide

example : readVarint? [0xFF, 0xFF, 0xFF, 0xFF, 0xFF, 0xFF, 0xFF, 0xFF, 0xFF, 0x02] = none := by
  decide

end TreeWire.Wire
