import TreeWire.Wire.Field

/-!
# Scanning byte strings

A scan reads one thing at the front of a byte string and hands back the rest. The scans of this
file undo the payloads of `TreeWire.Wire`, and `TreeWire.Wire.scanAll?` runs a scan until nothing
is left. That is all a reader of data files needs, and none of it looks at how the bytes came
about.

* `TreeWire.Wire.scanAll?` – everything in a byte string, one thing after the other;
* `TreeWire.Wire.scanBlock?` – a length and as many bytes;
* `TreeWire.Wire.scanLow?` – a number in a given number of bytes, low byte first;
* `TreeWire.Wire.unzigzag` – the signed number that was folded;
* `TreeWire.Wire.scanKey?` – the number and the shape of a field.

Values are numbers of 64 bits and read as such. A length has no bound but the bytes that follow
it, so that what is said about writing and reading holds of payloads of any length.
-/

namespace TreeWire.Wire

/-- **Scans**: what stands at the front of a byte string, and the rest. -/
abbrev Scan (α : Type) := Bytes → Option (α × Bytes)

namespace Scan

variable {α β : Type}

/-- A scan whose result stands for something else, if it stands for anything. -/
def pick (s : Scan α) (f : α → Option β) : Scan β := fun bs =>
  match s bs with
  | some (a, rest) => (f a).map (·, rest)
  | none => none

/-- A scan whose result stands for something else. -/
def as (s : Scan α) (f : α → β) : Scan β := s.pick fun a => some (f a)

theorem pick_eq_some {s : Scan α} {f : α → Option β} {bs rest : Bytes} {a : α} {b : β}
    (hs : s bs = some (a, rest)) (hf : f a = some b) : s.pick f bs = some (b, rest) := by
  simp [pick, hs, hf]

theorem as_eq_some {s : Scan α} {f : α → β} {bs rest : Bytes} {a : α} {b : β}
    (hs : s bs = some (a, rest)) (hf : f a = b) : s.as f bs = some (b, rest) :=
  pick_eq_some hs (congrArg some hf)

end Scan

/-! ### One thing after the other -/

section ScanAll

variable {α β : Type}

/-- **Everything in a byte string**, one thing after the other. A thing that takes no byte is
refused, so that the end is reached. -/
def scanAll? (s : Scan α) : Bytes → Option (List α)
  | [] => some []
  | b :: bs =>
    match s (b :: bs) with
    | some (a, rest) =>
      if rest.length ≤ bs.length then (scanAll? s rest).map (a :: ·) else none
    | none => none
termination_by bs => bs.length

variable {s : Scan α}

@[simp] theorem scanAll?_nil : scanAll? s [] = some [] := by rw [scanAll?]

/-- What a scan reads at the front comes first. -/
theorem scanAll?_append {front rest : Bytes} {a : α} (hne : front ≠ [])
    (hs : s (front ++ rest) = some (a, rest)) :
    scanAll? s (front ++ rest) = (scanAll? s rest).map (a :: ·) := by
  obtain ⟨b, bs, rfl⟩ := List.exists_cons_of_ne_nil hne
  rw [List.cons_append] at hs ⊢
  rw [scanAll?, hs]
  exact if_pos (by simp)

/-- **What was written thing by thing is read thing by thing**, in front of whatever follows. -/
theorem scanAll?_flatMap_append {write : β → Bytes} {value : β → α} {xs : List β}
    (hne : ∀ x ∈ xs, write x ≠ [])
    (hs : ∀ x ∈ xs, ∀ rest, s (write x ++ rest) = some (value x, rest)) (rest : Bytes) :
    scanAll? s (xs.flatMap write ++ rest) = (scanAll? s rest).map (xs.map value ++ ·) := by
  induction xs with
  | nil => simp
  | cons x xs ih =>
    have first := hs x (by simp) (xs.flatMap write ++ rest)
    have others := ih (fun y hy => hne y (by simp [hy])) fun y hy => hs y (by simp [hy])
    rw [List.flatMap_cons, List.append_assoc, scanAll?_append (hne x (by simp)) first, others,
      Option.map_map]
    rfl

/-- What was written thing by thing is read thing by thing, if nothing follows. -/
theorem scanAll?_flatMap {write : β → Bytes} {value : β → α} {xs : List β}
    (hne : ∀ x ∈ xs, write x ≠ [])
    (hs : ∀ x ∈ xs, ∀ rest, s (write x ++ rest) = some (value x, rest)) :
    scanAll? s (xs.flatMap write) = some (xs.map value) := by
  simpa using scanAll?_flatMap_append hne hs []

end ScanAll

/-! ### Numbers and blocks -/

/-- A length at the front: a number in as many groups as there are. -/
def scanLength? : Scan Nat := fun bs => readGroups? (bs.length + 1) bs

/-- A number is smaller than what its bytes have room for. -/
theorem lt_twoPow_length_varint (n : Nat) : n < twoPow (7 * (varint n).length) := by
  fun_induction varint n with
  | case1 n small => simpa using small
  | case2 n large ih =>
    have split : 7 * ((n % 128 + 128).toUInt8 :: varint (n / 128)).length =
        7 + 7 * (varint (n / 128)).length := by
      rw [List.length_cons]
      omega
    have top : twoPow 7 = 128 := rfl
    rw [split, twoPow_add, top]
    omega

/-- **A length is read back**, whatever it is. -/
theorem scanLength?_varint_append (n : Nat) (rest : Bytes) :
    scanLength? (varint n ++ rest) = some (n, rest) := by
  -- the room is counted in groups, of which the bytes have as many as the number needs
  refine readGroups?_varint_append (Nat.lt_of_lt_of_le (lt_twoPow_length_varint n) ?_) rest
  refine Nat.pow_le_pow_right (by decide) ?_
  rw [List.length_append]
  omega

/-- The bytes of a number tell where they end. -/
theorem varint_append_inj {m n : Nat} {bs cs : Bytes} (h : varint m ++ bs = varint n ++ cs) :
    m = n ∧ bs = cs := by
  have read := scanLength?_varint_append m bs
  rw [h, scanLength?_varint_append] at read
  obtain ⟨number, rest⟩ := Prod.mk.inj (Option.some.inj read)
  exact ⟨number.symm, rest.symm⟩

/-- **A block**: a length and as many bytes. -/
def scanBlock? : Scan Bytes := fun bs =>
  match scanLength? bs with
  | some (n, rest) => if n ≤ rest.length then some (rest.take n, rest.drop n) else none
  | none => none

/-- **A block is read back.** -/
theorem scanBlock?_delimited_append (payload rest : Bytes) :
    scanBlock? (delimited payload ++ rest) = some (payload, rest) := by
  simp [scanBlock?, delimited, List.append_assoc, scanLength?_varint_append]

theorem delimited_ne_nil (payload : Bytes) : delimited payload ≠ [] := by
  simp [delimited, varint_ne_nil]

/-! ### Numbers of fixed width and folded numbers -/

/-- The number of some bytes, low byte first. -/
def lowNumber : Bytes → Nat
  | [] => 0
  | b :: bs => b.toNat + 256 * lowNumber bs

/-- The number in the given number of bytes at the front, low byte first. -/
def scanLow? (count : Nat) : Scan Nat := fun bs =>
  if count ≤ bs.length then some (lowNumber (bs.take count), bs.drop count) else none

theorem lowNumber_lowBytes {count n : Nat} (h : n < twoPow (8 * count)) :
    lowNumber (lowBytes count n) = n := by
  induction count generalizing n with
  | zero =>
    have : n = 0 := by simpa using h
    simp [lowBytes, lowNumber, this]
  | succ count ih =>
    have high : n / 256 < twoPow (8 * count) := by
      rw [Nat.div_lt_iff_lt_mul (by omega)]
      calc n < twoPow (8 * (count + 1)) := h
        _ = twoPow (8 * count) * 256 := by
          rw [show 8 * (count + 1) = 8 * count + 8 by omega, twoPow_add]
    have low : n.toUInt8.toNat = n % 256 := by simp
    rw [lowBytes, lowNumber, ih high, low]
    omega

/-- **A number of fixed width is read back.** -/
theorem scanLow?_lowBytes_append {count n : Nat} (h : n < twoPow (8 * count)) (rest : Bytes) :
    scanLow? count (lowBytes count n ++ rest) = some (n, rest) := by
  rw [scanLow?, if_pos (by simp)]
  rw [List.take_left' (length_lowBytes count n), List.drop_left' (length_lowBytes count n),
    lowNumber_lowBytes h]

/-- **The signed number that was folded**: the even numbers are those that are not negative. -/
def unzigzag (n : Nat) : Int := if n % 2 = 0 then (n / 2 : Nat) else -((n / 2 : Nat) : Int) - 1

@[simp] theorem unzigzag_zigzag (i : Int) : unzigzag (zigzag i) = i := by
  unfold unzigzag zigzag
  by_cases negative : i < 0
  · rw [if_pos negative, if_neg (by omega)]
    omega
  · rw [if_neg negative, if_pos (by omega)]
    omega

/-! ### Keys -/

/-- **The key** of a field at the front: its number, which is not zero, and its shape. Keys have
at most 32 bits. -/
def scanKey? : Scan (Nat × Shape) :=
  Scan.pick readVarint? fun n =>
    if 0x100000000 ≤ n ∨ n / 8 = 0 then none else (Shape.ofCode? (n % 8)).map (n / 8, ·)

/-- **A key is read back**, if its number is one that a field can have. -/
theorem scanKey?_key_append {number : UInt32} (low : 1 ≤ number.toNat)
    (high : number.toNat < 0x20000000) (shape : Shape) (rest : Bytes) :
    scanKey? (key number shape ++ rest) = some ((number.toNat, shape), rest) := by
  -- the code of the shape takes the three low bits
  have code := shape.code_lt
  rw [key_of_lt high]
  refine Scan.pick_eq_some (readVarint?_varint_append (by omega) rest) ?_
  rw [if_neg (by omega), show (8 * number.toNat + shape.code) % 8 = shape.code by omega,
    show (8 * number.toNat + shape.code) / 8 = number.toNat by omega, Shape.ofCode?_code]
  rfl

theorem key_ne_nil (number : UInt32) (shape : Shape) : key number shape ≠ [] := varint_ne_nil _

end TreeWire.Wire
