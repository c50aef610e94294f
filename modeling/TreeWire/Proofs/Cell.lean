import TreeWire.Proofs.Stopping

/-!
# Cells that are read exactly

All kinds but the floating-point ones hold values that a JSON value can stand for exactly: truth
values, integers of a range, texts and byte strings. A cell is read as a value of such a kind if
and only if it stands for one, and what is read is the very value. An integer beyond the range is
refused and so is a number that is not written as an integer; nothing is wrapped, cut off or moved
to the end of the range.

* `TreeWire.Kind.Accepts` – **which JSON values are read** as values of a kind;
* `TreeWire.Kind.Denotes` – **which value a JSON value stands for**;
* `TreeWire.map_readInRange?_eq_some_iff` – integers of any range;
* `TreeWire.Kind.read?_eq_some_iff`, `TreeWire.Kind.exists_denotes_iff` – one cell;
* `TreeWire.Tree.load_exact` – **the main statement**: loading a cell.
-/

namespace TreeWire

/-! ### What JSON values stand for -/

namespace Kind

/-- Whether the values of a kind are exact. -/
def exact : Kind → Bool
  | float | double => false
  | _ => true

/-- **Which JSON values are read** as values of a kind: integers within the limits of the kind,
truth values and the integers 0 and 1, strings, and arrays of the integers that bytes can be. -/
def Accepts : Kind → Json → Prop
  | bool, j => j = .bool false ∨ j = .bool true ∨ j.toInt? = some 0 ∨ j.toInt? = some 1
  | int32, j => ∃ n, j.toInt? = some n ∧ -2147483648 ≤ n ∧ n ≤ 2147483647
  | int64, j => ∃ n, j.toInt? = some n ∧ -9223372036854775808 ≤ n ∧ n ≤ 9223372036854775807
  | uint32, j => ∃ n, j.toInt? = some n ∧ 0 ≤ n ∧ n ≤ 4294967295
  | uint64, j => ∃ n, j.toInt? = some n ∧ 0 ≤ n ∧ n ≤ 18446744073709551615
  | string, j => ∃ s, j = .string s
  | bytes, j => (∃ s, j = .string s) ∨
      ∃ items, j = .array items ∧ ∀ i ∈ items, ∃ n, i.toInt? = some n ∧ 0 ≤ n ∧ n ≤ 255
  | float, _ | double, _ => False

/-- **Which value a JSON value stands for**: an integer for the value that is equal to it, a string
for itself or for its encoding, and an array of integers for the bytes that are equal to them. -/
def Denotes : (k : Kind) → Json → k.Carrier → Prop
  | bool, j, b => j = .bool b ∨ j.toInt? = some b.toInt
  | int32, j, v => j.toInt? = some v.toInt
  | int64, j, v => j.toInt? = some v.toInt
  | uint32, j, v => j.toInt? = some v.toNat
  | uint64, j, v => j.toInt? = some v.toNat
  | string, j, s => j = .string s
  | bytes, j, bs => (∃ s, j = .string s ∧ bs = utf8 s) ∨
      ∃ items, j = .array items ∧
        List.Forall₂ (fun i (b : UInt8) => i.toInt? = some (b.toNat : Int)) items bs
  | float, _, _ | double, _, _ => False

end Kind

/-! ### Integers -/

/-- **A type of integers**: the numbers of its values are those of a range, of which the upper end
is not part, and every number of the range is that of one value. -/
structure Spans {α : Type} (low high : Int) (value : Int → α) (number : α → Int) : Prop where
  /-- The numbers are in the range. -/
  inside : ∀ v, low ≤ number v ∧ number v < high
  /-- Values with one number are the same. -/
  value_number : ∀ v, value (number v) = v
  /-- Every number of the range is that of a value. -/
  number_value : ∀ n, low ≤ n ∧ n < high → number (value n) = n

namespace Spans

variable {α : Type} {low high : Int} {value : Int → α} {number : α → Int} {j : Json}

/-- **What is read** as a value is the integer that is equal to it. -/
theorem readInRange?_eq_some_iff (spans : Spans low high value number) {v : α} :
    (readInRange? low high j).map value = some v ↔ j.toInt? = some (number v) := by
  simp only [readInRange?, Option.map_eq_some_iff, Option.filter_eq_some_iff, decide_eq_true_eq]
  constructor
  · rintro ⟨n, ⟨hn, within⟩, rfl⟩
    rw [hn, spans.number_value n within]
  · exact fun h => ⟨number v, ⟨h, spans.inside v⟩, spans.value_number v⟩

/-- The integers that are equal to a value are those of the range. -/
theorem exists_toInt?_iff (spans : Spans low high value number) {last : Int}
    (end_eq : high = last + 1) :
    (∃ v, j.toInt? = some (number v)) ↔ ∃ n, j.toInt? = some n ∧ low ≤ n ∧ n ≤ last := by
  constructor
  · rintro ⟨v, h⟩
    have := spans.inside v
    exact ⟨number v, h, by omega⟩
  · rintro ⟨n, h, within⟩
    exact ⟨value n, by rw [h, spans.number_value n (by omega)]⟩

theorem int32 : Spans (-0x80000000) 0x80000000 Int32.ofInt Int32.toInt where
  inside v := ⟨v.le_toInt, v.toInt_lt⟩
  value_number := Int32.ofInt_toInt
  number_value _ h := Int32.toInt_ofInt_of_le h.1 h.2

theorem int64 : Spans (-0x8000000000000000) 0x8000000000000000 Int64.ofInt Int64.toInt where
  inside v := ⟨v.le_toInt, v.toInt_lt⟩
  value_number := Int64.ofInt_toInt
  number_value _ h := Int64.toInt_ofInt_of_le h.1 h.2

theorem uint32 : Spans 0 0x100000000 (fun n => n.toNat.toUInt32) (fun v => v.toNat) where
  inside v := by have := v.toNat_lt; omega
  value_number v := by simp
  number_value n h := by
    have : (n.toNat.toUInt32).toNat = n.toNat := UInt32.toNat_ofNat_of_lt' (by simp; omega)
    omega

theorem uint64 : Spans 0 0x10000000000000000 (fun n => n.toNat.toUInt64) (fun v => v.toNat) where
  inside v := by have := v.toNat_lt; omega
  value_number v := by simp
  number_value n h := by
    have : (n.toNat.toUInt64).toNat = n.toNat := UInt64.toNat_ofNat_of_lt' (by simp; omega)
    omega

theorem byte : Spans 0 256 (fun n => n.toNat.toUInt8) (fun v => v.toNat) where
  inside v := by have := v.toNat_lt; omega
  value_number v := by simp
  number_value n h := by
    have : (n.toNat.toUInt8).toNat = n.toNat := UInt8.toNat_ofNat_of_lt' (by simp; omega)
    omega

end Spans

/-! ### One cell -/

theorem readBool?_eq_some_iff {j : Json} {b : Bool} :
    readBool? j = some b ↔ Kind.bool.Denotes j b := by
  cases j with
  | number n =>
    cases hn : n.toInt? with
    | none => simp [readBool?, Kind.Denotes, Json.toInt?, hn]
    | some i =>
      unfold readBool? Kind.Denotes
      simp only [hn, Json.toInt?]
      split <;> cases b <;> simp_all
  | bool c => simp [readBool?, Kind.Denotes, Json.toInt?]
  | _ => simp [readBool?, Kind.Denotes, Json.toInt?]

theorem readBytes?_eq_some_iff {j : Json} {bs : Bytes} :
    readBytes? j = some bs ↔ Kind.bytes.Denotes j bs := by
  cases j with
  | array items =>
    have bytes : readBytes? (.array items) = some bs ↔
        List.Forall₂ (fun i (b : UInt8) => i.toInt? = some (b.toNat : Int)) items bs := by
      rw [readBytes?, mapM_eq_some_iff]
      simp only [Spans.byte.readInRange?_eq_some_iff]
    simpa [Kind.Denotes] using bytes
  | string s => simp [readBytes?, Kind.Denotes, eq_comm]
  | _ => simp [readBytes?, Kind.Denotes]

theorem readText?_eq_some_iff {j : Json} {s : String} :
    readText? j = some s ↔ Kind.string.Denotes j s := by
  cases j with
  | string s => simp [readText?, Kind.Denotes]
  | _ => simp [readText?, Kind.Denotes]

namespace Kind

variable {k : Kind} {j : Json}

/-- **What is read is what the JSON value stands for.** -/
theorem read?_eq_some_iff (h : k.exact = true) {v : k.Carrier} :
    k.read? j = some v ↔ k.Denotes j v := by
  cases k with
  | bool => exact readBool?_eq_some_iff
  | int32 => exact Spans.int32.readInRange?_eq_some_iff
  | int64 => exact Spans.int64.readInRange?_eq_some_iff
  | uint32 => exact Spans.uint32.readInRange?_eq_some_iff
  | uint64 => exact Spans.uint64.readInRange?_eq_some_iff
  | float => cases h
  | double => cases h
  | bytes => exact readBytes?_eq_some_iff
  | string => exact readText?_eq_some_iff

/-- **A JSON value stands for something** exactly if it is accepted. -/
theorem exists_denotes_iff : (∃ v, k.Denotes j v) ↔ k.Accepts j := by
  cases k with
  | bool => simp [Denotes, Accepts, or_assoc, or_left_comm]
  | int32 => exact Spans.int32.exists_toInt?_iff rfl
  | int64 => exact Spans.int64.exists_toInt?_iff rfl
  | uint32 => exact Spans.uint32.exists_toInt?_iff rfl
  | uint64 => exact Spans.uint64.exists_toInt?_iff rfl
  | float => simp [Denotes, Accepts]
  | double => simp [Denotes, Accepts]
  | string => simp [Denotes, Accepts]
  | bytes =>
    have each : ∀ {i : Json}, (∃ b : UInt8, i.toInt? = some (b.toNat : Int)) ↔
        ∃ n, i.toInt? = some n ∧ 0 ≤ n ∧ n ≤ 255 := Spans.byte.exists_toInt?_iff rfl
    simp only [Denotes, Accepts, ← each]
    constructor
    · rintro ⟨bs, ⟨s, rfl, -⟩ | ⟨items, rfl, all⟩⟩
      · exact Or.inl ⟨s, rfl⟩
      · refine Or.inr ⟨items, rfl, fun i hi => ?_⟩
        obtain ⟨p, hp⟩ := List.getElem?_of_mem hi
        obtain ⟨b, -, equal⟩ := exists_getElem?_of_forall₂ all hp
        exact ⟨b, equal⟩
    · rintro (⟨s, rfl⟩ | ⟨items, rfl, all⟩)
      · exact ⟨utf8 s, Or.inl ⟨s, rfl, rfl⟩⟩
      · obtain ⟨bs, each⟩ := exists_forall₂ all
        exact ⟨bs, Or.inr ⟨items, rfl, each⟩⟩

end Kind

/-! ### Loading a cell -/

namespace Tree

variable {t : Tree} {entry : Nat} {b : Binding} {v : Scalar} {j : Json}

/-- There are cells at the entries of the tree only. -/
theorem lt_entries_of_value? {position : Nat} (cell : t.value? position entry = some j) :
    entry < t.entries := by
  obtain ⟨column, get, there⟩ := Option.bind_eq_some_iff.mp cell
  obtain ⟨inside, -⟩ := Array.getElem?_eq_some_iff.mp there
  rwa [← t.size_values column (List.mem_of_getElem? get)]

/-- **A single value is loaded** if the cell can be read as a value of its kind, and is left as it
is otherwise. -/
theorem load_scalar (single : b.buffer = .scalar v) (cell : t.value? b.handle entry = some j) :
    t.load entry [b] =
      match v.kind.read? j with
      | some w => ([{ b with buffer := .scalar ⟨v.kind, w⟩ }], .ok t.branches.length)
      | none => ([b], .error (.valueOutOfRange b.branch entry (refusal v.kind j))) := by
  have inside : ¬ t.entries ≤ entry := Nat.not_le_of_gt (lt_entries_of_value? cell)
  cases read : v.kind.read? j with
  | some w =>
    have loaded : t.Loaded entry b { b with buffer := .scalar ⟨v.kind, w⟩ } :=
      .scalar cell single read
    rw [load, if_neg inside, loadRow_cons_of_ok [] loaded.refresh]
    rfl
  | none =>
    have stops : t.Stops entry b b (.valueOutOfRange b.branch entry (refusal v.kind j)) :=
      .scalar cell single read
    rw [load, if_neg inside, stops.loadRow_cons []]

/-- **A cell is loaded exactly.** Into a binding that holds a single value of an exact kind, a value
is loaded if and only if the cell stands for it, and the cells that stand for a value of the kind
are those within its limits. Any other cell is refused as out of range, in the name of the branch
and the entry, and the binding stays as it is. -/
theorem load_exact (exact : v.kind.exact = true) (single : b.buffer = .scalar v)
    (cell : t.value? b.handle entry = some j) :
    (∀ w : v.kind.Carrier,
      t.load entry [b] = ([{ b with buffer := .scalar ⟨v.kind, w⟩ }], .ok t.branches.length) ↔
        v.kind.Denotes j w) ∧
    ((∃ w, v.kind.Denotes j w) ↔ v.kind.Accepts j) ∧
    (¬ v.kind.Accepts j →
      t.load entry [b] =
        ([b], .error (.valueOutOfRange b.branch entry (refusal v.kind j)))) := by
  have loaded := load_scalar single cell
  refine ⟨fun w => ?_, Kind.exists_denotes_iff, fun refused => ?_⟩
  · rw [← Kind.read?_eq_some_iff exact, loaded]
    cases v.kind.read? j with
    | some u => simp
    | none => simp
  · cases read : v.kind.read? j with
    | some u =>
      exact absurd (Kind.exists_denotes_iff.mp ⟨u, (Kind.read?_eq_some_iff exact).mp read⟩) refused
    | none => rw [loaded, read]

/-- A tree with the largest integer of 32 bits, and with the one after it. -/
def limits : Tree where
  name := "limits"
  branches :=
    [⟨"x", "", "Int_t", #[.number (.integer 2147483647 (by decide)),
      .number (.integer 2147483648 (by decide))]⟩]
  entries := 2
  size_values := by simp
  entries_eq_zero := nofun

/-- The first entry is loaded, and the second one is refused. -/
theorem load_exact_limits :
    Kind.int32.exact = true ∧
    limits.load 0 [⟨"x", 0, .scalar ⟨.int32, 7⟩⟩] =
      ([⟨"x", 0, .scalar ⟨.int32, 2147483647⟩⟩], .ok 1) ∧
    ¬ Kind.int32.Accepts (.number (.integer 2147483648 (by decide))) ∧
    limits.load 1 [⟨"x", 0, .scalar ⟨.int32, 7⟩⟩] =
      ([⟨"x", 0, .scalar ⟨.int32, 7⟩⟩],
        .error (.valueOutOfRange "x" 1 "2147483648 is not a valid int32")) := by
  have exact : Kind.int32.exact = true := rfl
  have cell₀ : limits.value? 0 0 = some (.number (.integer 2147483647 (by decide))) := rfl
  have cell₁ : limits.value? 0 1 = some (.number (.integer 2147483648 (by decide))) := rfl
  have beyond : ¬ Kind.int32.Accepts (.number (.integer 2147483648 (by decide))) := by
    rintro ⟨n, equal, -, le⟩
    obtain rfl : 2147483648 = n := Option.some.inj equal
    omega
  have refused : refusal .int32 (.number (.integer 2147483648 (by decide))) =
      "2147483648 is not a valid int32" := by
    decide +kernel
  obtain ⟨loads, -, -⟩ :=
    load_exact (b := ⟨"x", 0, .scalar ⟨.int32, 7⟩⟩) (v := ⟨.int32, 7⟩) exact rfl cell₀
  obtain ⟨-, -, refuses⟩ :=
    load_exact (b := ⟨"x", 0, .scalar ⟨.int32, 7⟩⟩) (v := ⟨.int32, 7⟩) exact rfl cell₁
  refine ⟨exact, (loads 2147483647).mpr ?_, beyond, ?_⟩
  · exact congrArg some (by decide)
  · rw [← refused]
    exact refuses beyond

end Tree

end TreeWire
