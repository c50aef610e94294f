import TreeWire.Proofs.Interruption

/-!
# Loads that stop half-way

An entry is loaded binding by binding, and a load that fails does not undo what it has done. This
file says what it leaves behind. There is a first binding whose cell is missing or does not
convert. The bindings before it hold the new entry and those behind it are as they were. The
binding itself is as it was, too, except for a series that an array was being read into: the series
holds the items before the first one that does not convert.

* `TreeWire.Tree.Loaded` – **a binding that holds an entry**;
* `TreeWire.Tree.Stops` – **a binding that a load stops at**, with what is left in it and the fault;
* `TreeWire.Tree.loaded_or_stops` – every binding is of one of the two sorts;
* `TreeWire.Tree.loadRow_eq_some_iff` – the run over the bindings;
* `TreeWire.Tree.load_eq_error_iff` – **the main statement**.
-/

namespace TreeWire

/-- **A series that is filled up to an item that does not convert** holds the items before it. -/
theorem Series.fill_append_of_none {k : Kind} {held : Array k.Carrier} {before after : List Json}
    {bad : Json} {values : List k.Carrier}
    (read : List.Forall₂ (fun i v => k.read? i = some v) before values)
    (refused : k.read? bad = none) :
    fill ⟨k, held⟩ (before ++ bad :: after) =
      (⟨k, held ++ values.toArray⟩, some (refusal k bad)) := by
  induction read generalizing held with
  | nil =>
    rw [List.nil_append, fill_cons_of_error (Kind.read_eq_error_iff.mpr ⟨refused, rfl⟩)]
    simp
  | cons first _ ih =>
    rw [List.cons_append, fill_cons_of_ok (Kind.read_eq_ok_iff.mpr first), ih]
    simp

namespace Tree

/-! ### One binding -/

/-- **A binding that holds an entry**: the value of its cell, or the series of the values of an
array. -/
inductive Loaded (t : Tree) (entry : Nat) (b : Binding) : Binding → Prop
  /-- A single value. -/
  | scalar {j : Json} {v : Scalar} {w : v.kind.Carrier} :
    t.value? b.handle entry = some j → b.buffer = .scalar v → v.kind.read? j = some w →
      Loaded t entry b { b with buffer := .scalar ⟨v.kind, w⟩ }
  /-- A series. -/
  | array {items : List Json} {s : Series} {values : List s.kind.Carrier} :
    t.value? b.handle entry = some (.array items) → b.buffer = .array s →
      List.Forall₂ (fun i v => s.kind.read? i = some v) items values →
      Loaded t entry b { b with buffer := .array ⟨s.kind, values.toArray⟩ }

/-- **A binding that a load stops at**, with what is left of it and the fault. -/
inductive Stops (t : Tree) (entry : Nat) (b : Binding) : Binding → Fault → Prop
  /-- The cell is missing. -/
  | missing :
    t.value? b.handle entry = none → Stops t entry b b (.entryLoad t.name entry)
  /-- The cell does not stand for a value of the kind. -/
  | scalar {j : Json} {v : Scalar} :
    t.value? b.handle entry = some j → b.buffer = .scalar v → v.kind.read? j = none →
      Stops t entry b b (.valueOutOfRange b.branch entry (refusal v.kind j))
  /-- The cell of a series is no array. -/
  | single {j : Json} {s : Series} :
    t.value? b.handle entry = some j → b.buffer = .array s → (∀ items, j ≠ .array items) →
      Stops t entry b b (.valueOutOfRange b.branch entry "expected an array")
  /-- An item does not stand for a value of the kind, and all items before it do. -/
  | item {before after : List Json} {bad : Json} {s : Series} {values : List s.kind.Carrier} :
    t.value? b.handle entry = some (.array (before ++ bad :: after)) → b.buffer = .array s →
      List.Forall₂ (fun i v => s.kind.read? i = some v) before values →
      s.kind.read? bad = none →
      Stops t entry b { b with buffer := .array ⟨s.kind, values.toArray⟩ }
        (.valueOutOfRange b.branch entry (refusal s.kind bad))

variable {t : Tree} {entry : Nat} {b c left : Binding} {fault : Fault}

/-- A binding that holds an entry has been refreshed with it. -/
theorem Loaded.refresh (h : t.Loaded entry b c) : t.refresh entry b = .ok c := by
  obtain ⟨branch, handle, buffer⟩ := b
  cases h with
  | @scalar j v w cell single read =>
    obtain rfl : buffer = .scalar v := single
    have value : v.kind.read j = .ok w := Kind.read_eq_ok_iff.mpr read
    simp only [Tree.refresh, cell, Buffer.kind, Buffer.repeated, Buffer.read, value, Except.map]
  | @array items s values cell array all =>
    obtain rfl : buffer = .array s := array
    have read : items.mapM s.kind.read = .ok values :=
      mapM_eq_ok_iff.mpr (all.imp fun _ _ => Kind.read_eq_ok_iff.mpr)
    simp only [Tree.refresh, cell, Buffer.kind, Buffer.repeated, Buffer.read, read, Except.map]

/-- **A load that comes to a binding that it stops at** leaves all bindings behind it as they
are. -/
theorem Stops.loadRow_cons (h : t.Stops entry b left fault) (bs : List Binding) :
    t.loadRow entry (b :: bs) = (left :: bs, some fault) := by
  obtain ⟨branch, handle, buffer⟩ := b
  cases h with
  | missing cell => simp only [loadRow, cell]
  | @scalar j v cell single read =>
    obtain rfl : buffer = .scalar v := single
    simp only [loadRow, cell, Buffer.fill, Scalar.ofJson?, read, Option.map_none]
  | @single j s cell array other =>
    obtain rfl : buffer = .array s := array
    cases j with
    | array items => exact absurd rfl (other items)
    | _ => simp only [loadRow, cell, Buffer.fill]
  | @item before after bad s values cell array all refused =>
    obtain rfl : buffer = .array s := array
    -- the series is emptied first, so nothing of an earlier entry stays in it
    have filled : s.clear.fill (before ++ bad :: after) =
        (⟨s.kind, #[] ++ values.toArray⟩, some (refusal s.kind bad)) :=
      Series.fill_append_of_none all refused
    rw [Array.empty_append] at filled
    simp only [loadRow, cell, Buffer.fill, filled]

/-- **Every binding is loaded, or a load stops at it.** -/
theorem loaded_or_stops (t : Tree) (entry : Nat) (b : Binding) :
    (∃ c, t.Loaded entry b c) ∨ ∃ left fault, t.Stops entry b left fault := by
  cases cell : t.value? b.handle entry with
  | none => exact Or.inr ⟨_, _, .missing cell⟩
  | some j =>
    cases single : b.buffer with
    | scalar v =>
      cases read : v.kind.read? j with
      | some w => exact Or.inl ⟨_, .scalar cell single read⟩
      | none => exact Or.inr ⟨_, _, .scalar cell single read⟩
    | array s =>
      by_cases array : ∃ items, j = .array items
      · obtain ⟨items, rfl⟩ := array
        rcases forall₂_or_exists_first (fun i v => s.kind.read? i = some v) items with
          ⟨values, all⟩ | ⟨before, bad, after, values, rfl, all, refused⟩
        · exact Or.inl ⟨_, .array cell single all⟩
        · exact Or.inr ⟨_, _, .item cell single all (Option.eq_none_iff_forall_ne_some.mpr refused)⟩
      · exact Or.inr ⟨_, _, .single cell single fun items same => array ⟨items, same⟩⟩

/-! ### All bindings -/

/-- **The run** over bindings that are loaded, up to one that it stops at. -/
theorem loadRow_append_of_stops {before loaded : List Binding}
    (all : List.Forall₂ (t.Loaded entry) before loaded) (stops : t.Stops entry b left fault)
    (after : List Binding) :
    t.loadRow entry (before ++ b :: after) = (loaded ++ left :: after, some fault) := by
  induction all with
  | nil => exact stops.loadRow_cons after
  | cons first _ ih => rw [List.cons_append, loadRow_cons_of_ok _ first.refresh, ih]; rfl

/-- **The run fails** exactly if it comes to a binding that it stops at. -/
theorem loadRow_eq_some_iff {bindings row : List Binding} :
    t.loadRow entry bindings = (row, some fault) ↔
      ∃ before b after loaded left, bindings = before ++ b :: after ∧
        row = loaded ++ left :: after ∧ List.Forall₂ (t.Loaded entry) before loaded ∧
        t.Stops entry b left fault := by
  constructor
  · intro run
    rcases forall₂_or_exists_first (t.Loaded entry) bindings with
      ⟨loaded, all⟩ | ⟨before, b, after, loaded, rfl, all, none⟩
    · -- if all bindings are loaded, then there is no fault
      have refreshed := mapM_eq_ok_iff.mpr (all.imp fun _ _ => Loaded.refresh)
      rw [loadRow_of_ok refreshed] at run
      cases run
    · obtain ⟨c, h⟩ | ⟨left, other, stops⟩ := t.loaded_or_stops entry b
      · exact absurd h (none c)
      · rw [loadRow_append_of_stops all stops] at run
        obtain ⟨rfl, same⟩ := Prod.mk.inj run
        obtain rfl := Option.some.inj same
        exact ⟨before, b, after, loaded, left, rfl, rfl, all, stops⟩
  · rintro ⟨before, b, after, loaded, left, rfl, rfl, all, stops⟩
    exact loadRow_append_of_stops all stops after

/-- **A load that fails** has come to a first binding whose cell is missing or does not convert,
whatever the bindings are and whatever they hold. What it leaves are the bindings before it with
the new entry, what is left of the binding itself, and the bindings behind it as they were. The
fault is that of the binding. A load past the last entry reads nothing and changes nothing. -/
theorem load_eq_error_iff (t : Tree) (entry : Nat) (bindings : List Binding) :
    (t.entries ≤ entry → t.load entry bindings = (bindings, .ok 0)) ∧
    ∀ row fault, t.load entry bindings = (row, .error fault) ↔
      entry < t.entries ∧ ∃ before b after loaded left, bindings = before ++ b :: after ∧
        row = loaded ++ left :: after ∧ List.Forall₂ (t.Loaded entry) before loaded ∧
        t.Stops entry b left fault := by
  refine ⟨fun past => if_pos past, fun row fault => ?_⟩
  rw [← loadRow_eq_some_iff]
  by_cases past : t.entries ≤ entry
  · rw [load, if_pos past]
    constructor
    · intro h
      cases h
    · intro h
      omega
  · rw [load, if_neg past]
    rcases run : t.loadRow entry bindings with ⟨left, none | other⟩
    · simp
    · simp [Nat.lt_of_not_ge past]

/-- Bindings to `Tree.readings` that hold something else. -/
def heldBindings : List Binding :=
  [⟨"x", 0, .scalar ⟨.int32, 5⟩⟩, ⟨"ys", 1, .array ⟨.int32, #[7, 7, 7]⟩⟩,
    ⟨"x", 0, .scalar ⟨.int32, 6⟩⟩]

/-- The second entry stops in the middle of the list, a branch that does not exist has no cell, and
there is no fourth entry. -/
theorem load_eq_error_iff_readings :
    readings.load 1 heldBindings =
      ([⟨"x", 0, .scalar ⟨.int32, 8⟩⟩, ⟨"ys", 1, .array ⟨.int32, #[2]⟩⟩,
          ⟨"x", 0, .scalar ⟨.int32, 6⟩⟩],
        .error (.valueOutOfRange "ys" 1 "\"two\" is not a valid int32")) ∧
    readings.load 1 [⟨"zs", 2, .scalar ⟨.bool, true⟩⟩] =
      ([⟨"zs", 2, .scalar ⟨.bool, true⟩⟩], .error (.entryLoad "readings" 1)) ∧
    readings.entries ≤ 3 ∧ readings.load 3 heldBindings = (heldBindings, .ok 0) := by
  have past : readings.entries ≤ 3 := by decide
  have detail : "\"two\" is not a valid int32" = refusal .int32 (.string "two") := by
    decide +kernel
  have eight : Kind.int32.read? (.ofInt32 8) = some 8 := by decide +kernel
  have two : Kind.int32.read? (.ofInt32 2) = some 2 := by decide +kernel
  have list : readings.value? 1 1 = some (.array ([.ofInt32 2] ++ .string "two" :: [])) := rfl
  refine ⟨?_, ?_, past, (load_eq_error_iff readings 3 heldBindings).1 past⟩
  · rw [detail]
    refine ((load_eq_error_iff readings 1 heldBindings).2 _ _).mpr ⟨by decide,
      [⟨"x", 0, .scalar ⟨.int32, 5⟩⟩], ⟨"ys", 1, .array ⟨.int32, #[7, 7, 7]⟩⟩, _,
      [⟨"x", 0, .scalar ⟨.int32, 8⟩⟩], _, rfl, rfl, .cons ?_ .nil, ?_⟩
    · exact .scalar (j := .ofInt32 8) (v := ⟨.int32, 5⟩) rfl rfl eight
    · exact .item (s := ⟨.int32, #[7, 7, 7]⟩) list rfl (.cons two .nil) rfl
  · exact ((load_eq_error_iff readings 1 _).2 _ _).mpr ⟨by decide, [], _, [], [], _, rfl, rfl,
      .nil, .missing rfl⟩

end Tree

end TreeWire
