import TreeWire.Binding
import TreeWire.Proofs.Lists

/-!
# Rows

Loading an entry overwrites buffers that still hold an earlier entry. What it leaves there does not
depend on that: a cell is read as what it stands for, given the kind that the buffer was made for
and whether it holds a series. This file says what a cell stands for without any buffer, and that
filling and loading do that and nothing else.

* `TreeWire.Buffer.read` – the buffer that a cell stands for, or what is wrong with the cell;
* `TreeWire.Binding.blank` – the binding as it was made;
* `TreeWire.Tree.refresh` – a binding refreshed with an entry, by itself;
* `TreeWire.Tree.loadRow_of_ok`, `TreeWire.Tree.loadRow_of_error` – loading an entry is refreshing
  all bindings;
* `TreeWire.Tree.refresh_blank` – **what was in the buffers does not matter**.
-/

namespace TreeWire

/-! ### What a cell stands for -/

/-- The value of a kind that a JSON value stands for, or why it is refused. -/
def Kind.read (k : Kind) (j : Json) : Except String k.Carrier :=
  match k.read? j with
  | some v => .ok v
  | none => .error (refusal k j)

/-- **The buffer that a cell stands for**: a value, or the series of the values of an array. -/
def Buffer.read (k : Kind) (repeated : Bool) (j : Json) : Except String Buffer :=
  match repeated, j with
  | false, j => (k.read j).map fun v => .scalar ⟨k, v⟩
  | true, .array items => (items.mapM k.read).map fun vs => .array ⟨k, vs.toArray⟩
  | true, _ => .error "expected an array"

theorem Kind.read_eq_ok_iff {k : Kind} {j : Json} {v : k.Carrier} :
    k.read j = .ok v ↔ k.read? j = some v := by
  unfold Kind.read
  cases k.read? j <;> simp

theorem Kind.read_eq_error_iff {k : Kind} {j : Json} {detail : String} :
    k.read j = .error detail ↔ k.read? j = none ∧ refusal k j = detail := by
  unfold Kind.read
  cases k.read? j <;> simp

namespace Series

variable {k : Kind} {items : Array k.Carrier} {j : Json} {js : List Json}

/-- An item that converts goes to the end. -/
theorem fill_cons_of_ok {v : k.Carrier} (h : k.read j = .ok v) :
    fill ⟨k, items⟩ (j :: js) = fill ⟨k, items.push v⟩ js := by
  have taken : (push ⟨k, items⟩ ⟨k, v⟩).1 = ⟨k, items.push v⟩ := by
    rw [push, dif_pos rfl]
  rw [fill, Scalar.ofJson?, Kind.read_eq_ok_iff.mp h, ← taken]
  rfl

/-- An item that does not convert is what is wrong. -/
theorem fill_cons_of_error {detail : String} (h : k.read j = .error detail) :
    fill ⟨k, items⟩ (j :: js) = (⟨k, items⟩, some detail) := by
  obtain ⟨hv, rfl⟩ := Kind.read_eq_error_iff.mp h
  rw [fill, Scalar.ofJson?, hv]
  rfl

/-- **A series is filled with the values of the items**, if all of them convert. -/
theorem fill_of_ok {vs : List k.Carrier} (h : js.mapM k.read = .ok vs) :
    fill ⟨k, items⟩ js = (⟨k, items ++ vs.toArray⟩, none) := by
  induction js generalizing items vs with
  | nil =>
    obtain rfl : [] = vs := Except.ok.inj h
    simp [fill]
  | cons j js ih =>
    obtain ⟨v, us, hv, hus, rfl⟩ := mapM_cons_eq_ok_iff.mp h
    rw [fill_cons_of_ok hv, ih hus]
    simp

/-- **The first item that does not convert** is what is wrong with a series. -/
theorem fill_of_error {detail : String} (h : js.mapM k.read = .error detail) :
    ∃ filled, fill ⟨k, items⟩ js = (⟨k, filled⟩, some detail) := by
  induction js generalizing items with
  | nil => cases h
  | cons j js ih =>
    rcases mapM_cons_eq_error_iff.mp h with hv | ⟨v, hv, hs⟩
    · exact ⟨items, fill_cons_of_error hv⟩
    · rw [fill_cons_of_ok hv]
      exact ih hs

end Series

namespace Buffer

/-- **A buffer is filled with what the cell stands for**, whatever it holds. -/
theorem fill_of_ok {b c : Buffer} {j : Json} (h : Buffer.read b.kind b.repeated j = .ok c) :
    b.fill j = (c, none) := by
  cases b with
  | scalar v =>
    obtain ⟨w, hw, rfl⟩ := map_eq_ok_iff.mp h
    have hv : v.kind.read? j = some w := Kind.read_eq_ok_iff.mp hw
    rw [fill, Scalar.ofJson?, hv]
    rfl
  | array s =>
    cases j with
    | array items =>
      obtain ⟨vs, hs, rfl⟩ : ∃ vs : List s.kind.Carrier, items.mapM s.kind.read = .ok vs ∧
          Buffer.array ⟨s.kind, vs.toArray⟩ = c := map_eq_ok_iff.mp h
      have filled : s.clear.fill items = (⟨s.kind, #[] ++ vs.toArray⟩, none) :=
        Series.fill_of_ok hs
      rw [fill, filled, Array.empty_append]
    | _ => cases h

/-- **What is wrong with a cell** does not depend on what the buffer holds. The buffer remains one
for the same columns. -/
theorem fill_of_error {b : Buffer} {j : Json} {detail : String}
    (h : Buffer.read b.kind b.repeated j = .error detail) :
    ∃ c, b.fill j = (c, some detail) ∧ c.kind = b.kind ∧ c.repeated = b.repeated := by
  cases b with
  | scalar v =>
    have hr : v.kind.read j = .error detail := map_eq_error_iff.mp h
    obtain ⟨hv, rfl⟩ := Kind.read_eq_error_iff.mp hr
    exact ⟨.scalar v, by rw [fill, Scalar.ofJson?, hv]; rfl, rfl, rfl⟩
  | array s =>
    cases j with
    | array items =>
      have hs : items.mapM s.kind.read = .error detail := map_eq_error_iff.mp h
      obtain ⟨filled, hf⟩ : ∃ filled, s.clear.fill items = (⟨s.kind, filled⟩, some detail) :=
        Series.fill_of_error hs
      exact ⟨.array ⟨s.kind, filled⟩, by rw [fill, hf], rfl, rfl⟩
    | _ =>
      obtain rfl : "expected an array" = detail := Except.error.inj h
      exact ⟨.array s, rfl, rfl, rfl⟩

/-- What is read is a buffer for the columns that were asked for. -/
theorem kind_of_read {k : Kind} {repeated : Bool} {j : Json} {b : Buffer}
    (h : Buffer.read k repeated j = .ok b) : b.kind = k ∧ b.repeated = repeated := by
  unfold Buffer.read at h
  split at h
  · obtain ⟨v, -, rfl⟩ := map_eq_ok_iff.mp h
    exact ⟨rfl, rfl⟩
  · obtain ⟨vs, -, rfl⟩ := map_eq_ok_iff.mp h
    exact ⟨rfl, rfl⟩
  · cases h

end Buffer

/-! ### Refreshing bindings -/

/-- **The binding as it was made**: with a buffer that holds nothing yet. -/
def Binding.blank (b : Binding) : Binding :=
  { b with buffer := .fresh b.buffer.kind b.buffer.repeated }

namespace Tree

/-- **A binding refreshed with an entry**, by itself. -/
def refresh (t : Tree) (entry : Nat) (b : Binding) : Except Fault Binding :=
  match t.value? b.handle entry with
  | none => .error (.entryLoad t.name entry)
  | some j =>
    match Buffer.read b.buffer.kind b.buffer.repeated j with
    | .ok buffer => .ok { b with buffer }
    | .error detail => .error (.valueOutOfRange b.branch entry detail)

/-- **What was in the buffer does not matter.** -/
@[simp] theorem refresh_blank (t : Tree) (entry : Nat) (b : Binding) :
    t.refresh entry b.blank = t.refresh entry b := by
  simp [refresh, Binding.blank]

/-- A binding remains what it was made as. -/
theorem blank_of_refresh {t : Tree} {entry : Nat} {b c : Binding} (h : t.refresh entry b = .ok c) :
    c.blank = b.blank := by
  unfold refresh at h
  split at h
  · cases h
  · split at h
    · rename_i buffer hr
      obtain ⟨kind, repeated⟩ := Buffer.kind_of_read hr
      rw [← Except.ok.inj h, Binding.blank, Binding.blank, kind, repeated]
    · cases h

/-- A binding that is refreshed leaves the others to be refreshed. -/
theorem loadRow_cons_of_ok {t : Tree} {entry : Nat} {b c : Binding} (bs : List Binding)
    (h : t.refresh entry b = .ok c) :
    t.loadRow entry (b :: bs) = (c :: (t.loadRow entry bs).1, (t.loadRow entry bs).2) := by
  unfold refresh at h
  split at h
  · cases h
  · rename_i j hj
    split at h
    · rename_i buffer hr
      rw [loadRow, hj, ← Except.ok.inj h]
      simp only [Buffer.fill_of_ok hr]
    · cases h

/-- A binding that is not refreshed leaves the others as they are. -/
theorem loadRow_cons_of_error {t : Tree} {entry : Nat} {b : Binding} {fault : Fault}
    (bs : List Binding) (h : t.refresh entry b = .error fault) :
    ∃ c, t.loadRow entry (b :: bs) = (c :: bs, some fault) ∧ c.blank = b.blank := by
  unfold refresh at h
  split at h
  · rename_i hj
    rw [loadRow, hj, ← Except.error.inj h]
    exact ⟨b, rfl, rfl⟩
  · rename_i j hj
    split at h
    · cases h
    · rename_i detail hr
      obtain ⟨buffer, filled, kind, repeated⟩ := Buffer.fill_of_error hr
      refine ⟨{ b with buffer }, ?_, ?_⟩
      · rw [loadRow, hj, ← Except.error.inj h]
        simp only [filled]
      · rw [Binding.blank, Binding.blank, kind, repeated]

/-- **Loading an entry is refreshing all bindings**, if all of them can be refreshed. -/
theorem loadRow_of_ok {t : Tree} {entry : Nat} {bs cs : List Binding}
    (h : bs.mapM (t.refresh entry) = .ok cs) : t.loadRow entry bs = (cs, none) := by
  induction bs generalizing cs with
  | nil =>
    obtain rfl : [] = cs := Except.ok.inj h
    rfl
  | cons b bs ih =>
    obtain ⟨c, ds, hc, hds, rfl⟩ := mapM_cons_eq_ok_iff.mp h
    rw [loadRow_cons_of_ok bs hc, ih hds]

/-- **The first binding that cannot be refreshed** is the fault of loading an entry. All bindings
remain what they were made as. -/
theorem loadRow_of_error {t : Tree} {entry : Nat} {bs : List Binding} {fault : Fault}
    (h : bs.mapM (t.refresh entry) = .error fault) :
    ∃ cs, t.loadRow entry bs = (cs, some fault) ∧ cs.map Binding.blank = bs.map Binding.blank := by
  induction bs with
  | nil => cases h
  | cons b bs ih =>
    rcases mapM_cons_eq_error_iff.mp h with hb | ⟨c, hb, hs⟩
    · obtain ⟨c, loaded, hc⟩ := loadRow_cons_of_error bs hb
      exact ⟨c :: bs, loaded, by rw [List.map_cons, List.map_cons, hc]⟩
    · obtain ⟨cs, loaded, hcs⟩ := ih hs
      refine ⟨c :: cs, by rw [loadRow_cons_of_ok bs hb, loaded], ?_⟩
      rw [List.map_cons, List.map_cons, hcs, blank_of_refresh hb]

/-- Bindings that are refreshed remain what they were made as. -/
theorem map_blank_of_mapM_refresh {t : Tree} {entry : Nat} {bs cs : List Binding}
    (h : bs.mapM (t.refresh entry) = .ok cs) :
    cs.map Binding.blank = bs.map Binding.blank := by
  induction bs generalizing cs with
  | nil =>
    obtain rfl : [] = cs := Except.ok.inj h
    rfl
  | cons b bs ih =>
    obtain ⟨c, ds, hc, hds, rfl⟩ := mapM_cons_eq_ok_iff.mp h
    rw [List.map_cons, List.map_cons, ih hds, blank_of_refresh hc]

/-- **Only what the bindings were made as matters** for what an entry makes of them. -/
theorem mapM_refresh_blank (t : Tree) (entry : Nat) (bs : List Binding) :
    (bs.map Binding.blank).mapM (t.refresh entry) = bs.mapM (t.refresh entry) := by
  rw [List.mapM_map]
  exact congrArg (List.mapM · bs) (funext fun b => t.refresh_blank entry b)

end Tree

end TreeWire
