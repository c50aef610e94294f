import TreeWire.Kind

/-!
# Buffers

A buffer holds what a binding has read: one value, or the list of values of an entry. Its kind is
chosen when it is made and never changes.

* `TreeWire.Series` – lists of values of one kind, with `TreeWire.Series.push`;
* `TreeWire.Buffer` – one value or a series.
-/

namespace TreeWire

/-- **A series**: values of one kind. -/
structure Series where
  /-- The kind. -/
  kind : Kind
  /-- The values. -/
  items : Array kind.Carrier
  deriving DecidableEq

namespace Series

/-- The series of a kind without values. -/
def empty (kind : Kind) : Series := ⟨kind, #[]⟩

/-- The series without its values. -/
def clear (s : Series) : Series := empty s.kind

/-- **One more value** at the end, and whether it was taken: a value of another kind is not. -/
def push (s : Series) (v : Scalar) : Series × Bool :=
  if h : v.kind = s.kind then (⟨s.kind, s.items.push (h ▸ v.value)⟩, true) else (s, false)

/-- The number of values. -/
def size (s : Series) : Nat := s.items.size

/-- The values, each with its kind. -/
def toList (s : Series) : List Scalar := s.items.toList.map fun v => ⟨s.kind, v⟩

@[simp] theorem kind_clear (s : Series) : s.clear.kind = s.kind := rfl

@[simp] theorem toList_clear (s : Series) : s.clear.toList = [] := rfl

@[simp] theorem kind_push (s : Series) (v : Scalar) : (s.push v).1.kind = s.kind := by
  unfold push
  split <;> rfl

/-- A value is taken exactly when it has the kind of the series. -/
theorem push_snd (s : Series) (v : Scalar) : (s.push v).2 = decide (v.kind = s.kind) := by
  unfold push
  split <;> simp_all

/-- A value of the kind goes to the end. -/
theorem toList_push_of_kind {s : Series} {v : Scalar} (h : v.kind = s.kind) :
    (s.push v).1.toList = s.toList ++ [v] := by
  obtain ⟨k, items⟩ := s
  obtain ⟨l, value⟩ := v
  cases h
  have taken : push ⟨k, items⟩ ⟨k, value⟩ = (⟨k, items.push value⟩, true) := dif_pos rfl
  rw [taken]
  simp [toList]

/-- A value of another kind changes nothing. -/
theorem push_of_kind_ne {s : Series} {v : Scalar} (h : v.kind ≠ s.kind) : (s.push v).1 = s := by
  simp [push, h]

/-- Two series of one kind with the same values are the same. -/
theorem ext_toList {s t : Series} (hk : s.kind = t.kind) (hl : s.toList = t.toList) : s = t := by
  obtain ⟨k, xs⟩ := s
  obtain ⟨l, ys⟩ := t
  cases hk
  have inj : ∀ a b : k.Carrier, (⟨k, a⟩ : Scalar) = ⟨k, b⟩ → a = b := by
    intro a b h
    simpa using h
  have items : xs.toList = ys.toList := (List.map_inj_right inj).1 hl
  simp [Array.toList_inj.1 items]

end Series

/-- **A buffer**: one value or a series of values. -/
inductive Buffer where
  /-- One value. -/
  | scalar (v : Scalar)
  /-- A series. -/
  | array (s : Series)
  deriving DecidableEq

namespace Buffer

/-- A fresh buffer: the zero of the kind, or no values. -/
def fresh (kind : Kind) (repeated : Bool) : Buffer :=
  if repeated then array (.empty kind) else scalar ⟨kind, kind.zero⟩

/-- The kind of the values. -/
def kind : Buffer → Kind
  | scalar v => v.kind
  | array s => s.kind

/-- Whether the buffer holds a series. -/
def repeated : Buffer → Bool
  | scalar _ => false
  | array _ => true

@[simp] theorem kind_fresh (k : Kind) (r : Bool) : (fresh k r).kind = k := by
  cases r <;> rfl

@[simp] theorem repeated_fresh (k : Kind) (r : Bool) : (fresh k r).repeated = r := by
  cases r <;> rfl

end Buffer

end TreeWire
