import Mathlib.Data.List.Forall2

/-!
# Lists item by item

A fallible function is applied to the items of a list one after the other, and what comes out is
related to the list item by item. Items of a list are found by a key.

* `TreeWire.mapM_eq_ok_iff`, `TreeWire.mapM_eq_error_iff` – the outcomes of a list, or the first
  one that is missing;
* `TreeWire.exists_getElem?_of_forall₂`, `TreeWire.forall₂_trans` – items at the same place;
* `TreeWire.find?_zipIdx_of_nodup` – finding an item with its place.
-/

namespace TreeWire

variable {α β : Type}

/-! ### Outcomes -/

section Outcomes

variable {ε ε' : Type}

/-- A step after another one has an outcome exactly if both steps have. -/
theorem bind_eq_ok_iff {x : Except ε α} {f : α → Except ε β} {y : β} :
    x >>= f = .ok y ↔ ∃ a, x = .ok a ∧ f a = .ok y := by
  cases x with
  | error e => exact ⟨nofun, nofun⟩
  | ok a => exact ⟨fun h => ⟨a, rfl, h⟩, fun ⟨_, ha, h⟩ => Except.ok.inj ha ▸ h⟩

/-- A step after another one fails if one of the two does. -/
theorem bind_eq_error_iff {x : Except ε α} {f : α → Except ε β} {e : ε} :
    x >>= f = .error e ↔ x = .error e ∨ ∃ a, x = .ok a ∧ f a = .error e := by
  cases x with
  | error d =>
    constructor
    · intro h
      exact Or.inl (congrArg Except.error (Except.error.inj h))
    · rintro (h | ⟨a, ha, -⟩)
      · exact congrArg Except.error (Except.error.inj h)
      · cases ha
  | ok a =>
    constructor
    · exact fun h => Or.inr ⟨a, rfl, h⟩
    · rintro (h | ⟨b, hb, h⟩)
      · cases h
      · exact Except.ok.inj hb ▸ h

theorem map_eq_ok_iff {x : Except ε α} {f : α → β} {y : β} :
    x.map f = .ok y ↔ ∃ a, x = .ok a ∧ f a = y := by
  cases x <;> simp [Except.map]

theorem map_eq_error_iff {x : Except ε α} {f : α → β} {e : ε} :
    x.map f = .error e ↔ x = .error e := by
  cases x <;> simp [Except.map]

theorem mapError_eq_ok_iff {x : Except ε α} {f : ε → ε'} {a : α} :
    x.mapError f = .ok a ↔ x = .ok a := by
  cases x <;> simp [Except.mapError]

theorem mapError_eq_error_iff {x : Except ε α} {f : ε → ε'} {e : ε'} :
    x.mapError f = .error e ↔ ∃ d, x = .error d ∧ f d = e := by
  cases x <;> simp [Except.mapError]

theorem toOption_eq_some_iff {x : Except ε α} {a : α} : x.toOption = some a ↔ x = .ok a := by
  cases x <;> simp [Except.toOption]

theorem mapM_cons_ok {f : α → Except ε β} {x : α} {xs : List α} {y : β} (h : f x = .ok y) :
    (x :: xs).mapM f = (xs.mapM f).map (y :: ·) := by
  rw [List.mapM_cons, h]
  cases xs.mapM f <;> rfl

theorem mapM_cons_error {f : α → Except ε β} {x : α} {xs : List α} {e : ε} (h : f x = .error e) :
    (x :: xs).mapM f = .error e := by
  rw [List.mapM_cons, h]
  rfl

/-- The outcomes of a list are the first one and the others. -/
theorem mapM_cons_eq_ok_iff {f : α → Except ε β} {x : α} {xs : List α} {zs : List β} :
    (x :: xs).mapM f = .ok zs ↔ ∃ y ys, f x = .ok y ∧ xs.mapM f = .ok ys ∧ y :: ys = zs := by
  cases hx : f x with
  | error d => simp [mapM_cons_error hx]
  | ok y => simp [mapM_cons_ok hx, map_eq_ok_iff]

/-- The outcome that is missing is the first one, or it is one of the others. -/
theorem mapM_cons_eq_error_iff {f : α → Except ε β} {x : α} {xs : List α} {e : ε} :
    (x :: xs).mapM f = .error e ↔
      f x = .error e ∨ ∃ y, f x = .ok y ∧ xs.mapM f = .error e := by
  cases hx : f x with
  | error d => simp [mapM_cons_error hx]
  | ok y => simp [mapM_cons_ok hx, map_eq_error_iff]

/-- All outcomes are there exactly if each of them is. -/
theorem mapM_eq_ok_iff {f : α → Except ε β} {xs : List α} {ys : List β} :
    xs.mapM f = .ok ys ↔ List.Forall₂ (fun x y => f x = .ok y) xs ys := by
  induction xs generalizing ys with
  | nil =>
    rw [List.forall₂_nil_left_iff, List.mapM_nil]
    exact ⟨fun h => (Except.ok.inj h).symm, fun h => congrArg Except.ok h.symm⟩
  | cons x xs ih =>
    rw [mapM_cons_eq_ok_iff, List.forall₂_cons_left_iff]
    constructor
    · rintro ⟨y, zs, hy, hzs, rfl⟩
      exact ⟨y, zs, hy, ih.mp hzs, rfl⟩
    · rintro ⟨y, zs, hy, hzs, rfl⟩
      exact ⟨y, zs, hy, ih.mpr hzs, rfl⟩

/-- An outcome is missing exactly if there is a first item without one. -/
theorem mapM_eq_error_iff {f : α → Except ε β} {xs : List α} {e : ε} :
    xs.mapM f = .error e ↔
      ∃ before x after, xs = before ++ x :: after ∧ (∀ w ∈ before, ∃ y, f w = .ok y) ∧
        f x = .error e := by
  induction xs with
  | nil =>
    constructor
    · intro h
      cases h
    · rintro ⟨before, x, after, cut, -, -⟩
      simp at cut
  | cons x xs ih =>
    rw [mapM_cons_eq_error_iff, ih]
    constructor
    · rintro (hx | ⟨y, hy, before, z, after, rfl, ok, hz⟩)
      · exact ⟨[], x, xs, rfl, by simp, hx⟩
      · refine ⟨x :: before, z, after, rfl, fun w hw => ?_, hz⟩
        rcases List.mem_cons.mp hw with rfl | hw
        · exact ⟨y, hy⟩
        · exact ok w hw
    · rintro ⟨before, z, after, cut, ok, hz⟩
      cases before with
      | nil =>
        obtain ⟨rfl, rfl⟩ := List.cons.inj cut
        exact Or.inl hz
      | cons w before =>
        obtain ⟨rfl, rfl⟩ := List.cons.inj cut
        obtain ⟨y, hy⟩ := ok x (by simp)
        exact Or.inr ⟨y, hy, before, z, after, rfl, fun v hv => ok v (by simp [hv]), hz⟩

/-- Functions with the same outcome for every item have the same outcomes for a list. -/
theorem mapM_congr {f g : α → Except ε β} {xs : List α} (h : ∀ x ∈ xs, f x = g x) :
    xs.mapM f = xs.mapM g := by
  induction xs with
  | nil => rfl
  | cons x xs ih =>
    rw [List.mapM_cons, List.mapM_cons, h x (by simp), ih fun y hy => h y (by simp [hy])]

/-- The optional outcomes of a list are the first one and the others. -/
theorem mapM_cons_eq_some_iff {f : α → Option β} {x : α} {xs : List α} {zs : List β} :
    (x :: xs).mapM f = some zs ↔ ∃ y ys, f x = some y ∧ xs.mapM f = some ys ∧ y :: ys = zs := by
  simp [List.mapM_cons, Option.bind_eq_some_iff]

/-- Optional outcomes are all there exactly if each of them is. -/
theorem mapM_eq_some_iff {f : α → Option β} {xs : List α} {ys : List β} :
    xs.mapM f = some ys ↔ List.Forall₂ (fun x y => f x = some y) xs ys := by
  induction xs generalizing ys with
  | nil =>
    rw [List.forall₂_nil_left_iff, List.mapM_nil]
    exact ⟨fun h => (Option.some.inj h).symm, fun h => congrArg some h.symm⟩
  | cons x xs ih =>
    rw [mapM_cons_eq_some_iff, List.forall₂_cons_left_iff]
    constructor
    · rintro ⟨y, zs, hy, hzs, rfl⟩
      exact ⟨y, zs, hy, ih.mp hzs, rfl⟩
    · rintro ⟨y, zs, hy, hzs, rfl⟩
      exact ⟨y, zs, hy, ih.mpr hzs, rfl⟩

end Outcomes

/-! ### Related lists -/

section Related

variable {R : α → β → Prop} {xs : List α} {ys : List β}

/-- Of two lists that are related one by one, the one has an item where the other has one. -/
theorem exists_getElem?_of_forall₂ (h : List.Forall₂ R xs ys) {k : Nat} {x : α}
    (hx : xs[k]? = some x) : ∃ y, ys[k]? = some y ∧ R x y := by
  induction h generalizing k with
  | nil => cases hx
  | cons first _ ih =>
    cases k with
    | zero =>
      obtain rfl := Option.some.inj hx
      exact ⟨_, rfl, first⟩
    | succ k => exact ih hx

/-- Lists that are related to one list are related to each other. -/
theorem forall₂_trans {γ : Type} {S : β → γ → Prop} {T : α → γ → Prop} {zs : List γ}
    (step : ∀ x y z, R x y → S y z → T x z) (h : List.Forall₂ R xs ys)
    (h' : List.Forall₂ S ys zs) : List.Forall₂ T xs zs := by
  induction h generalizing zs with
  | nil =>
    cases h'
    exact List.Forall₂.nil
  | cons first _ ih =>
    cases h' with
    | cons first' rest => exact List.Forall₂.cons (step _ _ _ first first') (ih rest)

/-- A list is related to what is made of its items and their places, if every item is. -/
theorem forall₂_mapIdx {f : Nat → α → β} (h : ∀ i x, R x (f i x)) (xs : List α) :
    List.Forall₂ R xs (xs.mapIdx f) := by
  induction xs generalizing f with
  | nil => exact List.Forall₂.nil
  | cons x xs ih =>
    rw [List.mapIdx_cons]
    exact List.Forall₂.cons (h 0 x) (ih fun i y => h (i + 1) y)

/-- A list of which every item is related to something is related to a list. -/
theorem exists_forall₂ (h : ∀ x ∈ xs, ∃ y, R x y) : ∃ ys, List.Forall₂ R xs ys := by
  induction xs with
  | nil => exact ⟨[], List.Forall₂.nil⟩
  | cons x xs ih =>
    obtain ⟨y, hy⟩ := h x (by simp)
    obtain ⟨ys, hys⟩ := ih fun z hz => h z (by simp [hz])
    exact ⟨y :: ys, List.Forall₂.cons hy hys⟩

/-- A list is related to a list, or it has a first item that is related to nothing. -/
theorem forall₂_or_exists_first (R : α → β → Prop) (xs : List α) :
    (∃ ys, List.Forall₂ R xs ys) ∨
      ∃ before x after ys, xs = before ++ x :: after ∧ List.Forall₂ R before ys ∧ ∀ y, ¬ R x y := by
  induction xs with
  | nil => exact Or.inl ⟨[], List.Forall₂.nil⟩
  | cons x xs ih =>
    by_cases hx : ∃ y, R x y
    · obtain ⟨y, hy⟩ := hx
      rcases ih with ⟨ys, hys⟩ | ⟨before, z, after, ys, rfl, hys, hz⟩
      · exact Or.inl ⟨y :: ys, List.Forall₂.cons hy hys⟩
      · exact Or.inr ⟨x :: before, z, after, y :: ys, rfl, List.Forall₂.cons hy hys, hz⟩
    · exact Or.inr ⟨[], x, xs, [], rfl, List.Forall₂.nil, fun y hy => hx ⟨y, hy⟩⟩

end Related

/-! ### Finding items -/

/-- Searching a list together with its positions is searching the list. -/
theorem find?_zipIdx {p : α → Bool} {xs : List α} {x : α} {start i : Nat}
    (h : (xs.zipIdx start).find? (fun q => p q.1) = some (x, i)) :
    xs.find? p = some x ∧ start ≤ i ∧ xs[i - start]? = some x := by
  induction xs generalizing start with
  | nil => cases h
  | cons y ys ih =>
    rw [List.zipIdx_cons, List.find?_cons] at h
    rw [List.find?_cons]
    cases hp : p y with
    | true =>
      obtain ⟨rfl, rfl⟩ : y = x ∧ start = i := by simpa [hp] using h
      simp
    | false =>
      rw [hp] at h
      obtain ⟨found, le, get⟩ := ih h
      refine ⟨found, by omega, ?_⟩
      rw [show i - start = (i - (start + 1)) + 1 by omega, List.getElem?_cons_succ]
      exact get

/-- An item with a key of its own is found by the key, at its place. -/
theorem find?_zipIdx_of_nodup [BEq β] [LawfulBEq β] {key : α → β} {xs : List α} {x : α}
    {start k : Nat} (distinct : (xs.map key).Nodup) (get : xs[k]? = some x) :
    (xs.zipIdx start).find? (fun q => key q.1 == key x) = some (x, start + k) := by
  induction xs generalizing start k with
  | nil => cases get
  | cons y ys ih =>
    obtain ⟨fresh, distinct⟩ := List.nodup_cons.mp distinct
    rw [List.zipIdx_cons, List.find?_cons]
    cases k with
    | zero =>
      obtain rfl : y = x := Option.some.inj get
      simp
    | succ k =>
      have later : ys[k]? = some x := get
      have other : key y ≠ key x := fun same =>
        fresh (same ▸ List.mem_map_of_mem (List.mem_of_getElem? later))
      rw [beq_false_of_ne other, show start + (k + 1) = start + 1 + k by omega]
      exact ih distinct later

end TreeWire
