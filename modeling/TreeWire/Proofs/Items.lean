import Mathlib.Data.List.Forall2
import TreeWire.Text.Items

/-!
# Sequences of items

What a reader of one item makes of a text carries over to sequences of items. Both directions are
needed: a text that is put together from items is read as these items, and a text that is read as
some items is put together from them.

An item may be read differently depending on what follows it – a hyphen after a member of a class
would make a range of it. So reading back what has been written asks for a rest that **stops** an
item, and every item has to begin in such a way that it stops the one before it.

* `TreeWire.Taker.Accepts` – items are read back, in front of whatever stops them;
* `TreeWire.Taker.Explains` – what is read has been written like that;
* `TreeWire.Taker.Accepts.allItems?_flatten`, `TreeWire.Taker.Accepts.itemsBefore?_flatten`,
  `TreeWire.Taker.Explains.allItems?`, `TreeWire.Taker.Explains.itemsBefore?` – the same for
  sequences.
-/

namespace TreeWire

namespace Taker

variable {α : Type} {take? : Taker α} {Spells : List Char → α → Prop} {Stops : List Char → Prop}

/-- **Items are read back** in front of whatever stops them. -/
structure Accepts (take? : Taker α) (Spells : List Char → α → Prop) (Stops : List Char → Prop) :
    Prop where
  /-- An item is read, and the rest is left. -/
  take_append : ∀ {l x rest}, Spells l x → Stops rest → take? (l ++ rest) = some (x, rest)
  /-- An item is not empty. -/
  ne_nil : ∀ {l x}, Spells l x → l ≠ []
  /-- An item stops the item before it. -/
  stops_append : ∀ {l x}, Spells l x → ∀ rest, Stops (l ++ rest)

/-- **What is read has been written**: it stands at the front of the text. -/
def Explains (take? : Taker α) (Spells : List Char → α → Prop) : Prop :=
  ∀ {cs x rest}, take? cs = some (x, rest) → ∃ l, Spells l x ∧ cs = l ++ rest

/-- Items one after the other stop the item before them, if what follows them does. -/
theorem Accepts.stops_flatten (h : Accepts take? Spells Stops) {ls : List (List Char)}
    {xs : List α} (written : List.Forall₂ Spells ls xs) {rest : List Char} (stops : Stops rest) :
    Stops (ls.flatten ++ rest) := by
  cases written with
  | nil => exact stops
  | cons first _ =>
    rw [List.flatten_cons, List.append_assoc]
    exact h.stops_append first _

/-- **A text that is put together from items** is read as these items. -/
theorem Accepts.allItems?_flatten (h : Accepts take? Spells Stops) (stops : Stops [])
    {ls : List (List Char)} {xs : List α} (written : List.Forall₂ Spells ls xs) {bound : Nat}
    (enough : ls.flatten.length ≤ bound) : TreeWire.allItems? take? bound ls.flatten = some xs := by
  induction written generalizing bound with
  | nil => cases bound <;> rfl
  | @cons l x ls xs first later ih =>
    obtain ⟨c, cs, rfl⟩ := List.exists_cons_of_ne_nil (h.ne_nil first)
    simp only [List.flatten_cons, List.cons_append, List.length_cons, List.length_append]
      at enough ⊢
    obtain ⟨bound, rfl⟩ : ∃ n, bound = n + 1 := ⟨bound - 1, by omega⟩
    have behind : Stops ls.flatten := by simpa using h.stops_flatten later stops
    have taken : take? (c :: (cs ++ ls.flatten)) = some (x, ls.flatten) :=
      h.take_append first behind
    have others := ih (show ls.flatten.length ≤ bound by omega)
    simp [TreeWire.allItems?, taken, others]

/-- **A text that is put together from items and a closing character** is read as these items. No
item begins with the closing character. -/
theorem Accepts.itemsBefore?_flatten {close : Char} (h : Accepts take? Spells Stops)
    (stops : ∀ rest, Stops (close :: rest))
    (other : ∀ {l x}, Spells l x → l.head? ≠ some close)
    {ls : List (List Char)} {xs : List α} (written : List.Forall₂ Spells ls xs) (present : xs ≠ [])
    {bound : Nat} (enough : ls.flatten.length ≤ bound) (rest : List Char) :
    TreeWire.itemsBefore? close take? bound (ls.flatten ++ close :: rest) = some (xs, rest) := by
  induction written generalizing bound with
  | nil => exact absurd rfl present
  | @cons l x ls xs first later ih =>
    rw [List.flatten_cons, List.length_append] at enough
    have long := List.length_pos_iff.mpr (h.ne_nil first)
    obtain ⟨bound, rfl⟩ : ∃ n, bound = n + 1 := ⟨bound - 1, by omega⟩
    have taken := h.take_append first (h.stops_flatten later (stops rest))
    rw [List.flatten_cons, List.append_assoc, TreeWire.itemsBefore?, taken]
    cases later with
    | nil => simp
    | @cons k y ls xs second later =>
      -- the next item does not begin with the closing character
      have others := ih (by simp) (show (k :: ls).flatten.length ≤ bound by omega)
      obtain ⟨c, cs, rfl⟩ := List.exists_cons_of_ne_nil (h.ne_nil second)
      have distinct : ¬ c = close := fun same => other second (congrArg some same)
      simp only [List.flatten_cons, List.cons_append, List.append_assoc] at others ⊢
      simp [distinct, others]

/-- **A text that is read as some items** is put together from them. -/
theorem Explains.allItems? (h : Explains take? Spells) {bound : Nat} {cs : List Char}
    {xs : List α} (read : TreeWire.allItems? take? bound cs = some xs) :
    ∃ ls, List.Forall₂ Spells ls xs ∧ cs = ls.flatten := by
  induction bound generalizing cs xs with
  | zero =>
    cases cs with
    | nil =>
      obtain rfl : [] = xs := Option.some.inj read
      exact ⟨[], List.Forall₂.nil, rfl⟩
    | cons c cs => cases read
  | succ bound ih =>
    cases cs with
    | nil =>
      obtain rfl : [] = xs := Option.some.inj read
      exact ⟨[], List.Forall₂.nil, rfl⟩
    | cons c cs =>
      simp only [TreeWire.allItems?, Option.bind_eq_bind, Option.bind_eq_some_iff] at read
      obtain ⟨⟨x, rest⟩, first, items, later, same⟩ := read
      obtain rfl : x :: items = xs := Option.some.inj same
      obtain ⟨l, written, text⟩ := h first
      obtain ⟨ls, others, rfl⟩ := ih later
      exact ⟨l :: ls, List.Forall₂.cons written others, text⟩

/-- **A text that is read as some items in front of a closing character** is put together from
them, and there is at least one. -/
theorem Explains.itemsBefore? {close : Char} (h : Explains take? Spells) {bound : Nat}
    {cs rest : List Char} {xs : List α}
    (read : TreeWire.itemsBefore? close take? bound cs = some (xs, rest)) :
    xs ≠ [] ∧ ∃ ls, List.Forall₂ Spells ls xs ∧ cs = ls.flatten ++ close :: rest := by
  induction bound generalizing cs xs with
  | zero => cases read
  | succ bound ih =>
    simp only [TreeWire.itemsBefore?, Option.bind_eq_bind, Option.bind_eq_some_iff] at read
    obtain ⟨⟨x, behind⟩, first, read⟩ := read
    obtain ⟨l, written, rfl⟩ := h first
    cases behind with
    | nil => cases read
    | cons c behind =>
      simp only at read
      by_cases closed : c = close
      · rw [if_pos closed] at read
        obtain ⟨rfl, rfl⟩ := Prod.mk.inj (Option.some.inj read)
        exact ⟨by simp, [l], List.Forall₂.cons written List.Forall₂.nil, by simp [closed]⟩
      · rw [if_neg closed] at read
        simp only [Option.bind_eq_some_iff] at read
        obtain ⟨⟨items, left⟩, later, same⟩ := read
        obtain ⟨rfl, rfl⟩ := Prod.mk.inj (Option.some.inj same)
        obtain ⟨-, ls, others, text⟩ := ih later
        exact ⟨by simp, l :: ls, List.Forall₂.cons written others, by simp [text]⟩

end Taker

end TreeWire
