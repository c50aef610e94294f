/-!
# Splitting at a separator

* `TreeWire.splitAtChar` – the pieces of a text between the places of a separator; there is always
  at least one piece, and joining the pieces gives back the text.
-/

namespace TreeWire

/-- **The pieces** of a text between the places of a separator. -/
def splitAtChar (separator : Char) : List Char → List (List Char)
  | [] => [[]]
  | c :: cs =>
    match splitAtChar separator cs with
    | [] => [[c]]
    | piece :: pieces => if c = separator then [] :: piece :: pieces else (c :: piece) :: pieces

theorem splitAtChar_ne_nil (separator : Char) (cs : List Char) :
    splitAtChar separator cs ≠ [] := by
  cases cs with
  | nil => simp [splitAtChar]
  | cons c cs =>
    simp only [splitAtChar]
    split
    · simp
    · split <;> simp

/-- Joining the pieces gives back the text. -/
theorem intercalate_splitAtChar (separator : Char) (cs : List Char) :
    [separator].intercalate (splitAtChar separator cs) = cs := by
  induction cs with
  | nil => simp [splitAtChar]
  | cons c cs ih =>
    simp only [splitAtChar]
    split
    · rename_i h
      exact absurd h (splitAtChar_ne_nil separator cs)
    · rename_i piece pieces h
      rw [h] at ih
      by_cases hc : c = separator
      · rw [if_pos hc, List.intercalate_cons_cons, ih, hc]
        simp
      · rw [if_neg hc]
        cases pieces with
        | nil => simp at ih ⊢; exact ih
        | cons p ps =>
          rw [List.intercalate_cons_cons] at ih ⊢
          simp [← ih]

/-- No piece holds the separator. -/
theorem separator_notMem_of_mem_splitAtChar {separator : Char} {cs piece : List Char}
    (h : piece ∈ splitAtChar separator cs) : separator ∉ piece := by
  induction cs generalizing piece with
  | nil => simp [splitAtChar] at h; simp [h]
  | cons c cs ih =>
    simp only [splitAtChar] at h
    split at h
    · rename_i hn
      exact absurd hn (splitAtChar_ne_nil separator cs)
    · rename_i p ps hp
      rw [hp] at ih
      by_cases hc : c = separator
      · rw [if_pos hc] at h
        rcases List.mem_cons.1 h with rfl | h
        · simp
        · exact ih h
      · rw [if_neg hc] at h
        rcases List.mem_cons.1 h with rfl | h
        · have hsep : ¬ separator = c := fun e => hc e.symm
          simp [hsep, ih (List.mem_cons_self)]
        · exact ih (List.mem_cons_of_mem _ h)

end TreeWire
