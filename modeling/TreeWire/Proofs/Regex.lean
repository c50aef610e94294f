import TreeWire.Proofs.Items
import TreeWire.Regex

/-!
# Matching and reading regular expressions

Matching works its way through an expression from its last part to its first, with a table that
says for every rest of the text whether what has been done so far matches the front of it. This
file says what such a table holds: a part and what follows it match the front of a rest if the rest
begins with what the part stands for and goes on with what the others match.

* `TreeWire.Regex.Part.After` – a part in front of what follows it, said without tables;
* `TreeWire.Regex.Tabulates`, `TreeWire.Regex.tabulates_leads` – **what a table holds**;
* `TreeWire.Regex.isMatch_iff` – an expression matches somewhere in a text;
* `TreeWire.Regex.char?_escape_append` – an escaped character is read as that character.
-/

namespace TreeWire

namespace Regex

/-! ### Matching -/

/-- **A part in front of what follows it**, at a rest of a text. The start of the text is the rest
that is the whole text. -/
def Part.After (whole : List Char) (P : List Char → Prop) : Part → List Char → Prop
  | start, cs => cs = whole ∧ P cs
  | once a, cs => ∃ c rest, cs = c :: rest ∧ a.holds c = true ∧ P rest
  | run a, cs => ∃ front rest, cs = front ++ rest ∧ (∀ c ∈ front, a.holds c = true) ∧ P rest

/-- **Fitting**: the front of a rest of a text consists of what the parts stand for. -/
def Fits (r : Regex) (whole : List Char) : List Char → Prop :=
  r.foldr (fun p P => p.After whole P) fun _ => True

/-- **A table** says for every rest of a text, longest first, whether something holds of it. -/
inductive Tabulates (P : List Char → Prop) : List Char → List Bool → Prop
  /-- The empty text has one rest. -/
  | nil {entry : Bool} : (entry = true ↔ P []) → Tabulates P [] [entry]
  /-- A text that begins with a character has one rest more than what follows it. -/
  | cons {c : Char} {cs : List Char} {entry : Bool} {table : List Bool} :
    (entry = true ↔ P (c :: cs)) → Tabulates P cs table → Tabulates P (c :: cs) (entry :: table)

section Tables

variable {P : List Char → Prop} {cs : List Char} {table : List Bool}

/-- The first entry of a table is about the text itself. -/
theorem Tabulates.exists_eq_cons (h : Tabulates P cs table) :
    ∃ entry later, table = entry :: later ∧ (entry = true ↔ P cs) := by
  cases h with
  | nil first => exact ⟨_, [], rfl, first⟩
  | cons first _ => exact ⟨_, _, rfl, first⟩

theorem Tabulates.headD_iff (h : Tabulates P cs table) : table.headD false = true ↔ P cs := by
  obtain ⟨entry, later, rfl, first⟩ := h.exists_eq_cons
  exact first

/-- A table has a true entry exactly if something holds of a rest of the text. -/
theorem Tabulates.any_iff (h : Tabulates P cs table) :
    table.any id = true ↔ ∃ front rest, cs = front ++ rest ∧ P rest := by
  induction h with
  | nil first =>
    simp only [List.any_cons, List.any_nil, id, Bool.or_false, first]
    constructor
    · exact fun here => ⟨[], [], rfl, here⟩
    · rintro ⟨front, rest, cut, there⟩
      obtain ⟨rfl, rfl⟩ := List.append_eq_nil_iff.mp cut.symm
      exact there
  | @cons c cs entry table first _ ih =>
    simp only [List.any_cons, id, Bool.or_eq_true, first, ih]
    constructor
    · rintro (here | ⟨front, rest, rfl, there⟩)
      · exact ⟨[], c :: cs, rfl, here⟩
      · exact ⟨c :: front, rest, rfl, there⟩
    · rintro ⟨front, rest, cut, there⟩
      cases front with
      | nil =>
        obtain rfl : c :: cs = rest := cut
        exact Or.inl there
      | cons d front =>
        obtain ⟨rfl, rfl⟩ := List.cons.inj cut
        exact Or.inr ⟨front, rest, rfl, there⟩

theorem tabulates_replicate (cs : List Char) :
    Tabulates (fun _ => True) cs (List.replicate (cs.length + 1) true) := by
  induction cs with
  | nil => exact .nil (by simp)
  | cons c cs ih => exact .cons (by simp) ih

/-- The table of one character. -/
theorem Tabulates.once (h : Tabulates P cs table) (whole : List Char) (a : Atom) :
    Tabulates ((Part.once a).After whole P) cs ((Part.once a).leads cs table) := by
  induction h with
  | nil first => exact .nil (by simp [Part.After])
  | @cons c cs entry table first later ih =>
    obtain ⟨second, others, rfl, next⟩ := later.exists_eq_cons
    refine .cons ?_ ih
    simp only [Part.After, Bool.and_eq_true, next]
    constructor
    · rintro ⟨holds, there⟩
      exact ⟨c, cs, rfl, holds, there⟩
    · rintro ⟨d, rest, cut, holds, there⟩
      obtain ⟨rfl, rfl⟩ := List.cons.inj cut
      exact ⟨holds, there⟩

/-- The table of a run of characters. -/
theorem Tabulates.run (h : Tabulates P cs table) (whole : List Char) (a : Atom) :
    Tabulates ((Part.run a).After whole P) cs ((Part.run a).leads cs table) := by
  induction h with
  | nil first =>
    refine .nil (first.trans ?_)
    constructor
    · exact fun here => ⟨[], [], rfl, by simp, here⟩
    · rintro ⟨front, rest, cut, -, there⟩
      obtain ⟨rfl, rfl⟩ := List.append_eq_nil_iff.mp cut.symm
      exact there
  | @cons c cs entry table first later ih =>
    -- the run is empty, or it has this character and goes on
    refine .cons ?_ ih
    have goesOn : (runLeads a cs table).headD false = true ↔ _ := ih.headD_iff
    simp only [Bool.or_eq_true, Bool.and_eq_true, first, goesOn]
    constructor
    · rintro (here | ⟨holds, front, rest, rfl, all, there⟩)
      · exact ⟨[], c :: cs, rfl, by simp, here⟩
      · refine ⟨c :: front, rest, rfl, fun d hd => ?_, there⟩
        rcases List.mem_cons.mp hd with rfl | hd
        · exact holds
        · exact all d hd
    · rintro ⟨front, rest, cut, all, there⟩
      cases front with
      | nil =>
        obtain rfl : c :: cs = rest := cut
        exact Or.inl there
      | cons d front =>
        obtain ⟨rfl, rfl⟩ := List.cons.inj cut
        exact Or.inr ⟨all c (by simp), front, rest, rfl, fun d hd => all d (by simp [hd]), there⟩

/-- A text that is shorter than the whole one has no rest that is the whole one. -/
theorem Tabulates.map_false (h : Tabulates P cs table) {whole : List Char}
    (short : cs.length < whole.length) :
    Tabulates (Part.start.After whole P) cs (table.map fun _ => false) := by
  induction h with
  | nil first =>
    refine .nil (iff_of_false (by simp) ?_)
    rintro ⟨same, -⟩
    simp [← same] at short
  | cons first later ih =>
    refine .cons (iff_of_false (by simp) ?_) (ih (by simp at short; omega))
    rintro ⟨same, -⟩
    simp [← same] at short

/-- The table of the start of the text. -/
theorem Tabulates.start (h : Tabulates P cs table) :
    Tabulates (Part.start.After cs P) cs (Part.start.leads cs table) := by
  cases h with
  | nil first => exact .nil (by simp [Part.After, first])
  | cons first later => exact .cons (by simp [Part.After, first]) (later.map_false (by simp))

theorem Tabulates.leads (h : Tabulates P cs table) (p : Part) :
    Tabulates (p.After cs P) cs (p.leads cs table) := by
  cases p with
  | start => exact h.start
  | once a => exact h.once cs a
  | run a => exact h.run cs a

end Tables

/-- **What matching tabulates**: at which rests of the text the expression fits. -/
theorem tabulates_leads (r : Regex) (cs : List Char) : Tabulates (r.Fits cs) cs (r.leads cs) := by
  induction r with
  | nil => exact tabulates_replicate cs
  | cons p ps ih => exact ih.leads p

/-- **An expression matches a text** if it fits somewhere in it. -/
theorem isMatch_iff {r : Regex} {text : String} :
    r.isMatch text = true ↔
      ∃ front rest, text.toList = front ++ rest ∧ r.Fits text.toList rest :=
  (tabulates_leads r text.toList).any_iff

/-- An expression that begins with the start of the text fits nowhere else. -/
theorem isMatch_start_cons_iff {r : Regex} {text : String} :
    isMatch (.start :: r) text = true ↔ r.Fits text.toList text.toList := by
  rw [isMatch_iff]
  constructor
  · rintro ⟨front, rest, -, rfl, fits⟩
    exact fits
  · exact fun fits => ⟨[], text.toList, rfl, rfl, fits⟩

/-! ### Reading -/

/-- A character with a meaning of its own can be escaped. -/
theorem isEscapable_of_isSpecial {c : Char} (h : isSpecial c = true) : isEscapable c = true := by
  have all : "\\.+*?()|[]\x7b\x7d^$#&-~".toList.all isEscapable = true := by decide +kernel
  exact List.all_eq_true.mp all c (List.contains_iff_mem.mp h)

/-- **An escaped character is read as that character**, whatever follows. -/
theorem char?_escape_append (c : Char) (rest : List Char) :
    char? (escape c ++ rest) = some (c, rest) := by
  unfold escape
  by_cases special : isSpecial c = true
  · simp [char?, special, isEscapable_of_isSpecial special]
  · have plain : c ≠ '\\' := by
      rintro rfl
      exact special (by decide)
    simp [char?, special, plain]

/-- An escaped character begins with a backslash or with a character that has no meaning of its
own. -/
theorem escape_eq_cons (c : Char) :
    ∃ d l, escape c = d :: l ∧ (d = '\\' ∨ isSpecial d = false) := by
  unfold escape
  by_cases special : isSpecial c = true
  · exact ⟨'\\', [c], if_pos special, Or.inl rfl⟩
  · exact ⟨c, [], if_neg special, Or.inr (by simpa using special)⟩

/-- Whatever follows it, an escaped character does not begin with another character that has a
meaning of its own. -/
theorem head?_escape_append_ne {c d : Char} (special : isSpecial d = true) (other : d ≠ '\\')
    (rest : List Char) : (escape c ++ rest).head? ≠ some d := by
  obtain ⟨e, l, text, plain⟩ := escape_eq_cons c
  rw [text]
  intro same
  obtain rfl : e = d := Option.some.inj same
  rcases plain with rfl | plain
  · exact other rfl
  · simp [plain] at special

end Regex

end TreeWire
