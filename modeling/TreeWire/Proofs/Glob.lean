import TreeWire.Glob
import TreeWire.Proofs.Lists
import TreeWire.Proofs.Regex

/-!
# What a glob is and what it matches

A glob is a sequence of terms, and every term has a way in which it is written. A glob matches a
text if the text falls into pieces, one for every term. This file gives both, without a reader and
without regular expressions, and shows that the regular expression that is compiled from a text
does the same: it is there exactly if the text is a glob, and it matches exactly the names with a
leading part that the glob matches.

The text of the expression is read back term by term. That works because an escaped character never
begins with a character that has a meaning of its own: it is no hyphen after a member of a class, no
bracket that closes one, no caret at its front, and no star after a term.

* `TreeWire.Glob.SpellsTerm`, `TreeWire.Glob.Spells` – how terms and globs are written;
* `TreeWire.Glob.Matches` – what globs match;
* `TreeWire.Glob.parse?_eq_some_iff` – **reading is complete and sound**;
* `TreeWire.Glob.compile?_eq` – the regular expression of a glob;
* `TreeWire.Glob.isMatch_regex_iff` – **the regular expression matches what the glob matches**.
-/

namespace TreeWire

namespace Glob

/-! ### How globs are written -/

/-- **A character of a class**: a backslash and any character, or a character that is no closing
bracket, hyphen or backslash. -/
inductive SpellsChar : List Char → Char → Prop
  /-- The character itself. -/
  | plain {c : Char} : c ≠ ']' → c ≠ '-' → c ≠ '\\' → SpellsChar [c] c
  /-- The character after a backslash. -/
  | escaped {c : Char} : SpellsChar ['\\', c] c

/-- **A member of a class**: a character, or two in order with a hyphen between them. -/
inductive SpellsMember : List Char → Member → Prop
  /-- One character. -/
  | single {l : List Char} {c : Char} : SpellsChar l c → SpellsMember l ⟨c, none⟩
  /-- The characters from one to another. -/
  | range {l k : List Char} {c d : Char} : SpellsChar l c → SpellsChar k d → c ≤ d →
      SpellsMember (l ++ '-' :: k) ⟨c, some d⟩

/-- **A term.** A caret that stands first in brackets is always the sign of a negated class. -/
inductive SpellsTerm : List Char → Term → Prop
  /-- A star. -/
  | run : SpellsTerm ['*'] .run
  /-- A question mark. -/
  | one : SpellsTerm ['?'] .one
  /-- Any character after a backslash. -/
  | escaped {c : Char} : SpellsTerm ['\\', c] (.literal c)
  /-- A character without a meaning of its own. -/
  | plain {c : Char} : c ≠ '*' → c ≠ '?' → c ≠ '[' → c ≠ '\\' → SpellsTerm [c] (.literal c)
  /-- Members in brackets. -/
  | oneOf {ls : List (List Char)} {members : List Member} : members ≠ [] →
      List.Forall₂ SpellsMember ls members → ls.flatten.head? ≠ some '^' →
      SpellsTerm ('[' :: (ls.flatten ++ [']'])) (.oneOf false members)
  /-- Members in brackets behind a caret. -/
  | noneOf {ls : List (List Char)} {members : List Member} : members ≠ [] →
      List.Forall₂ SpellsMember ls members →
      SpellsTerm ('[' :: '^' :: (ls.flatten ++ [']'])) (.oneOf true members)

/-- **A glob**: its terms, one after the other. -/
def Spells (text : List Char) (g : Glob) : Prop :=
  ∃ ls, List.Forall₂ SpellsTerm ls g ∧ text = ls.flatten

/-! ### What globs match -/

/-- Whether a character belongs to a member of a class. -/
def Member.Holds (m : Member) (c : Char) : Prop :=
  match m.high with
  | none => c = m.low
  | some high => m.low ≤ c ∧ c ≤ high

/-- **What a term matches**: a run of characters other than slashes, one such character, the
character itself, or one character that belongs to the class. -/
def Term.Matches : Term → List Char → Prop
  | run, s => '/' ∉ s
  | one, s => ∃ c, s = [c] ∧ c ≠ '/'
  | literal c, s => s = [c]
  | oneOf false members, s => ∃ c, s = [c] ∧ ∃ m ∈ members, m.Holds c
  | oneOf true members, s => ∃ c, s = [c] ∧ ∀ m ∈ members, ¬ m.Holds c

/-- **What a glob matches**: a text that falls into one piece for every term. -/
def Matches : Glob → List Char → Prop
  | [], s => s = []
  | t :: g, s => ∃ front rest, s = front ++ rest ∧ t.Matches front ∧ Matches g rest

/-! ### Reading -/

theorem classChar?_append {l : List Char} {c : Char} (h : SpellsChar l c) (rest : List Char) :
    classChar? (l ++ rest) = some (c, rest) := by
  cases h with
  | plain bracket hyphen backslash => simp [classChar?, bracket, hyphen, backslash]
  | escaped => simp [classChar?]

theorem exists_of_classChar? {cs rest : List Char} {c : Char}
    (h : classChar? cs = some (c, rest)) : ∃ l, SpellsChar l c ∧ cs = l ++ rest := by
  cases cs with
  | nil => cases h
  | cons d cs =>
    rw [classChar?.eq_def] at h
    by_cases closing : d = ']' ∨ d = '-'
    · simp only [if_pos closing] at h
      cases h
    · simp only [if_neg closing] at h
      obtain ⟨bracket, hyphen⟩ := not_or.mp closing
      by_cases backslash : d = '\\'
      · rw [if_pos backslash] at h
        cases cs with
        | nil => cases h
        | cons e cs =>
          obtain ⟨rfl, rfl⟩ := Prod.mk.inj (Option.some.inj h)
          exact ⟨['\\', e], .escaped, by rw [backslash]; rfl⟩
      · rw [if_neg backslash] at h
        obtain ⟨rfl, rfl⟩ := Prod.mk.inj (Option.some.inj h)
        exact ⟨[d], .plain bracket hyphen backslash, rfl⟩

/-- A character of a class does not begin with a hyphen or a closing bracket. -/
theorem SpellsChar.exists_eq_cons {l : List Char} {c : Char} (h : SpellsChar l c) :
    ∃ d k, l = d :: k ∧ d ≠ '-' ∧ d ≠ ']' := by
  cases h with
  | plain bracket hyphen backslash => exact ⟨c, [], rfl, hyphen, bracket⟩
  | escaped => exact ⟨'\\', [c], rfl, by decide, by decide⟩

theorem SpellsMember.exists_eq_cons {l : List Char} {m : Member} (h : SpellsMember l m) :
    ∃ d k, l = d :: k ∧ d ≠ '-' ∧ d ≠ ']' := by
  cases h with
  | single hc => exact hc.exists_eq_cons
  | range hc hd _ =>
    obtain ⟨e, k, rfl, hyphen, bracket⟩ := hc.exists_eq_cons
    exact ⟨e, _, rfl, hyphen, bracket⟩

/-- **Members are read back**, in front of anything but a hyphen. -/
theorem accepts_member :
    Taker.Accepts member? SpellsMember (fun rest => rest.head? ≠ some '-') where
  take_append := by
    intro l m rest h stops
    cases h with
    | single hc =>
      rw [member?, classChar?_append hc]
      cases rest with
      | nil => rfl
      | cons c rest =>
        have other : c ≠ '-' := fun same => stops (congrArg some same)
        simp [other]
    | range hc hd le =>
      rw [member?, List.append_assoc, classChar?_append hc]
      simp [classChar?_append hd, Char.not_lt.mpr le]
  ne_nil := by
    intro l m h
    obtain ⟨d, k, rfl, -⟩ := h.exists_eq_cons
    simp
  stops_append := by
    intro l m h rest
    obtain ⟨d, k, rfl, hyphen, -⟩ := h.exists_eq_cons
    simpa using hyphen

/-- **What is read as a member** has been written as one. -/
theorem explains_member : Taker.Explains member? SpellsMember := by
  intro cs m rest h
  simp only [member?, Option.bind_eq_bind, Option.bind_eq_some_iff] at h
  obtain ⟨⟨c, behind⟩, first, h⟩ := h
  obtain ⟨l, hc, rfl⟩ := exists_of_classChar? first
  cases behind with
  | nil =>
    obtain ⟨rfl, rfl⟩ := Prod.mk.inj (Option.some.inj h)
    exact ⟨l, .single hc, rfl⟩
  | cons d behind =>
    by_cases hyphen : d = '-'
    · subst hyphen
      simp only [if_true, Option.bind_eq_some_iff] at h
      obtain ⟨⟨e, left⟩, second, h⟩ := h
      obtain ⟨k, he, rfl⟩ := exists_of_classChar? second
      by_cases lt : e < c
      · rw [if_pos lt] at h
        cases h
      · rw [if_neg lt] at h
        obtain ⟨rfl, rfl⟩ := Prod.mk.inj (Option.some.inj h)
        exact ⟨l ++ '-' :: k, .range hc he (Char.not_lt.mp lt), by simp⟩
    · simp only [if_neg hyphen] at h
      obtain ⟨rfl, rfl⟩ := Prod.mk.inj (Option.some.inj h)
      exact ⟨l, .single hc, rfl⟩

/-- The members of a class are read back up to the closing bracket. -/
theorem itemsBefore?_member {ls : List (List Char)} {members : List Member}
    (written : List.Forall₂ SpellsMember ls members) (present : members ≠ []) {bound : Nat}
    (enough : ls.flatten.length ≤ bound) (rest : List Char) :
    itemsBefore? ']' member? bound (ls.flatten ++ ']' :: rest) = some (members, rest) := by
  refine accepts_member.itemsBefore?_flatten (by simp) (fun {l m} h => ?_) written present enough
    rest
  obtain ⟨d, k, rfl, -, bracket⟩ := h.exists_eq_cons
  simpa using bracket

/-- **Terms are read back**, in front of anything. -/
theorem accepts_term : Taker.Accepts term? SpellsTerm (fun _ => True) where
  take_append := by
    intro l t rest h _
    cases h with
    | run => simp [term?]
    | one => simp [term?]
    | escaped => simp [term?]
    | plain star mark bracket backslash => simp [term?, star, mark, bracket, backslash]
    | @oneOf ls members present written noCaret =>
      have enough : ls.flatten.length ≤ (ls.flatten ++ ']' :: rest).length := by simp
      have read := itemsBefore?_member written present enough rest
      obtain ⟨c, cs, text⟩ := List.exists_cons_of_ne_nil
        (show ls.flatten ++ ']' :: rest ≠ [] by simp)
      have other : c ≠ '^' := by
        rintro rfl
        have := congrArg List.head? text
        cases front : ls.flatten with
        | nil => simp [front] at this
        | cons d ds =>
          rw [front] at this noCaret
          exact noCaret (by simpa using this)
      rw [text, List.length_cons] at read
      simp [term?, class?, text, other, read]
    | @noneOf ls members present written =>
      have enough : ls.flatten.length ≤ (ls.flatten ++ ']' :: rest).length := by simp
      have read := itemsBefore?_member written present enough rest
      simp [term?, class?] at read ⊢
      simp [read]
  ne_nil := by
    intro l t h
    cases h <;> simp
  stops_append := fun _ _ => trivial

/-- What is read as a class has been written as one. -/
theorem exists_of_class? {cs rest : List Char} {t : Term} (h : class? cs = some (t, rest)) :
    ∃ l, SpellsTerm ('[' :: l) t ∧ cs = l ++ rest := by
  cases cs with
  | nil => cases h
  | cons c cs =>
    rw [class?] at h
    by_cases caret : c = '^'
    · rw [if_pos caret] at h
      obtain ⟨⟨members, left⟩, read, same⟩ := Option.map_eq_some_iff.mp h
      obtain ⟨rfl, rfl⟩ := Prod.mk.inj same
      obtain ⟨present, ls, written, rfl⟩ := explains_member.itemsBefore? read
      exact ⟨'^' :: (ls.flatten ++ [']']), .noneOf present written, by simp [caret]⟩
    · rw [if_neg caret] at h
      obtain ⟨⟨members, left⟩, read, same⟩ := Option.map_eq_some_iff.mp h
      obtain ⟨rfl, rfl⟩ := Prod.mk.inj same
      obtain ⟨present, ls, written, text⟩ := explains_member.itemsBefore? read
      refine ⟨ls.flatten ++ [']'], .oneOf present written fun first => caret ?_, by simp [text]⟩
      cases front : ls.flatten with
      | nil => simp [front] at first
      | cons d ds =>
        rw [front] at first text
        exact (List.cons.inj text).1.trans (Option.some.inj first)

/-- **What is read as a term** has been written as one. -/
theorem explains_term : Taker.Explains term? SpellsTerm := by
  intro cs t rest h
  cases cs with
  | nil => cases h
  | cons c cs =>
    rw [term?.eq_def] at h
    by_cases star : c = '*'
    · simp only [if_pos star] at h
      obtain ⟨rfl, rfl⟩ := Prod.mk.inj (Option.some.inj h)
      exact ⟨['*'], .run, by rw [star]; rfl⟩
    by_cases mark : c = '?'
    · simp only [if_neg star, if_pos mark] at h
      obtain ⟨rfl, rfl⟩ := Prod.mk.inj (Option.some.inj h)
      exact ⟨['?'], .one, by rw [mark]; rfl⟩
    by_cases backslash : c = '\\'
    · simp only [if_neg star, if_neg mark, if_pos backslash] at h
      cases cs with
      | nil => cases h
      | cons d cs =>
        obtain ⟨rfl, rfl⟩ := Prod.mk.inj (Option.some.inj h)
        exact ⟨['\\', d], .escaped, by rw [backslash]; rfl⟩
    by_cases bracket : c = '['
    · simp only [if_neg star, if_neg mark, if_neg backslash, if_pos bracket] at h
      obtain ⟨l, written, rfl⟩ := exists_of_class? h
      exact ⟨'[' :: l, written, by rw [bracket]; rfl⟩
    · simp only [if_neg star, if_neg mark, if_neg backslash, if_neg bracket] at h
      obtain ⟨rfl, rfl⟩ := Prod.mk.inj (Option.some.inj h)
      exact ⟨[c], .plain star mark bracket backslash, rfl⟩

/-- **Reading a glob is complete and sound**: a text is read as a glob exactly if the glob has terms
and is written like that. -/
theorem parse?_eq_some_iff {text : String} {g : Glob} :
    parse? text = some g ↔ g ≠ [] ∧ Spells text.toList g := by
  rw [parse?]
  by_cases empty : text = ""
  · rw [if_pos empty]
    refine ⟨nofun, fun ⟨present, ls, written, flat⟩ => ?_⟩
    cases written with
    | nil => exact absurd rfl present
    | cons first _ =>
      rw [empty, List.flatten_cons] at flat
      exact absurd (List.append_eq_nil_iff.mp flat.symm).1 (accepts_term.ne_nil first)
  · rw [if_neg empty]
    constructor
    · intro read
      obtain ⟨ls, written, flat⟩ := explains_term.allItems? read
      refine ⟨?_, ls, written, flat⟩
      rintro rfl
      obtain rfl := List.forall₂_nil_right_iff.mp written
      exact empty (String.toList_inj.mp flat)
    · rintro ⟨-, ls, written, flat⟩
      rw [flat]
      exact accepts_term.allItems?_flatten trivial written (Nat.le_refl _)

/-! ### The regular expression -/

/-- The range of a member. -/
def Member.range (m : Member) : Regex.Range := ⟨m.low, m.high.getD m.low⟩

/-- The atom that stands for a character other than a slash. -/
def noSlash : Regex.Atom := .oneOf true [⟨'/', '/'⟩]

/-- The part of a term. -/
def Term.part : Term → Regex.Part
  | run => .run noSlash
  | one => .once noSlash
  | literal c => .once (.literal c)
  | oneOf negated members => .once (.oneOf negated (members.map Member.range))

/-- **The regular expression of a glob.** -/
def regex (g : Glob) : Regex := .start :: g.map Term.part

/-- A member of a class is written so that its range is read back. -/
def WritesRange (l : List Char) (r : Regex.Range) : Prop :=
  ∃ k m, SpellsMember k m ∧ l = m.pattern ∧ r = m.range

theorem accepts_range :
    Taker.Accepts Regex.range? WritesRange (fun rest => rest.head? ≠ some '-') where
  take_append := by
    rintro l r rest ⟨k, m, h, rfl, rfl⟩ stops
    cases h with
    | single hc =>
      rw [Member.pattern, List.append_nil, Regex.range?, Regex.char?_escape_append]
      cases rest with
      | nil => rfl
      | cons c rest =>
        have other : c ≠ '-' := fun same => stops (congrArg some same)
        simp [other, Member.range]
    | range hc hd le =>
      rw [Member.pattern, List.append_assoc, Regex.range?, Regex.char?_escape_append]
      simp [Regex.char?_escape_append, Char.not_lt.mpr le, Member.range]
  ne_nil := by
    rintro l r ⟨k, m, -, rfl, -⟩
    obtain ⟨d, cs, text, -⟩ := Regex.escape_eq_cons m.low
    simp [Member.pattern, text]
  stops_append := by
    rintro l r ⟨k, m, -, rfl, -⟩ rest
    rw [Member.pattern, List.append_assoc]
    exact Regex.head?_escape_append_ne (by decide) (by decide) _

/-- Members that are written in a class are read back as ranges. -/
theorem itemsBefore?_range {ls : List (List Char)} {members : List Member}
    (written : List.Forall₂ SpellsMember ls members) (present : members ≠ []) {bound : Nat}
    (enough : (members.flatMap Member.pattern).length ≤ bound) (rest : List Char) :
    itemsBefore? ']' Regex.range? bound (members.flatMap Member.pattern ++ ']' :: rest) =
      some (members.map Member.range, rest) := by
  have ranges : List.Forall₂ WritesRange (members.map Member.pattern)
      (members.map Member.range) := by
    rw [List.forall₂_map_left_iff, List.forall₂_map_right_iff, List.forall₂_same]
    intro m mem
    obtain ⟨k, get⟩ := List.getElem?_of_mem mem
    obtain ⟨l, -, h⟩ := exists_getElem?_of_forall₂ written.flip get
    exact ⟨l, m, h, rfl, rfl⟩
  rw [List.flatMap_def] at enough ⊢
  refine accepts_range.itemsBefore?_flatten (by simp) ?_ ranges (by simpa using present) enough rest
  rintro l r ⟨k, m, -, rfl, -⟩
  exact Regex.head?_escape_append_ne (by decide) (by decide) _

/-- **A class is read back.** -/
theorem atom?_class {ls : List (List Char)} {members : List Member}
    (written : List.Forall₂ SpellsMember ls members) (present : members ≠ []) (negated : Bool)
    (rest : List Char) :
    Regex.atom? ((Term.oneOf negated members).pattern ++ rest) =
      some (.oneOf negated (members.map Member.range), rest) := by
  have enough : (members.flatMap Member.pattern).length ≤
      (members.flatMap Member.pattern ++ ']' :: rest).length := by simp
  have read := itemsBefore?_range written present enough rest
  cases negated with
  | true =>
    simp [Term.pattern, Regex.atom?, Regex.class?] at read ⊢
    simp [read]
  | false =>
    obtain ⟨m, ms, rfl⟩ := List.exists_cons_of_ne_nil present
    have front : (List.flatMap Member.pattern (m :: ms) ++ ']' :: rest).head? ≠ some '^' := by
      rw [List.flatMap_cons, Member.pattern, List.append_assoc, List.append_assoc]
      exact Regex.head?_escape_append_ne (by decide) (by decide) _
    obtain ⟨c, cs, text⟩ := List.exists_cons_of_ne_nil
      (show List.flatMap Member.pattern (m :: ms) ++ ']' :: rest ≠ [] by simp)
    have whole : (Term.oneOf false (m :: ms)).pattern ++ rest = '[' :: c :: cs := by
      rw [← text]
      simp [Term.pattern]
    rw [text] at read front
    have other : c ≠ '^' := fun same => front (congrArg some same)
    rw [whole, Regex.atom?, if_pos rfl, Regex.class?, if_neg other, read]
    rfl

/-- An atom that no star follows is a part. -/
theorem part?_of_atom? {cs rest : List Char} {a : Regex.Atom}
    (h : Regex.atom? cs = some (a, rest)) (front : cs.head? ≠ some '^')
    (stops : rest.head? ≠ some '*') : Regex.part? cs = some (.once a, rest) := by
  cases cs with
  | nil => cases h
  | cons c cs =>
    rw [Regex.part?, if_neg fun same => front (congrArg some same), h]
    cases rest with
    | nil => rfl
    | cons d rest =>
      have other : d ≠ '*' := fun same => stops (congrArg some same)
      simp [other]

/-- An atom that a star follows is a run. -/
theorem part?_of_atom?_star {cs rest : List Char} {a : Regex.Atom}
    (h : Regex.atom? cs = some (a, '*' :: rest)) (front : cs.head? ≠ some '^') :
    Regex.part? cs = some (.run a, rest) := by
  cases cs with
  | nil => cases h
  | cons c cs =>
    rw [Regex.part?, if_neg fun same => front (congrArg some same), h]
    simp

/-- The start of a name, and terms, are written so that their parts are read back. -/
def WritesPart (l : List Char) (p : Regex.Part) : Prop :=
  (l = ['^'] ∧ p = .start) ∨ ∃ k t, SpellsTerm k t ∧ l = t.pattern ∧ p = t.part

/-- An escaped character is a part. -/
theorem part?_escape_append (c : Char) {rest : List Char} (stops : rest.head? ≠ some '*') :
    Regex.part? (Regex.escape c ++ rest) = some (.once (.literal c), rest) := by
  refine part?_of_atom? ?_ (Regex.head?_escape_append_ne (by decide) (by decide) rest) stops
  have front := Regex.head?_escape_append_ne (c := c) (d := '[') (by decide) (by decide) rest
  have read := Regex.char?_escape_append c rest
  obtain ⟨d, cs, text, -⟩ := Regex.escape_eq_cons c
  rw [text, List.cons_append] at front read ⊢
  rw [Regex.atom?, if_neg fun same => front (congrArg some same), read]
  rfl

theorem accepts_part :
    Taker.Accepts Regex.part? WritesPart (fun rest => rest.head? ≠ some '*') where
  take_append := by
    have slash : List.Forall₂ SpellsMember [['/']] [⟨'/', none⟩] :=
      .cons (.single (.plain (by decide) (by decide) (by decide))) .nil
    rintro l p rest (⟨rfl, rfl⟩ | ⟨k, t, h, rfl, rfl⟩) stops
    · simp [Regex.part?]
    · cases h with
      | run =>
        exact part?_of_atom?_star (atom?_class slash (by simp) true ('*' :: rest))
          (by simp [Term.pattern])
      | one =>
        exact part?_of_atom? (atom?_class slash (by simp) true rest) (by simp [Term.pattern]) stops
      | escaped => exact part?_escape_append _ stops
      | plain _ _ _ _ => exact part?_escape_append _ stops
      | oneOf present written _ =>
        exact part?_of_atom? (atom?_class written present false rest) (by simp [Term.pattern]) stops
      | noneOf present written =>
        exact part?_of_atom? (atom?_class written present true rest) (by simp [Term.pattern]) stops
  ne_nil := by
    rintro l p (⟨rfl, -⟩ | ⟨k, t, h, rfl, -⟩)
    · simp
    · cases t with
      | literal c =>
        obtain ⟨d, cs, text, -⟩ := Regex.escape_eq_cons c
        simp [Term.pattern, text]
      | _ => simp [Term.pattern]
  stops_append := by
    rintro l p (⟨rfl, -⟩ | ⟨k, t, h, rfl, -⟩) rest
    · simp
    · cases t with
      | literal c => exact Regex.head?_escape_append_ne (by decide) (by decide) rest
      | _ => simp [Term.pattern]

/-- **The text of the expression is read back** as the expression of the glob. -/
theorem parse?_pattern {text : List Char} {g : Glob} (h : Spells text g) :
    Regex.parse? g.pattern = some g.regex := by
  obtain ⟨ls, written, -⟩ := h
  have parts : List.Forall₂ WritesPart (['^'] :: g.map Term.pattern) g.regex := by
    refine .cons (Or.inl ⟨rfl, rfl⟩) ?_
    rw [List.forall₂_map_left_iff, List.forall₂_map_right_iff, List.forall₂_same]
    intro t mem
    obtain ⟨k, get⟩ := List.getElem?_of_mem mem
    obtain ⟨l, -, h⟩ := exists_getElem?_of_forall₂ written.flip get
    exact Or.inr ⟨l, t, h, rfl, rfl⟩
  have flat : g.pattern.toList = (['^'] :: g.map Term.pattern).flatten := by
    rw [pattern, String.toList_ofList, List.flatMap_def]
    rfl
  rw [Regex.parse?, flat]
  exact accepts_part.allItems?_flatten (by simp) parts (Nat.le_refl _)

/-- **The expression of a text** is there exactly if the text is a glob. -/
theorem compile?_eq (text : String) : compile? text = (parse? text).map regex := by
  rw [compile?]
  cases h : parse? text with
  | none => rfl
  | some g => exact parse?_pattern (parse?_eq_some_iff.mp h).2

/-! ### Matching -/

theorem holds_range_iff {m : Member} {c : Char} : m.range.holds c = true ↔ m.Holds c := by
  have bounds : m.range.holds c = true ↔ m.low ≤ c ∧ c ≤ m.high.getD m.low :=
    Bool.and_eq_true_iff.trans (and_congr decide_eq_true_iff decide_eq_true_iff)
  obtain ⟨low, _ | high⟩ := m
  · refine bounds.trans ⟨fun ⟨above, below⟩ => Char.le_antisymm below above, ?_⟩
    rintro rfl
    exact ⟨Char.le_refl _, Char.le_refl _⟩
  · exact bounds

theorem holds_noSlash_iff {c : Char} : noSlash.holds c = true ↔ c ≠ '/' := by
  have single : (⟨'/', '/'⟩ : Regex.Range).holds c = true ↔ c = '/' :=
    holds_range_iff (m := ⟨'/', none⟩)
  simp [noSlash, Regex.Atom.holds, ← single]

theorem holds_oneOf_iff {negated : Bool} {members : List Member} {c : Char} :
    (Regex.Atom.oneOf negated (members.map Member.range)).holds c = true ↔
      ((∃ m ∈ members, m.Holds c) ↔ negated = false) := by
  have any : (members.map Member.range).any (·.holds c) = true ↔ ∃ m ∈ members, m.Holds c := by
    simp [holds_range_iff]
  rw [Regex.Atom.holds, ← any]
  cases negated <;> simp

/-- **A part stands for what its term matches.** -/
theorem after_part_iff {t : Term} {whole cs : List Char} {P : List Char → Prop} :
    t.part.After whole P cs ↔
      ∃ front rest, cs = front ++ rest ∧ t.Matches front ∧ P rest := by
  -- one character in front of what follows is a piece that holds this character
  have piece : ∀ Q : Char → Prop,
      (∃ c rest, cs = c :: rest ∧ Q c ∧ P rest) ↔
        ∃ front rest, cs = front ++ rest ∧ (∃ c, front = [c] ∧ Q c) ∧ P rest := by
    intro Q
    constructor
    · rintro ⟨c, rest, rfl, here, there⟩
      exact ⟨[c], rest, rfl, ⟨c, rfl, here⟩, there⟩
    · rintro ⟨front, rest, rfl, ⟨c, rfl, here⟩, there⟩
      exact ⟨c, rest, rfl, here, there⟩
  cases t with
  | run =>
    have free : ∀ front : List Char, (∀ c ∈ front, noSlash.holds c = true) ↔ '/' ∉ front := by
      intro front
      simp only [holds_noSlash_iff]
      exact ⟨fun all mem => all _ mem rfl, fun free c mem same => free (same ▸ mem)⟩
    simp only [Term.part, Regex.Part.After, Term.Matches, free]
  | one => simp only [Term.part, Regex.Part.After, Term.Matches, holds_noSlash_iff, piece]
  | literal d =>
    simp only [Term.part, Regex.Part.After, Term.Matches, Regex.Atom.holds, beq_iff_eq, piece]
    simp
  | oneOf negated members =>
    cases negated with
    | false =>
      simp only [Term.part, Regex.Part.After, Term.Matches, holds_oneOf_iff, iff_true, piece]
    | true =>
      simp only [Term.part, Regex.Part.After, Term.Matches, holds_oneOf_iff, reduceCtorEq,
        iff_false, not_exists, not_and, piece]

/-- **The parts of a glob fit** where a leading part matches the glob. -/
theorem fits_map_part_iff {g : Glob} {whole cs : List Char} :
    Regex.Fits (g.map Term.part) whole cs ↔ ∃ front rest, cs = front ++ rest ∧ g.Matches front := by
  induction g generalizing cs with
  | nil =>
    constructor
    · exact fun _ => ⟨[], cs, rfl, rfl⟩
    · exact fun _ => trivial
  | cons t g ih =>
    have step : Regex.Fits ((t :: g).map Term.part) whole cs ↔
        t.part.After whole (Regex.Fits (g.map Term.part) whole) cs := Iff.rfl
    rw [step, after_part_iff]
    simp only [ih]
    constructor
    · rintro ⟨piece, behind, rfl, here, front, rest, rfl, there⟩
      exact ⟨piece ++ front, rest, by simp, piece, front, rfl, here, there⟩
    · rintro ⟨_, rest, rfl, piece, front, rfl, here, there⟩
      exact ⟨piece, front ++ rest, by simp, here, front, rest, rfl, there⟩

/-- **The regular expression matches** exactly the names of which the glob matches a leading part in
full. -/
theorem isMatch_regex_iff {g : Glob} {name : String} :
    g.regex.isMatch name = true ↔ ∃ front rest, name.toList = front ++ rest ∧ g.Matches front := by
  rw [regex, Regex.isMatch_start_cons_iff, fits_map_part_iff]

end Glob

end TreeWire
