import Mathlib.Logic.Function.Iterate
import TreeWire.Proofs.Numbering

/-!
# Names of fields

The fields of a tree are named after its branches, and the names of two branches may lead to one
name: they may be equal, they may differ only in what a field name cannot show, and the one may end
with the very suffix that the other one gets. Whatever the branches are called, a name is found
for each of them. Every suffix makes the name longer, so no candidate comes up twice, and there are
no more candidates that are taken than there are names.

* `TreeWire.IsName` – **what the name of a field is**: an identifier without capital letters;
* `TreeWire.isName_fieldName` – the name that is made of the name of a branch;
* `TreeWire.Freed` – **the search for a free name**, by the suffixes that it puts at the end;
* `TreeWire.exists_freed_freshName` – the search comes to an end;
* `TreeWire.nodup_names_fieldsOf` – the names of one extraction;
* `TreeWire.Tree.names_extract` – **the main statement**.
-/

namespace TreeWire

/-! ### What names are made of -/

/-- Whether a character may stand in the name of a field: lower-case letters, digits and
underscores. -/
def isNameChar (c : Char) : Bool := isWordChar c && !c.isUpper

/-- **The name of a field**: an identifier without capital letters. -/
structure IsName (name : List Char) : Prop where
  /-- It is an identifier. -/
  identifier : isIdentifierChars name = true
  /-- There are no capital letters in it. -/
  small : ∀ c ∈ name, c.isUpper = false

theorem isUpper_iff {c : Char} : c.isUpper = true ↔ 65 ≤ c.toNat ∧ c.toNat ≤ 90 :=
  decide_eq_true_iff

theorem isLower_iff {c : Char} : c.isLower = true ↔ 97 ≤ c.toNat ∧ c.toNat ≤ 122 :=
  Bool.and_eq_true_iff.trans (and_congr decide_eq_true_iff decide_eq_true_iff)

theorem isDigit_iff {c : Char} : c.isDigit = true ↔ 48 ≤ c.toNat ∧ c.toNat ≤ 57 :=
  Bool.and_eq_true_iff.trans (and_congr decide_eq_true_iff decide_eq_true_iff)

theorem toNat_toLower {c : Char} (h : c.isUpper = true) : c.toLower.toNat = c.toNat + 32 := by
  have upper : c.val ≥ 'A'.val ∧ c.val ≤ 'Z'.val := of_decide_eq_true h
  have moved : c.toLower.val = c.val + ('a'.val - 'A'.val) := congrArg Char.val (dif_pos upper)
  have no_carry : c.val.toNat + 32 < 0x100000000 := by
    have : c.val.toNat ≤ 90 := (isUpper_iff.mp h).2
    omega
  calc c.toLower.toNat = (c.val + 32).toNat := congrArg UInt32.toNat moved
    _ = c.toNat + 32 := (UInt32.toNat_add _ _).trans (Nat.mod_eq_of_lt no_carry)

theorem isNameChar_of_isLower {c : Char} (h : c.isLower = true) : isNameChar c = true := by
  have small : c.isUpper = false := by
    rw [Bool.eq_false_iff, ne_eq, isUpper_iff]
    have := isLower_iff.mp h
    omega
  have letter : c.isAlpha = true := Bool.or_eq_true_iff.mpr (Or.inr h)
  simp [isNameChar, isWordChar, Char.isAlphanum, letter, small]

theorem isNameChar_of_isDigit {c : Char} (h : c.isDigit = true) : isNameChar c = true := by
  have small : c.isUpper = false := by
    rw [Bool.eq_false_iff, ne_eq, isUpper_iff]
    have := isDigit_iff.mp h
    omega
  simp [isNameChar, isWordChar, Char.isAlphanum, h, small]

theorem isNameChar_toLower {c : Char} (h : c.isUpper = true) : isNameChar c.toLower = true := by
  refine isNameChar_of_isLower (isLower_iff.mpr ?_)
  have := isUpper_iff.mp h
  rw [toNat_toLower h]
  omega

/-- The words of a name are spelled in such characters. -/
theorem all_joinWords (previous : Option Char) (pending : Bool) (cs : List Char) :
    (joinWords previous pending cs).all isNameChar = true := by
  have underscore : isNameChar '_' = true := by decide
  -- every step writes one character, or an underscore in front of it
  fun_induction joinWords previous pending cs with
  | case1 => rfl
  | case2 previous pending c cs upper _ ih =>
    have lower := isNameChar_toLower upper
    rw [List.all_cons, List.all_cons, underscore, lower, ih]
    rfl
  | case3 previous pending c cs upper _ ih =>
    have lower := isNameChar_toLower upper
    rw [List.all_cons, lower, ih]
    rfl
  | case4 previous pending c cs other word ih =>
    have kept : isNameChar c = true := by simp [isNameChar, word, other]
    rw [List.all_cons, kept, ih]
    rfl
  | case5 previous c cs _ _ ih =>
    rw [List.all_cons, underscore, ih]
    rfl
  | case6 previous pending c cs _ _ _ ih => exact ih

namespace IsName

variable {c : Char} {cs ds : List Char}

/-- An identifier that is spelled in such characters is a name. -/
theorem of_all (identifier : isIdentifierChars cs = true) (all : cs.all isNameChar = true) :
    IsName cs := by
  refine ⟨identifier, fun c hc => ?_⟩
  have spelled := List.all_eq_true.mp all c hc
  rw [isNameChar, Bool.and_eq_true, Bool.not_eq_true'] at spelled
  exact spelled.2

/-- A name that begins with a letter or an underscore. -/
theorem cons (first : (c.isAlpha || c == '_') = true) (small : c.isUpper = false)
    (rest : ∀ d ∈ cs, isNameChar d = true) : IsName (c :: cs) := by
  simp only [isNameChar, Bool.and_eq_true, Bool.not_eq_true'] at rest
  constructor
  · rw [isIdentifierChars, first, List.all_eq_true.mpr fun d hd => (rest d hd).1]
    rfl
  · intro d hd
    rcases List.mem_cons.mp hd with rfl | hd
    · exact small
    · exact (rest d hd).2

/-- Such characters are a name if the first one is no digit. -/
theorem of_not_isDigit (letter : ¬ c.isDigit = true)
    (spelled : ∀ d ∈ c :: cs, isNameChar d = true) : IsName (c :: cs) := by
  have first := spelled c (by simp)
  simp only [isNameChar, isWordChar, Char.isAlphanum, Bool.and_eq_true, Bool.not_eq_true',
    Bool.or_eq_true] at first
  obtain ⟨(alpha | digit) | underscore, small⟩ := first
  · exact cons (by simp [alpha]) small fun d hd => spelled d (by simp [hd])
  · exact absurd digit letter
  · exact cons (by simp [underscore]) small fun d hd => spelled d (by simp [hd])

/-- A name remains one if such characters are put at its end. -/
theorem append (h : IsName cs) (more : ∀ d ∈ ds, isNameChar d = true) : IsName (cs ++ ds) := by
  cases cs with
  | nil => exact absurd h.identifier (by decide)
  | cons c cs =>
    obtain ⟨first, rest⟩ := Bool.and_eq_true_iff.mp h.identifier
    refine cons first (h.small c (by simp)) fun d hd => ?_
    rcases List.mem_append.mp hd with hd | hd
    · have word := List.all_eq_true.mp rest d hd
      simp [isNameChar, word, h.small d (by simp [hd])]
    · exact more d hd

end IsName

/-- **The name of a branch becomes the name of a field.** -/
theorem isName_fieldName (branch : String) : IsName (fieldName branch).toList := by
  rw [fieldName, String.toList_ofList, fieldNameChars]
  have spelled : ∀ c ∈ dropUnderscores (joinWords none true branch.toList),
      isNameChar c = true := fun c hc => by
    refine List.all_eq_true.mp (all_joinWords none true branch.toList) c ?_
    rw [dropUnderscores, List.mem_reverse] at hc
    exact List.mem_reverse.mp ((List.dropWhile_sublist _).mem hc)
  split
  · -- nothing is left, or there was nothing to begin with
    split
    · exact .of_all (by decide) (by decide)
    · exact .of_all (by decide) (by decide)
  · rename_i c cs joined
    rw [joined] at spelled
    split
    · -- a digit in front is given a letter
      refine .of_not_isDigit (by decide) fun d hd => ?_
      simp only [List.mem_cons] at hd
      rcases hd with rfl | rfl | hd
      · decide
      · decide
      · exact spelled d (List.mem_cons.mpr hd)
    · rename_i letter
      exact .of_not_isDigit letter spelled

/-! ### The search for a free name -/

/-- **The search for a free name** is over after some suffixes: the name with that many of them is
free, and with fewer of them it is taken. -/
structure Freed (suffix : String) (taken : List String) (name : String) (n : Nat)
    (found : String) : Prop where
  /-- What is found is the name with the suffixes. -/
  suffixed : found = (· ++ suffix)^[n] name
  /-- It is free. -/
  free : found ∉ taken
  /-- The names with fewer suffixes are taken. -/
  earlier : ∀ i < n, (· ++ suffix)^[i] name ∈ taken

/-- Only which names are taken matters. -/
theorem Freed.congr {suffix : String} {taken taken' : List String} {name found : String} {n : Nat}
    (h : Freed suffix taken name n found) (same : ∀ s, s ∈ taken ↔ s ∈ taken') :
    Freed suffix taken' name n found :=
  ⟨h.suffixed, fun mem => h.free ((same _).mpr mem), fun i hi => (same _).mp (h.earlier i hi)⟩

theorem length_iterate_append (suffix name : String) (n : Nat) :
    ((· ++ suffix)^[n] name).length = name.length + n * suffix.length := by
  induction n generalizing name with
  | zero => simp
  | succ n ih =>
    rw [Function.iterate_succ_apply, ih, String.length_append, Nat.add_assoc, Nat.succ_mul,
      Nat.add_comm suffix.length]

/-- **The search comes to an end** after at most as many suffixes as there are names. -/
theorem exists_freed_freshName {suffix : String} (longer : 0 < suffix.length)
    (taken : List String) (name : String) :
    ∃ n ≤ taken.length, Freed suffix taken name n (freshName suffix taken name) := by
  fun_induction freshName suffix taken name with
  | case1 taken name mem ih =>
    obtain ⟨n, le, found, free, earlier⟩ := ih
    have count := List.length_erase_of_mem mem
    have some := List.length_pos_of_mem mem
    -- what has been passed over does not come up again
    have other : freshName suffix (taken.erase name) (name ++ suffix) ≠ name := fun same => by
      have length := length_iterate_append suffix (name ++ suffix) n
      rw [← found, same, String.length_append] at length
      omega
    refine ⟨n + 1, by omega, ?_, fun again => ?_, fun i hi => ?_⟩
    · rw [found, Function.iterate_succ_apply]
    · exact free ((List.mem_erase_of_ne other).mpr again)
    · cases i with
      | zero => exact mem
      | succ i =>
        rw [Function.iterate_succ_apply]
        exact List.mem_of_mem_erase (earlier i (by omega))
  | case2 taken name free => exact ⟨0, Nat.zero_le _, rfl, free, fun i hi => absurd hi (by omega)⟩

/-- The suffix of a field. -/
abbrev suffixOf (id : Nat) : String := "_" ++ toString id

theorem all_suffixOf (id : Nat) : ∀ c ∈ (suffixOf id).toList, isNameChar c = true := by
  intro c hc
  rw [suffixOf, String.toList_append, List.mem_append] at hc
  rcases hc with hc | hc
  · obtain rfl : c = '_' := by simpa using hc
    decide
  · have digits : c ∈ Nat.toDigits 10 id := by rwa [← Nat.toList_repr]
    exact isNameChar_of_isDigit (Nat.isDigit_of_mem_toDigits (by decide) (by decide) digits)

/-- **A name remains one** with suffixes. -/
theorem IsName.iterate {name : String} (h : IsName name.toList) (id n : Nat) :
    IsName ((· ++ suffixOf id)^[n] name).toList := by
  induction n generalizing name with
  | zero => exact h
  | succ n ih =>
    rw [Function.iterate_succ_apply]
    refine ih ?_
    rw [String.toList_append]
    exact h.append (all_suffixOf id)

/-- **One field** is given a free name. -/
theorem Branch.exists_freed_field (b : Branch) (taken : List String) (id : Nat) :
    ∃ n ≤ taken.length, Freed (suffixOf id) taken (fieldName b.name) n (b.field taken id).name := by
  refine exists_freed_freshName ?_ taken (fieldName b.name)
  rw [suffixOf, String.length_append]
  exact Nat.lt_of_lt_of_le Nat.zero_lt_one (Nat.le_add_right _ _)

/-! ### The names of an extraction -/

section Extraction

variable {selection : Selection} {taken : List String} {bs : List Branch} {ids ids' : Numbering}
  {fields : List Field}

/-- **The names of some fields** are all different, and none of them was taken before. -/
theorem nodup_names_fieldsOf (run : fieldsOf selection taken bs ids = (.ok fields, ids')) :
    (fields.map (·.name)).Nodup ∧ ∀ f ∈ fields, f.name ∉ taken := by
  -- the invariant: what is taken are the names from before and those given so far
  induction bs generalizing taken ids fields with
  | nil =>
    obtain rfl : [] = fields := Except.ok.inj (congrArg Prod.fst run)
    simp
  | cons b bs ih =>
    cases ha : selection.accepts b.name with
    | false => exact ih (fieldsOf_cons_of_not ha ▸ run)
    | true =>
      obtain ⟨-, later, rfl, rest⟩ := fieldsOf_cons_eq_ok ha run
      obtain ⟨_, -, found⟩ := b.exists_freed_field taken ids.next
      obtain ⟨distinct, fresh⟩ := ih rest
      constructor
      · refine List.nodup_cons.mpr ⟨fun mem => ?_, distinct⟩
        obtain ⟨f, hf, same⟩ := List.mem_map.mp mem
        exact fresh f hf (by simp [same])
      · intro f hf
        rcases List.mem_cons.mp hf with rfl | hf
        · exact found.free
        · exact fun mem => fresh f hf (List.mem_cons_of_mem _ mem)

/-- **The name of a field** is the first one that the fields before it have left free. -/
theorem exists_freed_fieldsOf (run : fieldsOf selection taken bs ids = (.ok fields, ids'))
    {k : Nat} {f : Field} (get : fields[k]? = some f) :
    ∃ n ≤ taken.length + k, Freed (suffixOf f.id) (taken ++ (fields.take k).map (·.name))
      (fieldName f.branch) n f.name := by
  induction bs generalizing taken ids fields k with
  | nil =>
    obtain rfl : [] = fields := Except.ok.inj (congrArg Prod.fst run)
    cases get
  | cons b bs ih =>
    cases ha : selection.accepts b.name with
    | false => exact ih (fieldsOf_cons_of_not ha ▸ run) get
    | true =>
      obtain ⟨-, later, rfl, rest⟩ := fieldsOf_cons_eq_ok ha run
      cases k with
      | zero =>
        obtain rfl := Option.some.inj get
        rw [List.take_zero, List.map_nil, List.append_nil]
        exact b.exists_freed_field taken ids.next
      | succ k =>
        obtain ⟨n, le, found⟩ := ih rest get
        rw [List.length_cons] at le
        exact ⟨n, by omega, found.congr fun s => by simp [or_left_comm]⟩

end Extraction

/-- **The fields of a tree have names of their own.** Whatever the tree, the selection and the
numbers that are left: for every branch, the search for a free name is over after at most as many
suffixes as there are names that are taken. Fields are extracted if there are enough numbers left,
and then their names are all different, each of them is an identifier without capital letters, and
each of them is found after at most as many suffixes as there are fields before it. -/
theorem Tree.names_extract (t : Tree) (selection : Selection) (ids : Numbering) :
    (∀ b ∈ t.branches, ∀ (taken : List String) (id : Nat), ∃ n ≤ taken.length,
      Freed ("_" ++ toString id) taken (fieldName b.name) n (b.field taken id).name) ∧
    (ids.next + (t.branches.filter (selection.accepts ·.name)).length ≤ largestFieldNumber + 1 →
      ∃ fields ids', t.extract selection ids = (.ok fields, ids')) ∧
    ∀ fields ids', t.extract selection ids = (.ok fields, ids') →
      (fields.map (·.name)).Nodup ∧
      (∀ f ∈ fields, isIdentifier f.name = true ∧ ∀ c ∈ f.name.toList, c.isUpper = false) ∧
      ∀ (k : Nat) (f : Field), fields[k]? = some f → ∃ n ≤ k,
        Freed ("_" ++ toString f.id) ((fields.take k).map (·.name)) (fieldName f.branch) n
          f.name := by
  refine ⟨fun b _ taken id => b.exists_freed_field taken id, fun enough => ?_,
    fun fields ids' run => ?_⟩
  · obtain ⟨fields, run, -⟩ := exists_fieldsOf [] ids enough
    exact ⟨fields, _, run⟩
  · have found : ∀ (k : Nat) (f : Field), fields[k]? = some f → ∃ n ≤ k,
        Freed (suffixOf f.id) ((fields.take k).map (·.name)) (fieldName f.branch) n f.name := by
      intro k f get
      simpa using exists_freed_fieldsOf run get
    refine ⟨(nodup_names_fieldsOf run).1, fun f hf => ?_, found⟩
    obtain ⟨k, get⟩ := List.getElem?_of_mem hf
    obtain ⟨n, -, freed⟩ := found k f get
    have name : IsName f.name.toList := by
      rw [freed.suffixed]
      exact (isName_fieldName f.branch).iterate f.id n
    exact ⟨name.identifier, name.small⟩

/-- A tree whose third branch is named like the first one, and whose second branch has the name
that the third one would get. -/
def echoes : Tree where
  name := "echoes"
  branches := [⟨"elEta", "", "int", #[]⟩, ⟨"el_eta_3", "", "int", #[]⟩, ⟨"ElEta", "", "int", #[]⟩]
  entries := 0
  size_values := by simp
  entries_eq_zero := nofun

/-- The third field gets two suffixes. -/
theorem Tree.names_extract_echoes :
    Numbering.start.next + (echoes.branches.filter (Selection.all.accepts ·.name)).length ≤
      largestFieldNumber + 1 ∧
    ∃ fields ids', echoes.extract .all .start = (.ok fields, ids') ∧
      fields.map (·.name) = ["el_eta", "el_eta_3", "el_eta_3_3"] ∧
      (fields.map (·.name)).Nodup ∧
      ∀ f ∈ fields, isIdentifier f.name = true ∧ ∀ c ∈ f.name.toList, c.isUpper = false := by
  have enough : Numbering.start.next +
      (echoes.branches.filter (Selection.all.accepts ·.name)).length ≤ largestFieldNumber + 1 := by
    decide +kernel
  have names : ((echoes.extract .all .start).1.map (List.map (·.name))).toOption =
      some ["el_eta", "el_eta_3", "el_eta_3_3"] := by
    decide +kernel
  obtain ⟨-, extracted, named⟩ := echoes.names_extract .all .start
  obtain ⟨fields, ids', run⟩ := extracted enough
  obtain ⟨distinct, valid, -⟩ := named fields ids' run
  rw [run] at names
  exact ⟨enough, fields, ids', run, Option.some.inj names, distinct, valid⟩

end TreeWire
