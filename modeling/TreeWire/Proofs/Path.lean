import Mathlib.Data.List.TakeWhile
import TreeWire.Path

/-!
# What paths are made of

A path is used in three ways: it is walked piece by piece, its last component names a file, and it
is made absolute. All three depend on little more than its components. This file gives the
components of a path that is put together from others, so that the three uses can be compared.

The pieces between slashes say more than the components: an empty piece at the end asks for a
directory, and so does a single dot. Making a path absolute keeps a slash at the end and loses a
dot.

* `TreeWire.Path.components_append_slash` – the components of two paths with a slash between them;
* `TreeWire.Path.fileName?_eq` – **the file name** is the last component;
* `TreeWire.Path.components_directory` – **the directory** has the other components;
* `TreeWire.Path.exists_toList_join`, `TreeWire.Path.absolute_spec` – **paths that are put
  together**;
* `TreeWire.Path.getLast?_splitSlash_absolute` – how an absolute path ends.
-/

namespace TreeWire

/-! ### Pieces -/

theorem splitAtChar_append_cons (separator : Char) (front rest : List Char) :
    splitAtChar separator (front ++ separator :: rest) =
      splitAtChar separator front ++ splitAtChar separator rest := by
  induction front with
  | nil =>
    obtain ⟨piece, pieces, split⟩ :=
      List.exists_cons_of_ne_nil (splitAtChar_ne_nil separator rest)
    simp [splitAtChar, split]
  | cons c front ih =>
    obtain ⟨piece, pieces, split⟩ :=
      List.exists_cons_of_ne_nil (splitAtChar_ne_nil separator front)
    rw [split] at ih
    by_cases here : c = separator
    · simp [splitAtChar, split, ih, here]
    · simp [splitAtChar, split, ih, here]

theorem splitAtChar_of_notMem {separator : Char} {piece : List Char} (h : separator ∉ piece) :
    splitAtChar separator piece = [piece] := by
  induction piece with
  | nil => rfl
  | cons c piece ih =>
    obtain ⟨other, later⟩ := not_or.mp (mt List.mem_cons.mpr h)
    simp [splitAtChar, ih later, Ne.symm other]

/-- The characters of a text, the separator apart, are those of its pieces. -/
theorem exists_mem_splitAtChar_iff {separator c : Char} (other : c ≠ separator) {text : List Char} :
    (∃ piece ∈ splitAtChar separator text, c ∈ piece) ↔ c ∈ text := by
  induction text with
  | nil => simp [splitAtChar]
  | cons d text ih =>
    obtain ⟨piece, pieces, split⟩ :=
      List.exists_cons_of_ne_nil (splitAtChar_ne_nil separator text)
    rw [split] at ih
    by_cases here : d = separator
    · simp [splitAtChar, split, ← ih, here, other]
    · simp [splitAtChar, split, ← ih, here, or_assoc]

namespace Path

/-- The pieces of two paths with a slash between them. -/
theorem splitSlash_append_slash (front rest : List Char) :
    splitSlash (front ++ '/' :: rest) = splitSlash front ++ splitSlash rest :=
  splitAtChar_append_cons '/' front rest

theorem splitSlash_of_notMem {piece : List Char} (h : '/' ∉ piece) : splitSlash piece = [piece] :=
  splitAtChar_of_notMem h

/-- The components of two paths with a slash between them. -/
theorem components_append_slash (front rest : List Char) :
    components (front ++ '/' :: rest) = components front ++ components rest := by
  rw [components, splitSlash_append_slash, List.filter_append]
  rfl

/-- A component without slashes is its own only component. -/
theorem components_of_isComponent {piece : List Char} (h : '/' ∉ piece)
    (counts : isComponent piece = true) : components piece = [piece] := by
  rw [components, splitSlash_of_notMem h]
  simp [counts]

theorem components_of_not_isComponent {piece : List Char} (h : '/' ∉ piece)
    (counts : ¬ isComponent piece = true) : components piece = [] := by
  rw [components, splitSlash_of_notMem h]
  simp [counts]

/-- Components have no slashes. -/
theorem slash_notMem_of_mem_components {path piece : List Char} (h : piece ∈ components path) :
    '/' ∉ piece ∧ isComponent piece = true := by
  obtain ⟨mem, counts⟩ := List.mem_filter.mp h
  exact ⟨separator_notMem_of_mem_splitAtChar mem, counts⟩

/-! ### File names -/

theorem isComponent_iff {piece : List Char} :
    isComponent piece = true ↔ piece ≠ [] ∧ piece ≠ ['.'] := by
  simp [isComponent]

/-- A text in reverse without slashes and single dots at its end has the same components, and it
ends with one of them if anything is left. -/
theorem components_dropPadding (r : List Char) :
    components (dropPadding r).reverse = components r.reverse ∧
      (dropPadding r ≠ [] → isComponent ((dropPadding r).takeWhile (· != '/')) = true) := by
  have padding : ∀ front piece : List Char, '/' ∉ piece → ¬ isComponent piece = true →
      components (front ++ '/' :: piece) = components front := by
    intro front piece free counts
    rw [components_append_slash, components_of_not_isComponent free counts, List.append_nil]
  fun_induction dropPadding r with
  | case1 r ih =>
    refine ⟨?_, ih.2⟩
    rw [ih.1, List.reverse_cons, padding _ [] nofun (by decide)]
  | case2 => exact ⟨by decide, nofun⟩
  | case3 r ih =>
    refine ⟨?_, ih.2⟩
    rw [ih.1, List.reverse_cons, List.reverse_cons, List.append_assoc]
    exact (padding _ ['.'] (by decide) (by decide)).symm
  | case4 r noSlash noDot noDotSlash =>
    refine ⟨rfl, fun present => isComponent_iff.mpr ?_⟩
    obtain ⟨c, cs, rfl⟩ := List.exists_cons_of_ne_nil present
    have here : (c != '/') = true := by simpa using fun same => noSlash cs (by rw [same])
    rw [List.takeWhile_cons_of_pos (p := (· != '/')) here]
    refine ⟨nofun, fun dot => ?_⟩
    obtain ⟨rfl, none⟩ := List.cons.inj dot
    cases cs with
    | nil => exact noDot rfl
    | cons d cs =>
      by_cases slash : d = '/'
      · exact noDotSlash cs (by rw [slash])
      · simp [slash] at none

/-- The slash or the dot that a path starts with is no component. -/
theorem components_drop_leadLength (path : List Char) :
    components (path.drop (leadLength path)) = components path := by
  by_cases lead : isAbsolute path = true ∨ startsWithDot path = true
  · have length : leadLength path = 1 := by simp [leadLength, lead]
    rw [length]
    rcases lead with root | dot
    · obtain ⟨rest, rfl⟩ := List.head?_eq_some_iff.mp (by simpa [isAbsolute] using root)
      exact (components_append_slash [] rest).symm
    · rw [startsWithDot.eq_def] at dot
      split at dot
      · rfl
      · next rest =>
        exact (components_append_slash [] rest).symm ▸ (components_append_slash ['.'] rest).symm
      · cases dot
  · have length : leadLength path = 0 := by simp [leadLength, not_or.mp lead]
    rw [length]
    rfl

/-- A text in reverse taken apart at its first component. -/
theorem components_reverse {body : List Char}
    (counts : isComponent (body.takeWhile (· != '/')) = true) :
    components body.reverse =
      components (body.dropWhile (· != '/')).reverse ++ [(body.takeWhile (· != '/')).reverse] := by
  rw [isComponent_iff] at counts
  have free : '/' ∉ (body.takeWhile (· != '/')).reverse := by
    intro mem
    simpa using List.mem_takeWhile_imp (List.mem_reverse.mp mem)
  have last : components (body.takeWhile (· != '/')).reverse =
      [(body.takeWhile (· != '/')).reverse] := by
    refine components_of_isComponent free (isComponent_iff.mpr ⟨by simpa using counts.1, ?_⟩)
    exact fun dot => counts.2 (List.reverse_eq_iff.mp dot)
  have cut : body.reverse = (body.dropWhile (· != '/')).reverse ++
      (body.takeWhile (· != '/')).reverse := by
    rw [← List.reverse_append, List.takeWhile_append_dropWhile]
  rw [cut]
  cases behind : body.dropWhile (· != '/') with
  | nil => exact last
  | cons c rest =>
    have slash : c = '/' := by
      have := List.head?_dropWhile_not (· != '/') body
      simpa [behind] using this
    rw [slash, List.reverse_cons, List.append_assoc, List.singleton_append, components_append_slash,
      last, components_append_slash]
    exact congrArg (· ++ _) (List.append_nil _).symm

/-- What is left of a text without its padding is the end of it. -/
theorem dropPadding_suffix (r : List Char) : dropPadding r <:+ r := by
  fun_induction dropPadding r with
  | case1 r ih => exact ih.trans (List.suffix_cons _ _)
  | case2 => exact List.nil_suffix
  | case3 r ih => exact ih.trans ((List.suffix_cons _ _).trans (List.suffix_cons _ _))
  | case4 r _ _ _ => exact List.suffix_refl _

/-- The slash or the dot that a path starts with can stand in front of any part of the rest. -/
theorem components_lead_append {path front : List Char}
    (cut : front <+: path.drop (leadLength path)) :
    components (path.take (leadLength path) ++ front) = components front ∧
      isAbsolute (path.take (leadLength path) ++ front) = isAbsolute path := by
  by_cases root : isAbsolute path = true
  · obtain ⟨rest, rfl⟩ := List.head?_eq_some_iff.mp (by simpa [isAbsolute] using root)
    have length : leadLength ('/' :: rest) = 1 := by simp [leadLength, root]
    rw [length]
    exact ⟨components_append_slash [] front, rfl⟩
  by_cases dot : startsWithDot path = true
  · have length : leadLength path = 1 := by simp [leadLength, dot]
    rw [length] at cut ⊢
    rw [startsWithDot.eq_def] at dot
    split at dot
    · obtain rfl : front = [] := List.prefix_nil.mp cut
      exact ⟨rfl, rfl⟩
    · next rest =>
      refine ⟨?_, rfl⟩
      cases front with
      | nil => rfl
      | cons c front =>
        obtain ⟨rfl, -⟩ := List.cons_prefix_cons.mp cut
        exact (components_append_slash ['.'] front).trans (components_append_slash [] front).symm
    · cases dot
  · have length : leadLength path = 0 := by simp [leadLength, root, dot]
    rw [length] at cut ⊢
    refine ⟨rfl, ?_⟩
    cases front with
    | nil => exact (Bool.eq_false_iff.mpr root).symm
    | cons c front =>
      obtain ⟨rest, rfl⟩ := cut
      rfl

/-- **A path taken apart** at its last component: the other components are those of what is in front
of it, which begins as the path does. -/
theorem components_of_splitLast {path front last : List Char}
    (split : splitLast path = some (front, last)) :
    components path = components front ++ [last] ∧ isAbsolute front = isAbsolute path := by
  obtain ⟨same, ends⟩ := components_dropPadding (path.drop (leadLength path)).reverse
  rw [List.reverse_reverse, components_drop_leadLength] at same
  have inside := dropPadding_suffix (path.drop (leadLength path)).reverse
  simp only [splitLast] at split
  generalize dropPadding (path.drop (leadLength path)).reverse = body at same ends inside split
  by_cases empty : body.takeWhile (· != '/') = []
  · rw [if_pos empty] at split
    cases split
  rw [if_neg empty] at split
  obtain ⟨rfl, rfl⟩ := Prod.mk.inj (Option.some.inj split)
  have counts := ends fun none => empty (by rw [none]; rfl)
  have cut : (dropPadding (body.dropWhile (· != '/'))).reverse <+: path.drop (leadLength path) := by
    rw [← List.reverse_reverse (path.drop _), List.reverse_prefix]
    exact (dropPadding_suffix _).trans ((List.dropWhile_suffix _).trans inside)
  obtain ⟨others, begins⟩ := components_lead_append cut
  refine ⟨?_, begins⟩
  rw [others, (components_dropPadding _).1, ← same, components_reverse counts]

/-- A path without a last component has none. -/
theorem components_of_splitLast_eq_none {path : List Char} (split : splitLast path = none) :
    components path = [] := by
  obtain ⟨same, ends⟩ := components_dropPadding (path.drop (leadLength path)).reverse
  rw [List.reverse_reverse, components_drop_leadLength] at same
  simp only [splitLast] at split
  generalize dropPadding (path.drop (leadLength path)).reverse = body at same ends split
  by_cases empty : body = []
  · rw [← same, empty]
    rfl
  · rw [if_neg (isComponent_iff.mp (ends empty)).1] at split
    cases split

/-- **The last component** of a path. -/
theorem getLast?_components (path : List Char) :
    (components path).getLast? = (splitLast path).map Prod.snd := by
  cases split : splitLast path with
  | none =>
    rw [components_of_splitLast_eq_none split]
    rfl
  | some parts =>
    rw [(components_of_splitLast split).1, List.getLast?_concat]
    rfl

/-- **The file name** is the last component, unless that leads upwards. -/
theorem fileName?_eq (path : String) :
    fileName? path = (components path.toList).getLast?.bind fun last =>
      if last = ['.', '.'] then none else some (String.ofList last) := by
  rw [fileName?, getLast?_components]
  cases splitLast path.toList with
  | none => rfl
  | some parts => rfl

/-- **A file name** is a component that does not lead upwards. -/
theorem mem_components_of_fileName? {path name : String} (h : fileName? path = some name) :
    name.toList ∈ components path.toList ∧ name ≠ ".." := by
  rw [fileName?_eq, Option.bind_eq_some_iff] at h
  obtain ⟨last, ends, rest⟩ := h
  by_cases up : last = ['.', '.']
  · rw [if_pos up] at rest
    cases rest
  · rw [if_neg up] at rest
    obtain rfl := Option.some.inj rest
    refine ⟨?_, fun same => up ?_⟩
    · rw [String.toList_ofList]
      exact List.mem_of_getLast? ends
    · rw [← String.toList_ofList (l := last), same]
      rfl

/-- What is in front of the last dot of a name is a part of it. -/
theorem splitDot_subset (name : List Char) : (splitDot name).1 ⊆ name := by
  have before : (name.reverse.dropWhile (· != '.')).reverse.dropLast ⊆ name := by
    intro c mem
    have inside := (List.dropLast_sublist _).subset mem
    exact List.mem_reverse.mp ((List.dropWhile_sublist _).subset (List.mem_reverse.mp inside))
  rw [splitDot]
  split
  · exact List.Subset.refl _
  · exact before

/-- There are no slashes in a stem, nor in what stands in for one. -/
theorem slash_notMem_stem (path : String) {other : String} (free : '/' ∉ other.toList) :
    '/' ∉ ((stem? path).getD other).toList := by
  cases stem : stem? path with
  | none => exact free
  | some text =>
    obtain ⟨name, named, rfl⟩ := Option.map_eq_some_iff.mp stem
    rw [Option.getD_some, String.toList_ofList]
    intro mem
    have whole := (slash_notMem_of_mem_components (mem_components_of_fileName? named).1).1
    exact whole (splitDot_subset _ mem)

/-- **A stem with something behind it** can be part of a path, if three characters or more are put
behind it. -/
theorem append_spec {stem behind : String} (free : '/' ∉ stem.toList) (free' : '/' ∉ behind.toList)
    (long : 3 ≤ behind.toList.length) :
    '/' ∉ (stem ++ behind).toList ∧ isComponent (stem ++ behind).toList = true ∧
      stem ++ behind ≠ ".." := by
  have size : 3 ≤ (stem ++ behind).toList.length := by
    rw [String.toList_append, List.length_append]
    omega
  refine ⟨?_, isComponent_iff.mpr ⟨?_, ?_⟩, ?_⟩
  · rw [String.toList_append, List.mem_append]
    exact not_or.mpr ⟨free, free'⟩
  all_goals
    intro short
    rw [short] at size
    exact absurd size (by decide)

/-- **The directory of a file** has the other components of its path, and it begins at the root if
the path does. -/
theorem components_directory {path name : String} (named : fileName? path = some name) :
    components path.toList = components (directory path).toList ++ [name.toList] ∧
      isAbsolute (directory path).toList = isAbsolute path.toList := by
  rw [fileName?] at named
  split at named
  · next front last split =>
    obtain ⟨parts, begins⟩ := components_of_splitLast split
    have parent : directory path =
        if String.ofList front = "" then "." else String.ofList front := by
      simp only [directory, parent?, split]
    obtain rfl : String.ofList last = name := by
      by_cases up : last = ['.', '.']
      · rw [if_pos up] at named
        cases named
      · rw [if_neg up] at named
        exact Option.some.inj named
    rw [parent, String.toList_ofList]
    by_cases empty : String.ofList front = ""
    · -- the working directory by its short name has no components either
      obtain rfl : front = [] := by simpa using empty
      rw [if_pos empty, parts, ← begins]
      exact ⟨rfl, rfl⟩
    · rw [if_neg empty, String.toList_ofList]
      exact ⟨parts, begins⟩
  · cases named

/-- A directory always has a path. -/
theorem directory_ne_empty (path : String) : directory path ≠ "" := by
  rw [directory]
  split
  · split
    · decide
    · assumption
  · decide

/-! ### How paths end -/

/-- The piece that a path ends with. -/
theorem exists_last_piece (path : List Char) :
    ∃ piece, '/' ∉ piece ∧ (splitSlash path).getLast? = some piece ∧
      (path = piece ∨ ∃ front, path = front ++ '/' :: piece) := by
  have cut : ∃ piece, '/' ∉ piece ∧ (path = piece ∨ ∃ front, path = front ++ '/' :: piece) := by
    induction path with
    | nil => exact ⟨[], nofun, Or.inl rfl⟩
    | cons c path ih =>
      obtain ⟨piece, free, rfl | ⟨front, rfl⟩⟩ := ih
      · by_cases slash : c = '/'
        · exact ⟨path, free, Or.inr ⟨[], by rw [slash]; rfl⟩⟩
        · exact ⟨c :: path, by simp [free, Ne.symm slash], Or.inl rfl⟩
      · exact ⟨piece, free, Or.inr ⟨c :: front, rfl⟩⟩
  obtain ⟨piece, free, whole⟩ := cut
  refine ⟨piece, free, ?_, whole⟩
  rcases whole with rfl | ⟨front, rfl⟩
  · rw [splitSlash_of_notMem free]
    rfl
  · rw [splitSlash_append_slash, splitSlash_of_notMem free, List.getLast?_concat]

theorem getLast?_splitSlash_append (front : List Char) {piece : List Char} (free : '/' ∉ piece) :
    (splitSlash (front ++ '/' :: piece)).getLast? = some piece := by
  rw [splitSlash_append_slash, splitSlash_of_notMem free, List.getLast?_concat]

/-- A path that is not empty ends with an empty piece exactly if it ends with a slash. -/
theorem getLast?_splitSlash_eq_nil_iff {path : List Char} (present : path ≠ []) :
    (splitSlash path).getLast? = some [] ↔ path.getLast? = some '/' := by
  obtain ⟨piece, free, last, whole⟩ := exists_last_piece path
  rw [last, Option.some.injEq]
  constructor
  · rintro rfl
    rcases whole with rfl | ⟨front, rfl⟩
    · exact absurd rfl present
    · exact List.getLast?_concat
  · intro slash
    obtain ⟨front, text⟩ := List.getLast?_eq_some_iff.mp slash
    have ended : (splitSlash path).getLast? = some [] := by
      rw [text]
      exact getLast?_splitSlash_append front nofun
    rw [ended] at last
    exact (Option.some.inj last).symm

/-- A last piece that counts is the last component. -/
theorem getLast?_components_of_isComponent {path piece : List Char}
    (last : (splitSlash path).getLast? = some piece) (counts : isComponent piece = true) :
    (components path).getLast? = some piece := by
  obtain ⟨front, split⟩ := List.getLast?_eq_some_iff.mp last
  rw [components, split, List.filter_append, List.filter_cons_of_pos counts]
  exact List.getLast?_concat

/-! ### Joining -/

/-- **A name below a directory**: the directory, without a slash at its end, and the name with a
slash between them. -/
theorem exists_toList_join {dir name : String} (present : dir ≠ "")
    (relative : ¬ isAbsolute name.toList = true) :
    ∃ front, (join dir name).toList = front ++ '/' :: name.toList ∧ front <+: dir.toList ∧
      components front = components dir.toList ∧
      (join dir name).toList.head? = dir.toList.head? := by
  have text : dir.toList ≠ [] := by simpa using present
  have head : ∀ rest : List Char, (dir.toList ++ rest).head? = dir.toList.head? := by
    intro rest
    obtain ⟨c, cs, whole⟩ := List.exists_cons_of_ne_nil text
    rw [whole]
    rfl
  rw [join, if_neg relative]
  by_cases slash : dir.toList.getLast? = some '/'
  · obtain ⟨front, whole⟩ := List.getLast?_eq_some_iff.mp slash
    rw [if_pos (Or.inr slash), String.toList_append]
    refine ⟨front, by rw [whole, List.append_assoc]; rfl, ⟨['/'], whole.symm⟩, ?_, head _⟩
    rw [whole, components_append_slash]
    exact (List.append_nil _).symm
  · rw [if_neg (not_or.mpr ⟨present, slash⟩), String.toList_append, String.toList_append]
    exact ⟨dir.toList, by rw [List.append_assoc]; rfl, List.prefix_refl _, rfl,
      by rw [List.append_assoc]; exact head _⟩

/-- A name without slashes is relative. -/
theorem not_isAbsolute_of_notMem {name : List Char} (free : '/' ∉ name) :
    ¬ isAbsolute name = true := by
  rw [isAbsolute, beq_iff_eq]
  intro slash
  obtain ⟨rest, rfl⟩ := List.head?_eq_some_iff.mp slash
  exact free List.mem_cons_self

/-- A name below a directory from the root has a path from the root. -/
theorem isAbsolute_join {dir name : String} (root : isAbsolute dir.toList = true)
    (relative : ¬ isAbsolute name.toList = true) : isAbsolute (join dir name).toList = true := by
  have present : dir ≠ "" := by rintro rfl; cases root
  obtain ⟨-, -, -, -, head⟩ := exists_toList_join present relative
  rwa [isAbsolute, head]

/-- **The components of a name below a directory.** -/
theorem components_join {dir name : String} (present : dir ≠ "") (free : '/' ∉ name.toList)
    (counts : isComponent name.toList = true) :
    components (join dir name).toList = components dir.toList ++ [name.toList] ∧
      isAbsolute (join dir name).toList = isAbsolute dir.toList := by
  obtain ⟨front, text, -, same, head⟩ := exists_toList_join present (not_isAbsolute_of_notMem free)
  refine ⟨?_, by rw [isAbsolute, isAbsolute, head]⟩
  rw [text, components_append_slash, components_of_isComponent free counts, same]

/-- **The file name** of a name below a directory. -/
theorem fileName?_join {dir name : String} (present : dir ≠ "") (free : '/' ∉ name.toList)
    (counts : isComponent name.toList = true) (down : name ≠ "..") :
    fileName? (join dir name) = some name := by
  have other : name.toList ≠ ['.', '.'] := fun same => down (String.toList_inj.mp same)
  rw [fileName?_eq, (components_join present free counts).1, List.getLast?_concat]
  simp [other]

/-- The characters of a name below a directory, the slash apart. -/
theorem mem_join_iff {dir name : String} (relative : ¬ isAbsolute name.toList = true) {c : Char}
    (other : c ≠ '/') : c ∈ (join dir name).toList ↔ c ∈ dir.toList ∨ c ∈ name.toList := by
  rw [join, if_neg relative]
  split <;> simp [other]

/-- A name below a directory does not make its path shorter. -/
theorem utf8ByteSize_le_join {dir name : String} (relative : ¬ isAbsolute name.toList = true) :
    dir.utf8ByteSize ≤ (join dir name).utf8ByteSize := by
  rw [join, if_neg relative]
  split <;> simp only [String.utf8ByteSize_append] <;> omega

/-- **Components below a directory**, one after the other. -/
theorem foldl_join {pieces : List (List Char)}
    (valid : ∀ piece ∈ pieces, '/' ∉ piece ∧ isComponent piece = true) {start : String}
    (root : isAbsolute start.toList = true) {joined : String}
    (whole : pieces.foldl (fun dir piece => join dir (String.ofList piece)) start = joined) :
    isAbsolute joined.toList = true ∧
      components joined.toList = components start.toList ++ pieces ∧
      ∀ last ∈ pieces.getLast?, (splitSlash joined.toList).getLast? = some last := by
  induction pieces generalizing start with
  | nil =>
    obtain rfl : start = joined := whole
    exact ⟨root, (List.append_nil _).symm, nofun⟩
  | cons piece pieces ih =>
    obtain ⟨⟨free, counts⟩, later⟩ := List.forall_mem_cons.mp valid
    have present : start ≠ "" := by rintro rfl; cases root
    have relative : ¬ isAbsolute (String.ofList piece).toList = true := by
      rw [String.toList_ofList]
      exact not_isAbsolute_of_notMem free
    obtain ⟨front, text, -, same, -⟩ := exists_toList_join present relative
    rw [String.toList_ofList] at text
    have rooted := isAbsolute_join root relative
    obtain ⟨absolute, parts, ends⟩ := ih later rooted whole
    refine ⟨absolute, ?_, ?_⟩
    · rw [parts, text, components_append_slash, same, components_of_isComponent free counts,
        List.append_assoc]
      rfl
    · intro last mem
      cases pieces with
      | nil =>
        obtain rfl : piece = last := by simpa using mem
        obtain rfl : join start (String.ofList piece) = joined := whole
        rw [text]
        exact getLast?_splitSlash_append front free
      | cons next pieces => exact ends last (by simpa using mem)

/-! ### Making paths absolute -/

section Absolute

variable {workingDirectory path : String}

/-- A path is made absolute by joining its components below the root or the working directory, and
by putting back the slash at its end. -/
theorem exists_joined (root : isAbsolute workingDirectory.toList = true) (path : String) :
    ∃ joined : String, isAbsolute joined.toList = true ∧
      components joined.toList =
        (if isAbsolute path.toList = true then [] else components workingDirectory.toList) ++
          components path.toList ∧
      (∀ last ∈ (components path.toList).getLast?,
        (splitSlash joined.toList).getLast? = some last) ∧
      absolute workingDirectory path =
        if path.toList.getLast? = some '/' then
          if joined.toList.getLast? = some '/' then joined else joined ++ "/"
        else joined := by
  obtain ⟨start, begins, rooted, parts⟩ : ∃ start : String,
      start = (if !isAbsolute path.toList then workingDirectory
        else if path.toList.take 2 = ['/', '/'] ∧ path.toList.take 3 ≠ ['/', '/', '/'] then "//"
        else "/") ∧
      isAbsolute start.toList = true ∧
      components start.toList =
        if isAbsolute path.toList = true then [] else components workingDirectory.toList := by
    refine ⟨_, rfl, ?_⟩
    cases isAbsolute path.toList with
    | false => exact ⟨root, rfl⟩
    | true => simp only [Bool.not_true, Bool.false_eq_true, if_false, if_true]; split <;> decide
  obtain ⟨absolute, below, ends⟩ :=
    foldl_join (fun _ => slash_notMem_of_mem_components) rooted rfl
  exact ⟨_, absolute, parts ▸ below, ends, by rw [begins]; rfl⟩

/-- **A path from the root** begins with a slash, and its components are those of the path, behind
those of the working directory if the path is relative. -/
theorem absolute_spec (root : isAbsolute workingDirectory.toList = true) (path : String) :
    isAbsolute (absolute workingDirectory path).toList = true ∧
      components (absolute workingDirectory path).toList =
        (if isAbsolute path.toList = true then [] else components workingDirectory.toList) ++
          components path.toList := by
  obtain ⟨joined, rooted, parts, -, whole⟩ := exists_joined root path
  have slash : isAbsolute (joined ++ "/").toList = true ∧
      components (joined ++ "/").toList = components joined.toList := by
    have more : (joined ++ "/").toList = joined.toList ++ '/' :: [] := String.toList_append
    obtain ⟨rest, front⟩ := List.head?_eq_some_iff.mp (by simpa [isAbsolute] using rooted)
    rw [more, components_append_slash, front]
    exact ⟨rfl, List.append_nil _⟩
  rw [whole, ← parts]
  split
  · split
    · exact ⟨rooted, rfl⟩
    · exact slash
  · exact ⟨rooted, rfl⟩

/-- **A path from the root ends** as the path does, unless that ends with a single dot. -/
theorem getLast?_splitSlash_absolute (root : isAbsolute workingDirectory.toList = true)
    (present : path ≠ "") (noDot : (splitSlash path.toList).getLast? ≠ some ['.']) :
    (splitSlash (absolute workingDirectory path).toList).getLast? =
      (splitSlash path.toList).getLast? := by
  obtain ⟨joined, -, -, ends, whole⟩ := exists_joined root path
  have closed : ∀ text : List Char, text.getLast? = some '/' →
      (splitSlash text).getLast? = some [] := by
    intro text slash
    exact (getLast?_splitSlash_eq_nil_iff (by rintro rfl; cases slash)).mpr slash
  rw [whole]
  by_cases slash : path.toList.getLast? = some '/'
  · rw [if_pos slash, closed _ slash]
    by_cases already : joined.toList.getLast? = some '/'
    · rw [if_pos already, closed _ already]
    · rw [if_neg already, String.toList_append]
      exact closed _ List.getLast?_concat
  · rw [if_neg slash]
    obtain ⟨piece, free, last, text⟩ := exists_last_piece path.toList
    have counts : isComponent piece = true := by
      refine isComponent_iff.mpr ⟨?_, fun dot => noDot (dot ▸ last)⟩
      rintro rfl
      have text := mt String.toList_eq_nil_iff.mp present
      exact slash ((getLast?_splitSlash_eq_nil_iff text).mp last)
    rw [last]
    exact ends piece (getLast?_components_of_isComponent last counts)

/-- **The name of a file** stays when its path is made absolute. -/
theorem fileName?_absolute (root : isAbsolute workingDirectory.toList = true)
    (named : components path.toList ≠ []) :
    fileName? (absolute workingDirectory path) = fileName? path := by
  obtain ⟨-, parts⟩ := absolute_spec root path
  rw [fileName?_eq, fileName?_eq, parts, List.getLast?_append, List.getLast?_eq_some_getLast named]
  rfl

end Absolute

end Path

end TreeWire
