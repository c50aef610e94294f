import TreeWire.Source
import TreeWire.Proofs.Lists
import TreeWire.Proofs.Path

/-!
# Where paths lead

Walking a path visits directories and ends at a location. A directory in the middle of a path is
looked at by the next step as well, and so pieces that are no components can be left out, the last
one apart: a walk is a walk along the components. It follows that a path that is made absolute leads
to the same location from everywhere, unless it ends with a single dot.

Two stores that differ at one location and below lead every walk to the same place that keeps off
this location. A walk does if it does not name the location; and if nothing stands there, so does
every walk that comes to something. A store with more in it leads every walk to the same place that
succeeds without.

* `TreeWire.Store.walk_append`, `TreeWire.Store.walk_splitSlash` – walks piece by piece, and along
  components;
* `TreeWire.Store.Stands`, `TreeWire.Store.locate_absolute` – **absolute paths**;
* `TreeWire.Store.locate_join_eq_ok_iff` – **a name below a directory**;
* `TreeWire.Store.KeepsOff`, `TreeWire.Store.Avoids` – walks and paths that keep off a location;
* `TreeWire.Store.AgreeOff` – stores that differ below a location, with
  `TreeWire.Store.AgreeOff.walk_eq` for walks in them;
* `TreeWire.Store.read_eq_ok_iff`, `TreeWire.Store.create_eq_ok_iff` – where files are read and
  created;
* `TreeWire.Store.put_put`, `TreeWire.Store.read_put_self` – files that are written;
* `TreeWire.Source.trees_open` – what is read of data files.
-/

namespace TreeWire

namespace Store

open TreeWire.Path

variable {s t : Store} {l m : Location}

/-! ### Walks -/

/-- **One step of a walk**: what is left must be a directory, whatever the piece is. -/
def step (s : Store) (l : Location) (piece : List Char) : Except SystemError Location :=
  match s.get? l with
  | none => .error .noEntry
  | some (.file _) => .error .notDirectory
  | some .directory =>
    if !isComponent piece then .ok l
    else if piece = ['.', '.'] then .ok l.dropLast
    else if longestName < (String.ofList piece).utf8ByteSize then .error .nameTooLong
    else .ok (l ++ [String.ofList piece])

theorem walk_nil : s.walk l [] = .ok l := rfl

/-- **A walk goes step by step.** -/
theorem walk_cons (piece : List Char) (pieces : List (List Char)) :
    s.walk l (piece :: pieces) = s.step l piece >>= fun m => s.walk m pieces := by
  rw [walk, step]
  cases s.get? l with
  | none => rfl
  | some node =>
    cases node with
    | file contents => rfl
    | directory => simp only []; split_ifs <;> rfl

/-- **What a step can do.** -/
theorem step_eq_ok_iff {piece : List Char} :
    s.step l piece = .ok m ↔ s.get? l = some .directory ∧
      ((¬ isComponent piece = true ∧ m = l) ∨
        (piece = ['.', '.'] ∧ m = l.dropLast) ∨
        (isComponent piece = true ∧ piece ≠ ['.', '.'] ∧
          (String.ofList piece).utf8ByteSize ≤ longestName ∧ m = l ++ [String.ofList piece])) := by
  rw [step]
  cases s.get? l with
  | none => simp
  | some node =>
    cases node with
    | file contents => simp
    | directory =>
      simp only [true_and]
      by_cases counts : isComponent piece = true
      · rw [if_neg (show ¬ (!isComponent piece) = true by simp [counts])]
        by_cases up : piece = ['.', '.']
        · rw [if_pos up, Except.ok.injEq]
          constructor
          · exact fun same => Or.inr (Or.inl ⟨up, same.symm⟩)
          · rintro (⟨skipped, -⟩ | ⟨-, rfl⟩ | ⟨-, down, -⟩)
            · exact absurd counts skipped
            · rfl
            · exact absurd up down
        · by_cases long : longestName < (String.ofList piece).utf8ByteSize
          · simp [counts, up, long, Nat.not_le.mpr long]
          · simp [counts, up, long, Nat.not_lt.mp long, eq_comm]
      · have other : piece ≠ ['.', '.'] := by rintro rfl; exact counts (by decide)
        simp [counts, other, eq_comm]

/-- Below something that is no directory, no piece leads anywhere. -/
theorem step_eq_of_ne_directory (h : s.get? l ≠ some .directory) (p q : List Char) :
    s.step l p = s.step l q := by
  rw [step, step]
  cases found : s.get? l with
  | none => rfl
  | some node =>
    cases node with
    | file contents => rfl
    | directory => exact absurd found h

/-- A step only depends on what it starts from. -/
theorem step_congr (h : t.get? l = s.get? l) (piece : List Char) :
    t.step l piece = s.step l piece := by
  rw [step, step, h]

/-- **A walk of two parts.** -/
theorem walk_append (front rest : List (List Char)) :
    s.walk l (front ++ rest) = s.walk l front >>= fun m => s.walk m rest := by
  induction front generalizing l with
  | nil => rfl
  | cons piece front ih =>
    rw [List.cons_append, walk_cons, walk_cons, bind_assoc]
    exact bind_congr fun m => ih

/-- **Pieces that are no components** can be left out in front of another piece. -/
theorem walk_filter_append (front : List (List Char)) {rest : List (List Char)} (more : rest ≠ []) :
    s.walk l (front ++ rest) = s.walk l (front.filter isComponent ++ rest) := by
  induction front generalizing l with
  | nil => rfl
  | cons piece front ih =>
    by_cases counts : isComponent piece = true
    · rw [List.filter_cons_of_pos counts, List.cons_append, List.cons_append, walk_cons, walk_cons]
      exact bind_congr fun m => ih
    rw [List.filter_cons_of_neg counts, List.cons_append, walk_cons]
    by_cases directory : s.get? l = some .directory
    · have stay : s.step l piece = .ok l := step_eq_ok_iff.mpr ⟨directory, Or.inl ⟨counts, rfl⟩⟩
      rw [stay]
      exact ih
    · -- the next piece finds out as well that there is no directory
      obtain ⟨next, others, split⟩ := List.exists_cons_of_ne_nil
        (show front.filter isComponent ++ rest ≠ [] by simp [more])
      rw [split, walk_cons, step_eq_of_ne_directory directory piece next]
      have stuck : ∀ m, s.step l next ≠ .ok m := fun m ok => directory (step_eq_ok_iff.mp ok).1
      cases outcome : s.step l next with
      | error e => rfl
      | ok m => exact absurd outcome (stuck m)

/-- **A walk along a path** is a walk along its components, and asks for a directory at the end if
the path ends with a slash. -/
theorem walk_splitSlash {path : List Char} (noDot : (splitSlash path).getLast? ≠ some ['.']) :
    s.walk l (splitSlash path) =
      s.walk l (components path ++ if (splitSlash path).getLast? = some [] then [[]] else []) := by
  obtain ⟨piece, -, last, -⟩ := exists_last_piece path
  obtain ⟨front, split⟩ := List.getLast?_eq_some_iff.mp last
  rw [last] at noDot ⊢
  rw [components, split, walk_filter_append front (List.cons_ne_nil _ _), List.filter_append]
  by_cases empty : piece = []
  · subst empty
    simp [isComponent]
  · have counts : isComponent piece = true :=
      isComponent_iff.mpr ⟨empty, fun dot => noDot (congrArg some dot)⟩
    simp [empty, counts]

/-- Names on a walk are no longer than a file system takes. -/
theorem size_le_of_walk {pieces : List (List Char)} (walked : s.walk l pieces = .ok m)
    {piece : List Char} (mem : piece ∈ pieces) (counts : isComponent piece = true) :
    (String.ofList piece).utf8ByteSize ≤ longestName := by
  induction pieces generalizing l with
  | nil => cases mem
  | cons first pieces ih =>
    rw [walk_cons] at walked
    obtain ⟨k, here, there⟩ := bind_eq_ok_iff.mp walked
    rcases List.mem_cons.mp mem with rfl | mem
    · rcases (step_eq_ok_iff.mp here).2 with ⟨skipped, -⟩ | ⟨rfl, -⟩ | ⟨-, -, short, -⟩
      · exact absurd counts skipped
      · decide
      · exact short
    · exact ih there mem

/-! ### Absolute paths -/

/-- **A directory that is where its path says.** -/
structure Stands (s : Store) (path : String) : Prop where
  /-- The path begins at the root. -/
  root : isAbsolute path.toList = true
  /-- The path can be handed to the operating system. -/
  noZero : '\x00' ∉ path.toList
  /-- The components lead there. -/
  leads : s.walk [] (components path.toList) = .ok (locationOf path)

/-- **A path that leads to the same place from everywhere** once it is made absolute. It does not
end with a single dot, which is lost, and it is short enough before and after. -/
structure Portable (workingDirectory path : String) : Prop where
  /-- The last piece is no single dot. -/
  noDot : (splitSlash path.toList).getLast? ≠ some ['.']
  /-- The path can be walked. -/
  short : path.utf8ByteSize ≤ longestPath
  /-- The absolute path can be walked. -/
  absolute_short : (absolute workingDirectory path).utf8ByteSize ≤ longestPath

/-- A zero character in an absolute path comes from the path itself. -/
theorem zero_mem_absolute_iff {workingDirectory path : String}
    (stands : s.Stands workingDirectory) :
    '\x00' ∈ (absolute workingDirectory path).toList ↔ '\x00' ∈ path.toList := by
  have inComponents : ∀ text : List Char,
      '\x00' ∈ text ↔ ∃ piece ∈ components text, '\x00' ∈ piece := by
    intro text
    have slash : '\x00' ≠ '/' := by decide
    rw [← exists_mem_splitAtChar_iff slash]
    constructor
    · rintro ⟨piece, mem, zero⟩
      refine ⟨piece, List.mem_filter.mpr ⟨mem, isComponent_iff.mpr ⟨?_, ?_⟩⟩, zero⟩
      · rintro rfl; cases zero
      · rintro rfl; exact absurd zero (by decide)
    · rintro ⟨piece, mem, zero⟩
      exact ⟨piece, (List.mem_filter.mp mem).1, zero⟩
  obtain ⟨-, parts⟩ := absolute_spec stands.root path
  rw [inComponents, parts, inComponents path.toList]
  have none : ¬ ∃ piece ∈ components workingDirectory.toList, '\x00' ∈ piece := fun found =>
    stands.noZero ((inComponents _).mpr found)
  by_cases root : isAbsolute path.toList = true
  · rw [if_pos root, List.nil_append]
  · rw [if_neg root]
    simp only [List.mem_append, or_and_right, exists_or, none, false_or]

/-- **An absolute path leads to the same place** from everywhere as the path itself from the working
directory. -/
theorem locate_absolute {workingDirectory path : String} (stands : s.Stands workingDirectory)
    (present : path ≠ "") (portable : Portable workingDirectory path) (directory : String) :
    s.locate directory (absolute workingDirectory path) = s.locate workingDirectory path := by
  obtain ⟨root, parts⟩ := absolute_spec stands.root path
  have ends := getLast?_splitSlash_absolute stands.root present portable.noDot
  have present' : absolute workingDirectory path ≠ "" := by
    intro empty
    rw [empty] at root
    cases root
  have zero : '\x00' ∈ (absolute workingDirectory path).toList ↔ '\x00' ∈ path.toList :=
    zero_mem_absolute_iff stands
  have walks : s.walk [] (splitSlash (absolute workingDirectory path).toList) =
      s.walk (if isAbsolute path.toList = true then [] else locationOf workingDirectory)
        (splitSlash path.toList) := by
    rw [walk_splitSlash (ends ▸ portable.noDot), walk_splitSlash portable.noDot, ends, parts]
    by_cases absolute : isAbsolute path.toList = true
    · simp only [if_pos absolute, List.nil_append]
    · rw [if_neg absolute, if_neg absolute, List.append_assoc, walk_append, stands.leads]
      rfl
  have zeros : (absolute workingDirectory path).toList.contains '\x00' =
      path.toList.contains '\x00' := by
    rw [Bool.eq_iff_iff, List.contains_iff_mem, List.contains_iff_mem, zero]
  rw [locate, locate, if_neg present', if_neg present, zeros,
    if_neg (Nat.not_lt.mpr portable.absolute_short), if_neg (Nat.not_lt.mpr portable.short)]
  simp only [root, if_true]
  rw [walks]

/-- What stands at an absolute path. -/
theorem node_absolute {workingDirectory path : String} (stands : s.Stands workingDirectory)
    (present : path ≠ "") (portable : Portable workingDirectory path) (directory : String) :
    s.node directory (absolute workingDirectory path) = s.node workingDirectory path := by
  rw [node, node, locate_absolute stands present portable]

/-! ### Stores with more in them -/

/-- **A walk that succeeds** also does in a store in which the same directories are. -/
theorem walk_mono (directories : ∀ k, s.get? k = some .directory → t.get? k = some .directory)
    {pieces : List (List Char)} (walked : s.walk l pieces = .ok m) : t.walk l pieces = .ok m := by
  induction pieces generalizing l with
  | nil => exact walked
  | cons piece pieces ih =>
    rw [walk_cons] at walked ⊢
    obtain ⟨k, here, there⟩ := bind_eq_ok_iff.mp walked
    obtain ⟨directory, moved⟩ := step_eq_ok_iff.mp here
    exact bind_eq_ok_iff.mpr ⟨k, step_eq_ok_iff.mpr ⟨directories l directory, moved⟩, ih there⟩

/-- **A path that leads somewhere**: it is not empty, it can be handed to the operating system, and
walking it succeeds. -/
theorem locate_eq_ok_iff {workingDirectory path : String} :
    s.locate workingDirectory path = .ok l ↔
      path ≠ "" ∧ '\x00' ∉ path.toList ∧ path.utf8ByteSize ≤ longestPath ∧
        s.walk (if isAbsolute path.toList = true then [] else locationOf workingDirectory)
          (splitSlash path.toList) = .ok l := by
  rw [locate]
  by_cases present : path = ""
  · simp [present]
  by_cases zero : path.toList.contains '\x00' = true
  · rw [if_neg present, if_pos zero]
    exact ⟨nofun, fun ⟨_, noZero, _⟩ => absurd (List.contains_iff_mem.mp zero) noZero⟩
  by_cases long : longestPath < path.utf8ByteSize
  · rw [if_neg present, if_neg zero, if_pos long]
    exact ⟨nofun, fun ⟨_, _, short, _⟩ => absurd long (Nat.not_lt.mpr short)⟩
  · rw [if_neg present, if_neg zero, if_neg long]
    rw [List.contains_iff_mem] at zero
    exact ⟨fun walked => ⟨present, zero, Nat.not_lt.mp long, walked⟩,
      fun ⟨_, _, _, walked⟩ => walked⟩

theorem locate_mono (directories : ∀ k, s.get? k = some .directory → t.get? k = some .directory)
    {workingDirectory path : String} (located : s.locate workingDirectory path = .ok l) :
    t.locate workingDirectory path = .ok l := by
  obtain ⟨present, noZero, short, walked⟩ := locate_eq_ok_iff.mp located
  exact locate_eq_ok_iff.mpr ⟨present, noZero, short, walk_mono directories walked⟩

/-! ### Names in a directory -/

/-- A walk that comes somewhere does so along the components alone. -/
theorem walk_filter {pieces : List (List Char)} (walked : s.walk l pieces = .ok m) :
    s.walk l (pieces.filter isComponent) = .ok m := by
  induction pieces generalizing l with
  | nil => exact walked
  | cons piece pieces ih =>
    rw [walk_cons] at walked
    obtain ⟨k, here, there⟩ := bind_eq_ok_iff.mp walked
    by_cases counts : isComponent piece = true
    · rw [List.filter_cons_of_pos counts, walk_cons]
      exact bind_eq_ok_iff.mpr ⟨k, here, ih there⟩
    · rw [List.filter_cons_of_neg counts]
      rcases (step_eq_ok_iff.mp here).2 with ⟨-, rfl⟩ | ⟨rfl, -⟩ | ⟨component, -⟩
      · exact ih there
      · exact absurd (by decide) counts
      · exact absurd component counts

/-- **A walk that ends with a name** comes to what has this name in the directory in front of it. -/
theorem walk_concat {pieces : List (List Char)} {name : String}
    (counts : isComponent name.toList = true) (down : name ≠ "..") :
    s.walk l (pieces ++ [name.toList]) = .ok m ↔
      ∃ k, s.walk l pieces = .ok k ∧ s.get? k = some .directory ∧
        name.utf8ByteSize ≤ longestName ∧ m = k ++ [name] := by
  have other : name.toList ≠ ['.', '.'] := fun same => down (String.toList_inj.mp same)
  rw [walk_append, bind_eq_ok_iff]
  refine exists_congr fun k => and_congr_right fun _ => ?_
  rw [walk_cons, bind_eq_ok_iff]
  simp [walk_nil, step_eq_ok_iff, counts, other]

section Names

variable {workingDirectory path directory name : String}

/-- **A path that ends with a name** leads to what has this name in the directory that the other
components lead to. -/
theorem exists_of_locate (parts : components path.toList =
      components directory.toList ++ [name.toList] ∧
        isAbsolute directory.toList = isAbsolute path.toList)
    (counts : isComponent name.toList = true) (down : name ≠ "..")
    (located : s.locate workingDirectory path = .ok l) :
    ∃ k, s.walk (if isAbsolute directory.toList = true then [] else locationOf workingDirectory)
        (components directory.toList) = .ok k ∧ l = k ++ [name] := by
  obtain ⟨-, -, -, walked⟩ := locate_eq_ok_iff.mp located
  have along := walk_filter walked
  change s.walk _ (components path.toList) = _ at along
  rw [parts.1, ← parts.2, walk_concat counts down] at along
  obtain ⟨k, there, -, -, ended⟩ := along
  exact ⟨k, there, ended⟩

/-- A walk along a name below a directory comes to the directory first. -/
theorem walk_splitSlash_join (present : directory ≠ "") (free : '/' ∉ name.toList) :
    s.walk l (splitSlash (join directory name).toList) =
      s.walk l (splitSlash directory.toList ++ [name.toList]) := by
  obtain ⟨front, text, -, same, -⟩ :=
    exists_toList_join present (not_isAbsolute_of_notMem free)
  rw [text, splitSlash_append_slash, splitSlash_of_notMem free,
    walk_filter_append (splitSlash front) (List.cons_ne_nil _ _),
    walk_filter_append (splitSlash directory.toList) (List.cons_ne_nil _ _)]
  exact congrArg (s.walk l <| · ++ [name.toList]) same

/-- **A name below a directory** leads to what has this name in the directory, if it can be
walked. -/
theorem locate_join_eq_ok_iff (present : directory ≠ "") (free : '/' ∉ name.toList)
    (counts : isComponent name.toList = true) (down : name ≠ "..") :
    s.locate workingDirectory (join directory name) = .ok l ↔
      ∃ k, s.locate workingDirectory directory = .ok k ∧ s.get? k = some .directory ∧
        '\x00' ∉ name.toList ∧ name.utf8ByteSize ≤ longestName ∧
          (join directory name).utf8ByteSize ≤ longestPath ∧ l = k ++ [name] := by
  have relative := not_isAbsolute_of_notMem free
  have present' : join directory name ≠ "" := by
    obtain ⟨front, text, -⟩ := exists_toList_join present relative
    intro empty
    rw [empty] at text
    exact List.append_ne_nil_of_right_ne_nil _ (List.cons_ne_nil _ _) text.symm
  rw [locate_eq_ok_iff, mem_join_iff relative (by decide), not_or,
    walk_splitSlash_join present free, (components_join present free counts).2,
    walk_concat counts down]
  constructor
  · rintro ⟨-, ⟨noZero, noZero'⟩, short, k, walked, there, shortName, rfl⟩
    exact ⟨k, locate_eq_ok_iff.mpr ⟨present, noZero, (utf8ByteSize_le_join relative).trans short,
      walked⟩, there, noZero', shortName, short, rfl⟩
  · rintro ⟨k, located, there, noZero', shortName, short, rfl⟩
    obtain ⟨-, noZero, -, walked⟩ := locate_eq_ok_iff.mp located
    exact ⟨present', ⟨noZero, noZero'⟩, short, k, walked, there, shortName, rfl⟩

/-- **A name below a directory** from the root leads below the location of the directory, from
everywhere. -/
theorem locate_join (located : s.locate workingDirectory directory = .ok l)
    (there : s.get? l = some .directory) (root : isAbsolute directory.toList = true)
    (free : '/' ∉ name.toList) (counts : isComponent name.toList = true) (down : name ≠ "..")
    (noZero : '\x00' ∉ name.toList) (shortName : name.utf8ByteSize ≤ longestName)
    (short : (join directory name).utf8ByteSize ≤ longestPath) (elsewhere : String) :
    s.locate elsewhere (join directory name) = .ok (l ++ [name]) ∧
      isAbsolute (join directory name).toList = true := by
  have same : s.locate elsewhere directory = .ok l := by
    rw [locate_eq_ok_iff, if_pos root] at located ⊢
    exact located
  have present := (locate_eq_ok_iff.mp located).1
  exact ⟨(locate_join_eq_ok_iff present free counts down).mpr
    ⟨l, same, there, noZero, shortName, short, rfl⟩,
    isAbsolute_join root (not_isAbsolute_of_notMem free)⟩

end Names

/-! ### Walks that keep off a location -/

/-- **A walk keeps off a location** if it comes neither there nor below. -/
def KeepsOff (s : Store) (l : Location) : Location → List (List Char) → Prop
  | k, [] => ¬ l <+: k
  | k, piece :: pieces => ¬ l <+: k ∧ ∀ m, s.step k piece = .ok m → s.KeepsOff l m pieces

/-- A location at which nothing stands is not the root. -/
theorem not_prefix_nil (fresh : s.get? l = none) : ¬ l <+: [] := by
  rw [List.prefix_nil]
  rintro rfl
  cases fresh

/-- A step that comes to a location or below comes to the location itself, down from above. -/
theorem eq_of_step {k : Location} {piece : List Char} (stepped : s.step k piece = .ok m)
    (off : ¬ l <+: k) (inside : l <+: m) : m = l ∧ l = k ++ [String.ofList piece] := by
  rcases (step_eq_ok_iff.mp stepped).2 with ⟨-, rfl⟩ | ⟨-, rfl⟩ | ⟨-, -, -, rfl⟩
  · exact absurd inside off
  · exact absurd (inside.trans (List.dropLast_prefix k)) off
  · rcases List.prefix_concat_iff.mp inside with same | inside
    · exact ⟨same.symm, same⟩
    · exact absurd inside off

namespace KeepsOff

variable {k : Location} {pieces : List (List Char)}

/-- A walk that keeps off a location does not end there. -/
theorem not_prefix (keeps : s.KeepsOff l k pieces) (walked : s.walk k pieces = .ok m) :
    ¬ l <+: m := by
  induction pieces generalizing k with
  | nil =>
    obtain rfl : k = m := Except.ok.inj walked
    exact keeps
  | cons piece pieces ih =>
    rw [walk_cons] at walked
    obtain ⟨next, here, there⟩ := bind_eq_ok_iff.mp walked
    exact ih (keeps.2 next here) there

/-- **A walk keeps off a location** that it does not name. -/
theorem of_notMem {base : Location} {name : String} (avoid : name.toList ∉ pieces)
    (off : ¬ base ++ [name] <+: k) : s.KeepsOff (base ++ [name]) k pieces := by
  induction pieces generalizing k with
  | nil => exact off
  | cons piece pieces ih =>
    obtain ⟨other, later⟩ := not_or.mp (mt List.mem_cons.mpr avoid)
    refine ⟨off, fun m stepped => ih later fun inside => ?_⟩
    have same := (List.append_inj' (eq_of_step stepped off inside).2 rfl).2
    obtain rfl : name = String.ofList piece := by simpa using same
    exact other String.toList_ofList

/-- **A walk keeps off a location** at which nothing stands if it comes to something that does. -/
theorem of_walk (fresh : s.get? l = none) (off : ¬ l <+: k) (walked : s.walk k pieces = .ok m)
    (there : s.get? m ≠ none) : s.KeepsOff l k pieces := by
  induction pieces generalizing k with
  | nil => exact off
  | cons piece pieces ih =>
    rw [walk_cons] at walked
    obtain ⟨next, here, walked⟩ := bind_eq_ok_iff.mp walked
    refine ⟨off, fun m' stepped => ?_⟩
    obtain rfl : next = m' := Except.ok.inj (here.symm.trans stepped)
    refine ih (fun inside => ?_) walked
    obtain ⟨rfl, -⟩ := eq_of_step here off inside
    -- nothing stands here, so that the walk can neither go on nor end
    cases pieces with
    | nil =>
      obtain rfl : next = m := Except.ok.inj walked
      exact there fresh
    | cons piece' pieces =>
      rw [walk_cons] at walked
      obtain ⟨after, further, -⟩ := bind_eq_ok_iff.mp walked
      rw [(step_eq_ok_iff.mp further).1] at fresh
      cases fresh

/-- It only matters where there are directories. -/
theorem congr (directories : ∀ k, t.get? k = some .directory ↔ s.get? k = some .directory)
    (keeps : s.KeepsOff l k pieces) : t.KeepsOff l k pieces := by
  induction pieces generalizing k with
  | nil => exact keeps
  | cons piece pieces ih =>
    refine ⟨keeps.1, fun m stepped => ih (keeps.2 m ?_)⟩
    rw [step_eq_ok_iff, directories] at stepped
    exact step_eq_ok_iff.mpr stepped

end KeepsOff

/-- **A path avoids a location** if the walk along it keeps off. -/
def Avoids (s : Store) (l : Location) (workingDirectory path : String) : Prop :=
  s.KeepsOff l (if isAbsolute path.toList = true then [] else locationOf workingDirectory)
    (splitSlash path.toList)

namespace Avoids

variable {workingDirectory path : String}

/-- A path that avoids a location does not lead there. -/
theorem not_prefix (avoids : s.Avoids l workingDirectory path)
    (located : s.locate workingDirectory path = .ok m) : ¬ l <+: m :=
  KeepsOff.not_prefix avoids (locate_eq_ok_iff.mp located).2.2.2

/-- A path from the root that leads to something avoids all locations at which nothing stands. -/
theorem of_locate (fresh : s.get? l = none) (root : isAbsolute path.toList = true)
    (located : s.locate workingDirectory path = .ok m) (there : s.get? m ≠ none) :
    s.Avoids l workingDirectory path := by
  obtain ⟨-, -, -, walked⟩ := locate_eq_ok_iff.mp located
  refine KeepsOff.of_walk fresh ?_ walked there
  rw [if_pos root]
  exact not_prefix_nil fresh

/-- **A path avoids a location** that it does not name, if the working directory lies elsewhere. -/
theorem of_notMem {base : Location} {name : String} (place : l = base ++ [name])
    (avoid : name.toList ∉ splitSlash path.toList) (off : ¬ l <+: locationOf workingDirectory) :
    s.Avoids l workingDirectory path := by
  subst place
  refine KeepsOff.of_notMem avoid ?_
  by_cases root : isAbsolute path.toList = true
  · rw [if_pos root, List.prefix_nil]
    simp
  · rwa [if_neg root]

end Avoids

/-! ### Stores that differ below a location -/

/-- **Two stores agree off a location**: they differ at most there and below. -/
def AgreeOff (l : Location) (s t : Store) : Prop := ∀ k, ¬ l <+: k → t.get? k = s.get? k

namespace AgreeOff

theorem refl (l : Location) (s : Store) : AgreeOff l s s := fun _ _ => rfl

theorem trans {u : Store} (first : AgreeOff l s t) (second : AgreeOff l t u) : AgreeOff l s u :=
  fun k off => (second k off).trans (first k off)

/-- Something more at the location or below. -/
theorem put_below (agree : AgreeOff l s t) (below : l <+: m) (present : m ≠ []) (n : Node) :
    AgreeOff l s (t.put m n) := by
  intro k off
  have other : k ≠ m := by rintro rfl; exact off below
  rw [get?_put present, if_neg other]
  exact agree k off

/-- The same thing at the same location. -/
theorem put_both (agree : AgreeOff l s t) (present : m ≠ []) (n : Node) :
    AgreeOff l (s.put m n) (t.put m n) := by
  intro k off
  rw [get?_put present, get?_put present, agree k off]

/-- Nothing left at the location and below. -/
theorem remove (agree : AgreeOff l s t) : AgreeOff l s (t.remove l) := by
  intro k off
  rw [← agree k off, get?, get?]
  by_cases root : k = []
  · rw [if_pos root, if_pos root]
  rw [if_neg root, if_neg root, Store.remove, List.find?_filter]
  congr 2
  funext e
  by_cases here : e.1 = k
  · have kept : l.isPrefixOf k = false := by
      rw [← Bool.not_eq_true, List.isPrefixOf_iff_prefix]
      exact off
    simp [here, kept]
  · simp [here]

section Walks

variable {k : Location} {pieces : List (List Char)} {workingDirectory path : String}

/-- **Walks agree** that keep off the location. -/
theorem walk_eq (agree : AgreeOff l s t) (keeps : s.KeepsOff l k pieces) :
    t.walk k pieces = s.walk k pieces := by
  induction pieces generalizing k with
  | nil => rfl
  | cons piece pieces ih =>
    rw [walk_cons, walk_cons, step_congr (agree k keeps.1)]
    cases stepped : s.step k piece with
    | error e => rfl
    | ok m => exact ih (keeps.2 m stepped)

/-- **Paths agree** that avoid the location. -/
theorem locate_eq (agree : AgreeOff l s t) (avoids : s.Avoids l workingDirectory path) :
    t.locate workingDirectory path = s.locate workingDirectory path := by
  rw [locate, locate]
  simp only [agree.walk_eq avoids]

/-- Directories that are where their paths say stay there. -/
theorem stands (agree : AgreeOff l s t) (fresh : s.get? l = none) (stands : s.Stands path)
    (there : s.get? (locationOf path) = some .directory) : t.Stands path := by
  have keeps := KeepsOff.of_walk fresh (not_prefix_nil fresh) stands.leads (by simp [there])
  exact ⟨stands.root, stands.noZero, (agree.walk_eq keeps).trans stands.leads⟩

/-- What stands at such a path. -/
theorem node_eq (agree : AgreeOff l s t) (avoids : s.Avoids l workingDirectory path) :
    t.node workingDirectory path = s.node workingDirectory path := by
  rw [node, node, agree.locate_eq avoids]
  cases located : s.locate workingDirectory path with
  | error e => rfl
  | ok m => simp only [bind, Except.bind, agree m (avoids.not_prefix located)]

/-- What can be read at such a path. -/
theorem read_eq (agree : AgreeOff l s t) (avoids : s.Avoids l workingDirectory path) :
    t.read workingDirectory path = s.read workingDirectory path := by
  rw [Store.read, Store.read, agree.node_eq avoids]

end Walks

end AgreeOff

/-! ### Files -/

section Files

variable {workingDirectory path : String} {contents : Bytes}

/-- **A file that can be read.** -/
theorem read_eq_ok_iff : s.read workingDirectory path = .ok contents ↔
    ∃ l, s.locate workingDirectory path = .ok l ∧ s.get? l = some (.file contents) := by
  rw [read, node]
  cases s.locate workingDirectory path with
  | error e => simp [bind, Except.bind]
  | ok l =>
    cases found : s.get? l with
    | none => simp [bind, Except.bind, found]
    | some n => cases n <;> simp [bind, Except.bind, found]

/-- A path whose last piece is no component leads to a directory, if anywhere. -/
theorem get?_of_not_isComponent {piece : List Char}
    (last : (splitSlash path.toList).getLast? = some piece) (counts : ¬ isComponent piece = true)
    (located : s.locate workingDirectory path = .ok l) : s.get? l = some .directory := by
  obtain ⟨-, -, -, walked⟩ := locate_eq_ok_iff.mp located
  obtain ⟨front, split⟩ := List.getLast?_eq_some_iff.mp last
  rw [split, walk_append] at walked
  obtain ⟨m, -, ended⟩ := bind_eq_ok_iff.mp walked
  rw [walk_cons] at ended
  obtain ⟨k, stepped, same⟩ := bind_eq_ok_iff.mp ended
  obtain rfl : k = l := Except.ok.inj same
  obtain ⟨directory, ⟨-, rfl⟩ | ⟨rfl, -⟩ | ⟨component, -⟩⟩ := step_eq_ok_iff.mp stepped
  · exact directory
  · exact absurd (by decide) counts
  · exact absurd component counts

/-- A path with a slash at its end leads to a directory, if anywhere. -/
theorem get?_of_slash (slash : path.toList.getLast? = some '/')
    (located : s.locate workingDirectory path = .ok l) : s.get? l = some .directory := by
  have present : path.toList ≠ [] := by
    intro empty
    rw [empty] at slash
    cases slash
  have last := (getLast?_splitSlash_eq_nil_iff present).mpr slash
  exact get?_of_not_isComponent last (by decide) located

/-- **The path of a file has components.** -/
theorem components_ne_nil_of_read (read : s.read workingDirectory path = .ok contents) :
    components path.toList ≠ [] := by
  intro none
  obtain ⟨piece, -, last, -⟩ := exists_last_piece path.toList
  have counts : ¬ isComponent piece = true := by
    intro counts
    have ends := getLast?_components_of_isComponent last counts
    rw [none] at ends
    cases ends
  obtain ⟨l, located, file⟩ := read_eq_ok_iff.mp read
  rw [get?_of_not_isComponent last counts located] at file
  cases file

theorem dropSlashes_eq_self (noSlash : path.toList.getLast? ≠ some '/') :
    dropSlashes path = path := by
  have kept : path.toList.reverse.dropWhile (· == '/') = path.toList.reverse := by
    rw [← List.head?_reverse] at noSlash
    cases whole : path.toList.reverse with
    | nil => rfl
    | cons c cs =>
      have other : c ≠ '/' := by
        rintro rfl
        exact noSlash (by rw [whole]; rfl)
      simp [other]
  rw [dropSlashes, kept, List.reverse_reverse, String.ofList_toList]

/-- **Where a file can be created**: at a path without a slash at its end, and not in the place of a
directory. -/
theorem create_eq_ok_iff {u : Store} : s.create workingDirectory path = .ok (l, u) ↔
    path.toList.getLast? ≠ some '/' ∧ s.locate workingDirectory path = .ok l ∧
      s.get? l ≠ some .directory ∧ u = s.put l (.file []) := by
  rw [create]
  by_cases slash : path.toList.getLast? = some '/'
  · refine ⟨fun created => ?_, fun ⟨open_, _⟩ => absurd slash open_⟩
    split at created
    · -- below the slashes there is a file, a directory, or nothing
      split at created
      · cases created
      · cases created
      · split at created <;> cases created
    · split at created
      · cases created
      · next located =>
        rw [get?_of_slash slash located] at created
        cases created
  · rw [if_neg fun ⟨other, _⟩ => other (dropSlashes_eq_self slash)]
    cases s.locate workingDirectory path with
    | error e => simp
    | ok m =>
      by_cases directory : s.get? m = some .directory
      · simp only [directory]
        refine ⟨nofun, fun ⟨_, found, other, _⟩ => ?_⟩
        obtain rfl : m = l := Except.ok.inj found
        exact absurd directory other
      · simp only []
        constructor
        · intro made
          obtain ⟨rfl, rfl⟩ := Prod.mk.inj (Except.ok.inj made)
          exact ⟨slash, rfl, directory, rfl⟩
        · rintro ⟨-, found, -, rfl⟩
          obtain rfl : m = l := Except.ok.inj found
          rfl

/-! ### Files that are written -/

theorem putNode_putNode (l : Location) (m n : Node) (nodes : List (Location × Node)) :
    putNode l n (putNode l m nodes) = putNode l n nodes := by
  induction nodes with
  | nil => simp [putNode]
  | cons e rest ih =>
    by_cases here : e.1 = l
    · simp [putNode, here]
    · simp [putNode, here, ih]

/-- **What is put somewhere last** is all that is left there. -/
theorem put_put (s : Store) (l : Location) (m n : Node) : (s.put l m).put l n = s.put l n :=
  congrArg Store.mk (putNode_putNode l m n s.nodes)

/-- What is no directory does not stand at the root. -/
theorem ne_nil_of_free (free : s.get? l ≠ some .directory) : l ≠ [] := by
  rintro rfl
  exact free rfl

/-- A file in the place of what is no directory leaves all directories. -/
theorem get?_put_eq_directory_iff (free : s.get? l ≠ some .directory) {k : Location} :
    (s.put l (.file contents)).get? k = some .directory ↔ s.get? k = some .directory := by
  rw [get?_put (ne_nil_of_free free)]
  by_cases here : k = l
  · rw [if_pos here, here]
    exact ⟨nofun, fun directory => absurd directory free⟩
  · rw [if_neg here]

/-- Paths that lead somewhere still do with a file in the place of what is no directory. -/
theorem locate_put (free : s.get? l ≠ some .directory)
    (located : s.locate workingDirectory path = .ok m) :
    (s.put l (.file contents)).locate workingDirectory path = .ok m :=
  locate_mono (fun _ => (get?_put_eq_directory_iff free).mpr) located

/-- **A file that is written** can be read. -/
theorem read_put_self (free : s.get? l ≠ some .directory)
    (located : s.locate workingDirectory path = .ok l) :
    (s.put l (.file contents)).read workingDirectory path = .ok contents :=
  read_eq_ok_iff.mpr ⟨l, locate_put free located,
    by rw [get?_put (ne_nil_of_free free), if_pos rfl]⟩

/-- **A file elsewhere** is read as before. -/
theorem read_put_of_ne {bytes : Bytes} (free : s.get? l ≠ some .directory)
    (read : s.read workingDirectory path = .ok contents)
    (elsewhere : s.locate workingDirectory path ≠ .ok l) :
    (s.put l (.file bytes)).read workingDirectory path = .ok contents := by
  obtain ⟨k, located, file⟩ := read_eq_ok_iff.mp read
  have other : k ≠ l := by
    rintro rfl
    exact elsewhere located
  exact read_eq_ok_iff.mpr ⟨k, locate_put free located,
    by rw [get?_put (ne_nil_of_free free), if_neg other, file]⟩

end Files

end Store

/-! ### Data files -/

namespace Source

/-- **The trees of a data file** are those of a file that is named like a dump. -/
theorem trees_open (s : Store) (workingDirectory path : String) :
    (Source.open s workingDirectory path).toOption.map Source.trees =
      if isDump path then
        (s.read workingDirectory path).toOption.bind fun contents =>
          (Dump.read (feed path (.file contents))).toOption
      else none := by
  rw [Source.open]
  by_cases dump : isDump path = true
  · rw [if_pos dump, if_pos dump, ofDump, Store.read]
    cases s.node workingDirectory path with
    | error e => rfl
    | ok n =>
      cases n with
      | directory => rfl
      | file contents =>
        cases read : Dump.read (feed path (.file contents)) <;>
          simp [read, bind, Except.bind, Except.toOption]
  · rw [if_neg dump, if_neg dump]
    split <;> rfl

/-- **A file of the same name** with the same contents has the same trees. -/
theorem trees_open_congr {s t : Store} {workingDirectory path directory other : String}
    (read : t.read directory other = s.read workingDirectory path)
    (name : ∀ contents, s.read workingDirectory path = .ok contents →
      Path.fileName? other = Path.fileName? path) :
    (Source.open t directory other).toOption.map Source.trees =
      (Source.open s workingDirectory path).toOption.map Source.trees := by
  rw [trees_open, trees_open, read]
  cases found : s.read workingDirectory path with
  | error e => simp only [Except.toOption, Option.bind_none, ite_self]
  | ok contents =>
    have same := name contents found
    have dump : isDump other = isDump path := by rw [isDump, isDump, lowerName, lowerName, same]
    have feeds : feed other (.file contents) = feed path (.file contents) := by
      rw [feed, feed, isCompressed, isCompressed, Path.extension?, Path.extension?, same]
    simp only [Except.toOption, Option.bind_some, dump, feeds]

end Source

end TreeWire
