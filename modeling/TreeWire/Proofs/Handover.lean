import TreeWire.Build
import TreeWire.Proofs.Process
import TreeWire.Proofs.Workspace

/-!
# Conversions that are handed over

A conversion can be handed over to a process in a workspace. The process is given a copy of the
descriptor set there, and absolute paths in place of the others. This file says when the process
does what the conversion does: when the values can be words and have nothing to replace, when the
paths are portable, and when they avoid the workspace. Under these conditions the process reads the
same inputs and writes to the same place. The two stores are never the same, as one of them has the
workspace in it; they agree everywhere else, and this is carried through the run.

Paths that cannot be used at all are a case of their own. With an empty one, or with one that holds
a zero character, there is no process to speak of: it cannot be started, and the conversion fails
too.

* `TreeWire.Build.Ready`, `TreeWire.Build.Transferable` – hosts and conversions that fit;
* `TreeWire.Build.staged` – the workspace of the process;
* `TreeWire.Build.start_itself` – the process that is started;
* `TreeWire.Build.onStore_inside` – **it reads and writes the same**;
* `TreeWire.Build.convertInside_agree` – **it succeeds exactly if the conversion does**.
-/

namespace TreeWire

open Store TreeWire.Path

namespace Build

/-! ### What a process can be handed over -/

/-- The conversion that a process in a workspace is asked for, given the name of the descriptor set
there. -/
def inside (workingDirectory : String) (w : Workspace) (name : String) (c : Conversion) :
    Conversion :=
  { c with
    descriptor := Path.join w.path name
    source := Path.absolute workingDirectory c.source
    output := Path.absolute workingDirectory c.output }

/-- **A path that can be handed over**: it leads to the same place when it is made absolute, it
avoids the workspace, and the absolute path has no references. -/
structure Carried (s : Store) (w : Workspace) (workingDirectory path : String) : Prop where
  /-- It leads to the same place. -/
  portable : Portable workingDirectory path
  /-- It avoids the workspace. -/
  avoids : s.Avoids w.location workingDirectory path
  /-- The absolute path has no references. -/
  fixed : ∀ lookup, expand lookup (Path.absolute workingDirectory path) =
    Path.absolute workingDirectory path

/-- **A host on which processes of their own can be started** in a workspace. -/
structure Ready (h : Host) (s : Store) (w : Workspace) : Prop where
  /-- The working directory is where its path says. -/
  stands : s.Stands h.workingDirectory
  /-- The working directory is a directory. -/
  directory : s.get? (locationOf h.workingDirectory) = some .directory
  /-- The directory of temporary files has an absolute path. -/
  temporary_root : isAbsolute h.temporaryDirectory.toList = true
  /-- The program can be started. -/
  executable : '\x00' ∉ h.executable.toList
  /-- The name of the workspace is not too long. -/
  short : ∀ name ∈ w.location, name.utf8ByteSize ≤ longestName

/-- **A conversion that can be handed over.** -/
structure Transferable (s : Store) (workingDirectory : String) (w : Workspace) (name : String)
    (c : Conversion) : Prop where
  /-- There is a tree. -/
  tree_ne : c.tree ≠ ""
  /-- The tree does not look like an option. -/
  tree_plain : ¬ Command.LooksLikeOption c.tree
  /-- The tree can be handed to the operating system. -/
  tree_noZero : '\x00' ∉ c.tree.toList
  /-- The tree has no references. -/
  tree_fixed : ∀ lookup, expand lookup c.tree = c.tree
  /-- The data message does not look like an option. -/
  message_plain : ∀ message ∈ c.message, ¬ Command.LooksLikeOption message
  /-- The data message can be handed to the operating system. -/
  message_noZero : ∀ message ∈ c.message, '\x00' ∉ message.toList
  /-- The limit has 64 bits. -/
  bits : -0x8000000000000000 ≤ c.limit ∧ c.limit < 0x8000000000000000
  /-- The data file. -/
  source : Carried s w workingDirectory c.source
  /-- The output file. -/
  output : Carried s w workingDirectory c.output
  /-- The path of the descriptor set avoids the workspace. -/
  descriptor_avoids : s.Avoids w.location workingDirectory c.descriptor
  /-- The copy of the descriptor set has a path that can be walked. -/
  descriptor_short : (Path.join w.path name).utf8ByteSize ≤ longestPath
  /-- The copy of the descriptor set has a path without references. -/
  descriptor_fixed : ∀ lookup, expand lookup (Path.join w.path name) = Path.join w.path name

/-! ### The workspace of a process -/

/-- **A workspace with the copy of a file** in it. -/
structure Staged (s t : Store) (w : Workspace) (name : String) (contents : Bytes) : Prop where
  /-- Nothing has stood there. -/
  fresh : s.get? w.location = none
  /-- Nothing else is changed. -/
  agree : AgreeOff w.location s t
  /-- The path of the workspace begins at the root. -/
  root : isAbsolute w.path.toList = true
  /-- The path leads to the workspace. -/
  located : ∀ directory, t.locate directory w.path = .ok w.location
  /-- The workspace is a directory. -/
  directory : t.get? w.location = some .directory
  /-- The path of the copy begins at the root. -/
  copy_root : isAbsolute (Path.join w.path name).toList = true
  /-- The copy can be read. -/
  copy : ∀ directory, t.read directory (Path.join w.path name) = .ok contents

section Workspaces

variable {h : Host} {s : Session} {s₁ : Session} {w : Workspace} {name : String} {c : Conversion}
  {contents : Bytes}

/-- **A copy in a fresh workspace.** -/
theorem staged (created : Workspace.create h s = (.ok w, s₁)) (ready : Ready h s.store w)
    (named : Path.fileName? c.descriptor = some name)
    (transferable : Transferable s.store h.workingDirectory w name c)
    (read : s.store.read h.workingDirectory c.descriptor = .ok contents) :
    Staged s.store (s₁.store.put (w.location ++ [name]) (.file contents)) w name contents := by
  obtain ⟨base, names, located, directory, unused, rfl, rfl⟩ := Workspace.create_eq_ok created
  obtain ⟨free, counts, down, noZero⟩ := Workspace.freshDirectory_spec names
  generalize Workspace.freshDirectory names = fresh at *
  obtain ⟨mem, notUp⟩ := mem_components_of_fileName? named
  obtain ⟨nameFree, nameCounts⟩ := slash_notMem_of_mem_components mem
  obtain ⟨nameNoZero, nameShort⟩ := Workspace.name_of_read named read
  have short : fresh.utf8ByteSize ≤ longestName := ready.short _ (by simp)
  have present : base ++ [fresh] ≠ [] := by simp
  obtain ⟨agree, work, file⟩ := Workspace.put_put_spec present s.store name contents
  simp only at agree ⊢
  generalize (s.store.put (base ++ [fresh]) .directory).put (base ++ [fresh] ++ [name])
    (.file contents) = t at *
  -- the directory of temporary files is there, and so its path does not see the workspace
  have temporary := (agree.locate_eq (Avoids.of_locate unused ready.temporary_root located
    (by simp [directory]))).trans located
  have above : t.get? base = some .directory := by
    rw [agree base fun inside => absurd inside.length_le (by simp)]
    exact directory
  have fits := (utf8ByteSize_le_join (not_isAbsolute_of_notMem nameFree)).trans
    transferable.descriptor_short
  have leads := locate_join temporary above ready.temporary_root free counts down noZero short fits
  have copies := locate_join (leads h.workingDirectory).1 work (leads "").2 nameFree nameCounts
    notUp nameNoZero nameShort transferable.descriptor_short
  exact
    { fresh := unused
      agree
      root := (leads "").2
      located := fun directory => (leads directory).1
      directory := work
      copy_root := (copies "").2
      copy := fun directory => read_eq_ok_iff.mpr ⟨_, (copies directory).1, file⟩ }

/-! ### The process in its workspace -/

/-- The values that a process is handed over can be words. -/
theorem Transferable.plain (transferable : Transferable s.store h.workingDirectory w name c)
    (root : isAbsolute h.workingDirectory.toList = true)
    (copy_root : isAbsolute (Path.join w.path name).toList = true) :
    Command.Plain (inside h.workingDirectory w name c) := by
  have rooted : ∀ {path : String}, isAbsolute path.toList = true →
      ¬ Command.LooksLikeOption path := by
    rintro path root ⟨d, cs, text⟩
    rw [text] at root
    cases root
  exact
    { descriptor := rooted copy_root
      source := rooted (absolute_spec root c.source).1
      tree := transferable.tree_plain
      output := rooted (absolute_spec root c.output).1
      message := transferable.message_plain }

/-- The values that a process is handed over have nothing to replace. -/
theorem Transferable.settled (transferable : Transferable s.store h.workingDirectory w name c)
    (root : isAbsolute h.workingDirectory.toList = true) (lookup : Lookup) :
    Command.Settled lookup (inside h.workingDirectory w name c) where
  source_ne := by
    intro empty
    have root := (absolute_spec root c.source).1
    rw [show Path.absolute h.workingDirectory c.source = "" from empty] at root
    cases root
  tree_ne := transferable.tree_ne
  source := transferable.source.fixed lookup
  tree := transferable.tree_fixed lookup
  descriptor := transferable.descriptor_fixed lookup
  output := transferable.output.fixed lookup

/-- The text of a number can be handed to the operating system. -/
theorem zero_notMem_toString (n : Int) : '\x00' ∉ (toString n).toList := by
  have digits : ∀ m : Nat, '\x00' ∉ Nat.toDigits 10 m := fun m mem =>
    absurd (Nat.isDigit_of_mem_toDigits (by decide) (by decide) mem) (by decide)
  cases n with
  | ofNat m =>
    rw [Int.ofNat_eq_natCast, toList_toString_ofNat]
    exact digits m
  | negSucc m =>
    rw [toList_toString_negSucc]
    exact fun mem => (List.mem_cons.mp mem).elim (fun same => absurd same (by decide)) (digits _)

/-- **The words of a command line** can be handed to the operating system if the values can. -/
theorem zero_notMem_arguments {c : Conversion} (descriptor : '\x00' ∉ c.descriptor.toList)
    (source : '\x00' ∉ c.source.toList) (tree : '\x00' ∉ c.tree.toList)
    (output : '\x00' ∉ c.output.toList) (message : ∀ message ∈ c.message, '\x00' ∉ message.toList) :
    ∀ word ∈ c.arguments, '\x00' ∉ word.toList := by
  have framing : '\x00' ∉ c.framing.name.toList := by cases c.framing <;> decide
  rw [Conversion.arguments, List.forall_mem_append]
  constructor
  · simp only [List.forall_mem_cons]
    exact ⟨by decide, by decide, descriptor, by decide, source, by decide, tree, by decide,
      zero_notMem_toString c.limit, by decide, output, by decide, framing, List.forall_mem_nil _⟩
  · cases named : c.message with
    | none => exact List.forall_mem_nil _
    | some text =>
      simp only [List.forall_mem_cons]
      exact ⟨by decide, message text named, List.forall_mem_nil _⟩

/-- **A started process** that is the program itself. -/
theorem start_itself {h : Host} {arguments : List String} {directory : String} {s : Session}
    (executable : '\x00' ∉ h.executable.toList) (root : isAbsolute directory.toList = true)
    (there : s.store.node h.workingDirectory directory = .ok .directory)
    (words : ∀ word ∈ directory :: arguments, '\x00' ∉ word.toList) :
    (Command.withItself h).start h.executable arguments directory s =
      (.ok (Command.asProgram h arguments directory s).1,
        (Command.asProgram h arguments directory s).2) := by
  have path : Path.join (Command.withItself h).workingDirectory directory = directory := by
    rw [Path.join, if_pos root]
  have noZero : ¬ (h.executable :: directory :: arguments).any
      (·.toList.contains '\x00') = true := by
    rw [List.any_eq_true]
    rintro ⟨word, mem, zero⟩
    rcases List.mem_cons.mp mem with rfl | mem
    · exact executable (List.contains_iff_mem.mp zero)
    · exact words word mem (List.contains_iff_mem.mp zero)
  have there' : s.store.node (Command.withItself h).workingDirectory directory = .ok .directory :=
    there
  have found : (Command.withItself h).programs.find? (·.1 == h.executable) =
      some (h.executable, Command.asProgram h) := by
    simp [Command.withItself]
  simp only [Host.start, path, if_neg noZero, there', found]

/-- A process with a zero character in its words cannot be started. -/
theorem start_of_zero {h : Host} {program : String} {arguments : List String}
    {directory word : String} {s : Session} (mem : word ∈ arguments) (zero : '\x00' ∈ word.toList) :
    h.start program arguments directory s = (.error .zeroInWord, s) := by
  have found : (program :: Path.join h.workingDirectory directory :: arguments).any
      (·.toList.contains '\x00') = true :=
    List.any_eq_true.mpr ⟨word, by simp [mem], List.contains_iff_mem.mpr zero⟩
  simp only [Host.start, if_pos found]

/-- The end of a process that has been started. -/
theorem runProgram_of_start {h : Host} {program : String} {arguments : List String}
    {directory : String} {s s' : Session} {code : Nat}
    (started : h.start program arguments directory s = (.ok (.exited code), s')) :
    ((h.runProgram program arguments directory s).1.isOk = true ↔ code = 0) ∧
      (h.runProgram program arguments directory s).2 = s' := by
  rw [Host.runProgram, Task.bind_of_ok (Task.mapFault_apply (Fault.toolLaunch program) started)]
  by_cases zero : code = 0
  · rw [if_pos (congrArg Ending.exited zero)]
    exact ⟨⟨fun _ => zero, fun _ => rfl⟩, rfl⟩
  · rw [if_neg fun same => zero (Ending.exited.inj same)]
    exact ⟨⟨nofun, fun same => absurd same zero⟩, rfl⟩

theorem runProgram_of_start_error {h : Host} {program : String} {arguments : List String}
    {directory : String} {s s' : Session} {e : SystemError}
    (failed : h.start program arguments directory s = (.error e, s')) :
    ∃ fault, h.runProgram program arguments directory s = (.error fault, s') := by
  rw [Host.runProgram, Task.bind_of_error (Task.mapFault_apply (Fault.toolLaunch program) failed)]
  exact ⟨_, rfl⟩

/-! ### The conversion in a process of its own -/

/-- **The process reads what the conversion reads and writes where it writes.** -/
theorem onStore_inside {t : Store} (ready : Ready h s.store w)
    (transferable : Transferable s.store h.workingDirectory w name c) (source : c.source ≠ "")
    (output : c.output ≠ "")
    (read : s.store.read h.workingDirectory c.descriptor = .ok contents)
    (staged : Staged s.store t w name contents) :
    ((inside h.workingDirectory w name c).onStore w.path t).1.isOk =
        (c.onStore h.workingDirectory s.store).1.isOk ∧
      AgreeOff w.location (c.onStore h.workingDirectory s.store).2
        ((inside h.workingDirectory w name c).onStore w.path t).2 := by
  obtain ⟨fresh, agree, -, -, -, -, copy⟩ := staged
  have stands := ready.stands
  -- the process walks absolute paths, and so the working directory must still be where it was
  have stands' := agree.stands fresh stands ready.directory
  have avoids := transferable.output.avoids
  have reads : t.read w.path (Path.absolute h.workingDirectory c.source) =
      s.store.read h.workingDirectory c.source := by
    rw [Store.read, Store.read, node_absolute stands' source transferable.source.portable,
      agree.node_eq transferable.source.avoids]
  have trees := Source.trees_open_congr reads fun found read =>
    fileName?_absolute stands.root (components_ne_nil_of_read read)
  obtain ⟨root, -⟩ := absolute_spec stands.root c.output
  have ends := getLast?_splitSlash_absolute stands.root output transferable.output.portable.noDot
  refine Conversion.onStore_agree agree ?_
    ((locate_absolute stands' output transferable.output.portable w.path).trans
      (agree.locate_eq avoids)) (fun m => avoids.not_prefix) ?_ rfl rfl rfl
  · have copied : t.read w.path (inside h.workingDirectory w name c).descriptor =
        s.store.read h.workingDirectory c.descriptor := (copy w.path).trans read.symm
    rw [Conversion.toOption_inputs, Conversion.toOption_inputs, copied, ← trees]
    rfl
  · have present : (Path.absolute h.workingDirectory c.output).toList ≠ [] := by
      intro empty
      rw [empty] at root
      cases root
    change (Path.absolute h.workingDirectory c.output).toList.getLast? = some '/' ↔ _
    rw [← getLast?_splitSlash_eq_nil_iff present, ends,
      getLast?_splitSlash_eq_nil_iff fun empty => output (String.toList_eq_nil_iff.mp empty)]

/-- With a copy of the descriptor set and with paths, the process is started. -/
theorem convertInside_of_staged {h : Host} {program : String} {s s₁ : Session}
    (copied : w.stage h c.descriptor s = (.ok (Path.join w.path name), s₁)) (source : c.source ≠ "")
    (output : c.output ≠ "") :
    convertInside h program w c s =
      (h.runProgram program (inside h.workingDirectory w name c).arguments w.path >>= fun _ =>
        pure (inside h.workingDirectory w name c).output) s₁ := by
  have first : (liftM (fromRoot h c.source) : Task Fault String) s₁ =
      (.ok (Path.absolute h.workingDirectory c.source), s₁) := by
    rw [Task.lift_apply, fromRoot, if_neg source]
  have second : (liftM (fromRoot h c.output) : Task Fault String) s₁ =
      (.ok (Path.absolute h.workingDirectory c.output), s₁) := by
    rw [Task.lift_apply, fromRoot, if_neg output]
  rw [convertInside, Task.bind_of_ok copied, Task.bind_of_ok first, Task.bind_of_ok second]
  rfl

/-- With a copy of the descriptor set and an empty path, no process is started. -/
theorem convertInside_of_empty {h : Host} {program : String} {s s₁ : Session}
    (copied : w.stage h c.descriptor s = (.ok (Path.join w.path name), s₁))
    (empty : c.source = "" ∨ c.output = "") :
    convertInside h program w c s = (.error (.io .emptyPath), s₁) := by
  by_cases source : c.source = ""
  · have failed : (liftM (fromRoot h c.source) : Task Fault String) s₁ =
        (.error (.io .emptyPath), s₁) := by
      rw [Task.lift_apply, fromRoot, if_pos source]
    rw [convertInside, Task.bind_of_ok copied, Task.bind_of_error failed]
  · have first : (liftM (fromRoot h c.source) : Task Fault String) s₁ =
        (.ok (Path.absolute h.workingDirectory c.source), s₁) := by
      rw [Task.lift_apply, fromRoot, if_neg source]
    have failed : (liftM (fromRoot h c.output) : Task Fault String) s₁ =
        (.error (.io .emptyPath), s₁) := by
      rw [Task.lift_apply, fromRoot, if_pos (empty.resolve_left source)]
    rw [convertInside, Task.bind_of_ok copied, Task.bind_of_ok first, Task.bind_of_error failed]

/-- **A path that cannot be used**: it is empty, or it holds a zero character. -/
def Bad (path : String) : Prop := path = "" ∨ '\x00' ∈ path.toList

/-- **No process is started** for a data file or an output file with a path that cannot be used. -/
theorem convertInside_of_bad {h : Host} {p : String} {s s₁ : Session} {original : Store}
    (copied : w.stage h c.descriptor s = (.ok (Path.join w.path name), s₁))
    (stands : original.Stands h.workingDirectory) (bad : Bad c.source ∨ Bad c.output) :
    ∃ fault, convertInside h p w c s = (.error fault, s₁) := by
  by_cases empty : c.source = "" ∨ c.output = ""
  · exact ⟨_, convertInside_of_empty copied empty⟩
  obtain ⟨source, output⟩ := not_or.mp empty
  -- both paths are made absolute, and the process cannot be handed one of them
  have zero : ∃ word ∈ (inside h.workingDirectory w name c).arguments, '\x00' ∈ word.toList := by
    rcases bad with bad | bad
    · refine ⟨(inside h.workingDirectory w name c).source, by simp [Conversion.arguments], ?_⟩
      exact (zero_mem_absolute_iff stands).mpr (bad.resolve_left source)
    · refine ⟨(inside h.workingDirectory w name c).output, by simp [Conversion.arguments], ?_⟩
      exact (zero_mem_absolute_iff stands).mpr (bad.resolve_left output)
  obtain ⟨word, mem, zero⟩ := zero
  have refused : h.start p (inside h.workingDirectory w name c).arguments w.path s₁ =
      (.error .zeroInWord, s₁) := start_of_zero mem zero
  obtain ⟨fault, failed⟩ := runProgram_of_start_error refused
  rw [convertInside_of_staged copied source output, Task.bind_of_error failed]
  exact ⟨fault, rfl⟩

/-- **A conversion fails** as well with such a path, and leaves everything as it is. -/
theorem onStore_of_bad {s : Store} {d : String} (bad : Bad c.source ∨ Bad c.output) :
    ∃ fault, c.onStore d s = (.error fault, s) := by
  have nowhere : ∀ {path : String}, Bad path → ∀ l, s.locate d path ≠ .ok l := by
    intro path bad l located
    obtain ⟨present, noZero, -, -⟩ := locate_eq_ok_iff.mp located
    exact bad.elim present noZero
  refine Conversion.onStore_of_stuck fun set tree l u inputs created => ?_
  rcases bad with bad | bad
  · have noTrees : (Source.open s d c.source).toOption.map Source.trees = none := by
      rw [Source.trees_open]
      split
      · cases read : s.read d c.source with
        | error e => rfl
        | ok contents =>
          obtain ⟨l, located, -⟩ := read_eq_ok_iff.mp read
          exact absurd located (nowhere bad l)
      · rfl
    have all := c.toOption_inputs s d
    rw [inputs, noTrees] at all
    change some (set, tree) = _ at all
    simp at all
  · exact nowhere bad l (create_eq_ok_iff.mp created).2.1

/-- **The process in its workspace** ends well exactly if the conversion succeeds, and it leaves the
same files outside of the workspace. -/
theorem runProgram_inside {t : Session} (ready : Ready h s.store w) (source : ¬ Bad c.source)
    (output : ¬ Bad c.output)
    (transferable : Transferable s.store h.workingDirectory w name c)
    (read : s.store.read h.workingDirectory c.descriptor = .ok contents)
    (staged : Staged s.store t.store w name contents) :
    ((Command.withItself h).runProgram h.executable (inside h.workingDirectory w name c).arguments
        w.path t).1.isOk = (c.onStore h.workingDirectory s.store).1.isOk ∧
      AgreeOff w.location (c.onStore h.workingDirectory s.store).2
        ((Command.withItself h).runProgram h.executable
          (inside h.workingDirectory w name c).arguments w.path t).2.store := by
  obtain ⟨source, sourceWord⟩ := not_or.mp source
  obtain ⟨output, outputWord⟩ := not_or.mp output
  obtain ⟨copy, located, -⟩ := read_eq_ok_iff.mp (staged.copy "")
  have words : ∀ word ∈ w.path :: (inside h.workingDirectory w name c).arguments,
      '\x00' ∉ word.toList := by
    refine List.forall_mem_cons.mpr ⟨(locate_eq_ok_iff.mp (staged.located "")).2.1,
      zero_notMem_arguments (locate_eq_ok_iff.mp located).2.1 ?_ transferable.tree_noZero ?_
        transferable.message_noZero⟩
    · exact mt (zero_mem_absolute_iff ready.stands).mp sourceWord
    · exact mt (zero_mem_absolute_iff ready.stands).mp outputWord
  have there : t.store.node h.workingDirectory w.path = .ok .directory := by
    rw [Store.node, staged.located]
    simp only [bind, Except.bind, staged.directory]
  have started := start_itself ready.executable staged.root there words
  obtain ⟨code, u, ran, ended, left⟩ := Command.asProgram_arguments (h := h)
    (c := inside h.workingDirectory w name c) transferable.bits
    (transferable.plain ready.stands.root staged.copy_root)
    (transferable.settled ready.stands.root) w.path t
  rw [ran] at started
  obtain ⟨finished, after⟩ := runProgram_of_start started
  obtain ⟨same, files⟩ := onStore_inside ready transferable source output read staged
  constructor
  · rw [Bool.eq_iff_iff, finished, ended, same]
  · rw [after, left]
    exact files

/-- **A conversion in a process of its own** succeeds exactly if the conversion does, and leaves the
same files outside of its workspace. -/
theorem convertInside_agree (created : Workspace.create h s = (.ok w, s₁))
    (ready : Ready h s.store w) (named : Path.fileName? c.descriptor = some name)
    (transferable : Transferable s.store h.workingDirectory w name c) :
    (convertInside (Command.withItself h) h.executable w c s₁).1.isOk =
        (c.onStore h.workingDirectory s.store).1.isOk ∧
      AgreeOff w.location (c.onStore h.workingDirectory s.store).2
        (convertInside (Command.withItself h) h.executable w c s₁).2.store := by
  obtain ⟨base, names, -, -, -, made, after⟩ := Workspace.create_eq_ok created
  have present : w.location ≠ [] := by simp [made]
  have agree : AgreeOff w.location s.store s₁.store := by
    rw [after]
    exact (AgreeOff.refl _ _).put_below (List.prefix_refl _) present _
  have reads : s₁.store.read h.workingDirectory c.descriptor =
      s.store.read h.workingDirectory c.descriptor :=
    agree.read_eq transferable.descriptor_avoids
  cases read : s.store.read h.workingDirectory c.descriptor with
  | error e =>
    obtain ⟨fault, failed⟩ :=
      Workspace.stage_of_read_error (h := Command.withItself h) (w := w) (reads.trans read)
    obtain ⟨fault', stuck⟩ := Conversion.onStore_of_read_error read
    rw [convertInside, Task.bind_of_error failed, stuck]
    exact ⟨rfl, agree⟩
  | ok contents =>
    obtain ⟨u, copied, written⟩ :=
      Workspace.stage_of_read (h := Command.withItself h) (w := w) named (reads.trans read)
    have staged := staged created ready named transferable read
    rw [← written] at staged
    by_cases bad : Bad c.source ∨ Bad c.output
    · obtain ⟨fault, failed⟩ := convertInside_of_bad (p := h.executable) copied ready.stands bad
      obtain ⟨fault', stuck⟩ := onStore_of_bad (s := s.store) (d := h.workingDirectory) bad
      rw [failed, stuck]
      exact ⟨rfl, staged.agree⟩
    · obtain ⟨source, output⟩ := not_or.mp bad
      obtain ⟨ok, files⟩ := runProgram_inside ready source output transferable read staged
      obtain ⟨valued, kept⟩ := Task.bind_pure
        ((Command.withItself h).runProgram h.executable
          (inside h.workingDirectory w name c).arguments w.path)
        (fun _ => (inside h.workingDirectory w name c).output) u
      rw [convertInside_of_staged (h := Command.withItself h) copied (not_or.mp source).1
        (not_or.mp output).1]
      exact ⟨valued.trans ok, kept ▸ files⟩

end Workspaces

end Build

end TreeWire
