import TreeWire.Proofs.Modes

/-!
# What a build leaves behind

A build is a chain of steps that can all fail: the compiler, the workspace, the copy of the
descriptor set, the paths, and the process that converts. What a step has done before a fault stays
done, and so every step is described by its ways to end. None of them makes or removes a workspace,
the two apart that are there for this; and the second one of these is taken however the steps
between them have ended.

What other programs do to the files is up to them. So it is said of the compiler that a build does
nothing after it has failed, and of the process that converts that nothing but the process itself
comes between making the workspace and removing it. If the process leaves workspaces alone – the
program itself does – then this says which workspaces are left.

* `TreeWire.Host.start_cases`, `TreeWire.Host.runProgram_cases` – **programs that are started**;
* `TreeWire.Compiler.compile_cases`, `TreeWire.Build.convertInside_cases` – the ways in which the
  steps of a build end;
* `TreeWire.Store.HasWorkspace` – **the workspaces in a store**;
* `TreeWire.Build.Stay` – **a stay in a workspace**, with `TreeWire.Build.exists_stay`: the
  conversion of a build is one, however it ends;
* `TreeWire.Build.Stay.hasWorkspace`, `TreeWire.Build.Stay.hasWorkspace_itself` – the workspaces
  after a stay;
* `TreeWire.Build.Converted` – conversions of a build that succeed;
* `TreeWire.Build.run_leftovers` – **the main statement**: what a build leaves behind, however it
  ends.
-/

namespace TreeWire

open Store

/-! ### Programs that are started -/

namespace Host

/-- **A program is started or not**: if it is not, nothing happens, and otherwise the session is as
the program leaves it. -/
theorem start_cases (h : Host) (program : String) (arguments : List String) (directory : String)
    (s : Session) :
    (∃ e, h.start program arguments directory s = (.error e, s)) ∨
      ∃ run, h.programs.find? (·.1 == program) = some (program, run) ∧
        h.start program arguments directory s =
          (.ok (run arguments (Path.join h.workingDirectory directory) s).1,
            (run arguments (Path.join h.workingDirectory directory) s).2) := by
  -- the words are looked at first, then the directory, and the program last
  simp only [start]
  split
  · exact Or.inl ⟨_, rfl⟩
  split
  · exact Or.inl ⟨_, rfl⟩
  · exact Or.inl ⟨_, rfl⟩
  cases found : h.programs.find? (·.1 == program) with
  | none => exact Or.inl ⟨_, rfl⟩
  | some entry =>
    obtain ⟨name, run⟩ := entry
    obtain rfl : name = program := by simpa using List.find?_some found
    exact Or.inr ⟨run, rfl, rfl⟩

end Host

/-- **What the ending of a program comes to**: it succeeds by itself, with the code 0. -/
def Ending.outcome (program : String) (ending : Ending) : Except Fault Unit :=
  if ending = .exited 0 then .ok () else .error (.toolFailed program ending.text)

theorem Ending.outcome_eq_ok_iff {program : String} {ending : Ending} {u : Unit} :
    ending.outcome program = .ok u ↔ ending = .exited 0 := by
  rw [outcome]
  split <;> simp [*]

/-- **A program that is run** is not started, or it is and decides. -/
theorem Host.runProgram_cases (h : Host) (program : String) (arguments : List String)
    (directory : String) (s : Session) :
    (∃ fault, h.runProgram program arguments directory s = (.error fault, s)) ∨
      ∃ run ending t, h.programs.find? (·.1 == program) = some (program, run) ∧
        run arguments (Path.join h.workingDirectory directory) s = (ending, t) ∧
        h.start program arguments directory s = (.ok ending, t) ∧
        h.runProgram program arguments directory s = (ending.outcome program, t) := by
  rcases h.start_cases program arguments directory s with ⟨e, failed⟩ | ⟨run, found, started⟩
  · exact Or.inl (Build.runProgram_of_start_error failed)
  · refine Or.inr ⟨run, _, _, found, rfl, started, ?_⟩
    rw [runProgram, Task.bind_of_ok (Task.mapFault_apply (Fault.toolLaunch program) started),
      Ending.outcome]
    split <;> rfl

/-- **The ways in which compiling ends**: the compiler is not started, or it is and decides. -/
theorem Compiler.compile_cases (c : Compiler) (h : Host) (schema : String)
    (languages : List String) (s : Session) :
    (∃ fault, c.compile h schema languages s = (.error fault, s)) ∨
      ∃ run arguments ending t, h.programs.find? (·.1 == c.program) = some (c.program, run) ∧
        run arguments (Path.join h.workingDirectory (Path.directory schema)) s = (ending, t) ∧
        c.compile h schema languages s =
          ((ending.outcome c.program).map fun _ => descriptorPath schema, t) := by
  cases words : c.arguments schema languages with
  | error fault =>
    have failed : (liftM (c.arguments schema languages) : Task Fault (List String)) s =
        (.error fault, s) := by
      rw [Task.lift_apply, words]
    exact Or.inl ⟨fault, by rw [compile, Task.bind_of_error failed]⟩
  | ok arguments =>
    have begun : (liftM (c.arguments schema languages) : Task Fault (List String)) s =
        (.ok arguments, s) := by
      rw [Task.lift_apply, words]
    rw [compile, Task.bind_of_ok begun]
    rcases h.runProgram_cases c.program arguments (Path.directory schema) s with
      ⟨fault, failed⟩ | ⟨run, ending, t, found, ran, -, ended⟩
    · exact Or.inl ⟨fault, Task.bind_of_error failed⟩
    · exact Or.inr ⟨run, arguments, ending, t, found, ran, Task.bind_pure_apply ended _⟩

/-! ### Workspaces -/

namespace Store

variable {s : Store} {l k : Location}

/-- Nothing is left at a location that is removed, nor below it. -/
theorem get?_remove (present : l ≠ []) (below : l <+: k) : (s.remove l).get? k = none := by
  have other : k ≠ [] := by
    rintro rfl
    exact present (List.prefix_nil.mp below)
  rw [get?, if_neg other, Option.map_eq_none_iff, List.find?_eq_none]
  -- an entry that is left is not below, and so it is not the one that is looked for
  intro e mem same
  have kept := (List.mem_filter.mp mem).2
  rw [of_decide_eq_true same, List.isPrefixOf_iff_prefix.mpr below] at kept
  cases kept

/-- **A workspace stands at a location**: a directory with such a name. -/
def HasWorkspace (s : Store) (l : Location) : Prop :=
  s.get? l = some .directory ∧ ∃ name ∈ l.getLast?, workspacePrefix.toList <+: name.toList

/-- Where the directories are the same, so are the workspaces. -/
theorem hasWorkspace_congr {t : Store}
    (directories : t.get? l = some .directory ↔ s.get? l = some .directory) :
    t.HasWorkspace l ↔ s.HasWorkspace l :=
  and_congr_left fun _ => directories

/-- What is put elsewhere is no workspace here. -/
theorem hasWorkspace_put_of_ne (present : k ≠ []) (other : l ≠ k) (n : Node) :
    (s.put k n).HasWorkspace l ↔ s.HasWorkspace l :=
  hasWorkspace_congr (by rw [get?_put present, if_neg other])

/-- **One more workspace.** -/
theorem hasWorkspace_put {base : Location} {name : String}
    (named : workspacePrefix.toList <+: name.toList) :
    (s.put (base ++ [name]) .directory).HasWorkspace l ↔
      s.HasWorkspace l ∨ l = base ++ [name] := by
  by_cases same : l = base ++ [name]
  · subst same
    refine ⟨fun _ => Or.inr rfl, fun _ => ⟨by rw [get?_put (by simp), if_pos rfl], name, ?_, named⟩⟩
    simp
  · rw [hasWorkspace_put_of_ne (by simp) same]
    simp [same]

/-- **One workspace less.** -/
theorem hasWorkspace_remove (present : k ≠ []) (outside : k <+: l → l = k) :
    (s.remove k).HasWorkspace l ↔ s.HasWorkspace l ∧ l ≠ k := by
  by_cases same : l = k
  · subst same
    rw [HasWorkspace, get?_remove present (List.prefix_refl _)]
    exact ⟨fun gone => absurd gone.1 nofun, fun gone => absurd rfl gone.2⟩
  · have kept : (s.remove k).HasWorkspace l ↔ s.HasWorkspace l :=
      hasWorkspace_congr (by rw [(AgreeOff.refl k s).remove l (mt outside same)])
    rw [kept]
    exact ⟨fun there => ⟨there, same⟩, And.left⟩

end Store

namespace Workspace

variable {h : Host} {s t : Session} {w : Workspace} {fault : Fault}

/-- **The name of a workspace** begins as all of them do. -/
theorem prefix_freshDirectory (names : List String) :
    workspacePrefix.toList <+: (freshDirectory names).toList := by
  obtain ⟨zeros, text, -⟩ := exists_toList_freshName names (workspacePrefix ++ "0")
  rw [freshDirectory, text, String.toList_append, List.append_assoc]
  exact List.prefix_append _ _

/-- A workspace that cannot be created leaves everything as it is. -/
theorem create_eq_error (failed : create h s = (.error fault, t)) : t = s := by
  rw [create, Task.onStore] at failed
  cases located : s.store.locate h.workingDirectory h.temporaryDirectory with
  | error e =>
    rw [located] at failed
    exact (congrArg Prod.snd failed).symm
  | ok l =>
    rw [located] at failed
    by_cases directory : s.store.get? l = some .directory
    · simp only [directory, if_true] at failed
      cases failed
    · simp only [directory, if_false] at failed
      exact (congrArg Prod.snd failed).symm

/-- **The ways in which copying ends.** -/
theorem stage_cases (w : Workspace) (h : Host) (file : String) (s : Session) :
    (∃ fault, w.stage h file s = (.error fault, s)) ∨
      ∃ name contents, w.stage h file s = (.ok (Path.join w.path name),
        { s with store := s.store.put (w.location ++ [name]) (.file contents) }) := by
  rw [stage, Task.onStore]
  cases Path.fileName? file with
  | none => exact Or.inl ⟨_, rfl⟩
  | some name =>
    cases s.store.node h.workingDirectory file with
    | error e => exact Or.inl ⟨_, rfl⟩
    | ok n =>
      cases n with
      | directory => exact Or.inl ⟨_, rfl⟩
      | file contents => exact Or.inr ⟨name, contents, rfl⟩

end Workspace

/-! ### The program as a process that converts -/

namespace Command

/-- A command line that starts with `convert` asks for a conversion, if for anything. -/
theorem exists_of_parse_convert {words : List String} {request : Request}
    (read : parse ("convert" :: words) = .ok request) : ∃ o, request = .convert o := by
  rw [parse_convert] at read
  obtain ⟨g, -, read⟩ := bind_eq_ok_iff.mp read
  rw [convertRequest] at read
  split at read
  · cases read
  · exact ⟨_, (Except.ok.inj read).symm⟩

/-- **Carrying out a conversion** leaves all directories as they are. -/
theorem get?_convert_eq_directory_iff {h : Host} {o : ConvertOptions} {s : Session}
    {k : Location} :
    (convert h o s).2.store.get? k = some .directory ↔ s.store.get? k = some .directory := by
  cases asked : o.conversion h with
  | error failure =>
    have failed : (liftM (o.conversion h) : Task Failure Conversion) s = (.error failure, s) := by
      rw [Task.lift_apply, asked]
    rw [convert, Task.bind_of_error failed]
  | ok c =>
    rw [(convert_of_conversion asked s).2]
    exact Conversion.get?_onStore_eq_directory_iff

/-- **The program leaves workspaces alone** when it is started for a conversion. -/
theorem hasWorkspace_asProgram (h : Host) (c : Conversion) (directory : String) (s : Session)
    (l : Location) :
    (asProgram h c.arguments directory s).2.store.HasWorkspace l ↔ s.store.HasWorkspace l := by
  refine Store.hasWorkspace_congr ?_
  rw [asProgram, runWith, arguments_eq]
  cases read : parse ("convert" :: wordsOf (given c)) with
  | error stop => cases stop <;> rfl
  | ok request =>
    obtain ⟨o, rfl⟩ := exists_of_parse_convert read
    -- what is printed at the end does not touch the files
    have left := (finish_spec "convert" (convert
      { h with
        workingDirectory := directory
        environment := Definitions.environment h.environment s.store directory } o s)).2
    exact (congrArg (·.get? l = some .directory) left) ▸ get?_convert_eq_directory_iff

end Command

/-! ### The conversion of a build -/

namespace Build

variable {h : Host} {s s₁ : Session} {program : String} {w : Workspace} {c : Conversion}

/-- **The ways in which a conversion in a process of its own ends**: the descriptor set cannot be
copied; a path cannot be used or the process is not started, with the copy already there; or the
process runs and decides. -/
theorem convertInside_cases (h : Host) (program : String) (w : Workspace) (c : Conversion)
    (s : Session) :
    (∃ fault, convertInside h program w c s = (.error fault, s)) ∨
      ∃ name contents u, w.stage h c.descriptor s = (.ok (Path.join w.path name), u) ∧
        u = { s with store := s.store.put (w.location ++ [name]) (.file contents) } ∧
        ((∃ fault, convertInside h program w c s = (.error fault, u)) ∨
          ∃ run ending t, h.programs.find? (·.1 == program) = some (program, run) ∧
            run (inside h.workingDirectory w name c).arguments
              (Path.join h.workingDirectory w.path) u = (ending, t) ∧
            h.start program (inside h.workingDirectory w name c).arguments w.path u =
              (.ok ending, t) ∧
            convertInside h program w c s =
              ((ending.outcome program).map fun _ => (inside h.workingDirectory w name c).output,
                t)) := by
  rcases w.stage_cases h c.descriptor s with ⟨fault, failed⟩ | ⟨name, contents, copied⟩
  · exact Or.inl ⟨fault, by rw [convertInside, Task.bind_of_error failed]⟩
  refine Or.inr ⟨name, contents, _, copied, rfl, ?_⟩
  generalize ({ s with store := s.store.put (w.location ++ [name]) (.file contents) } : Session) = u
    at copied
  by_cases empty : c.source = "" ∨ c.output = ""
  · exact Or.inl ⟨_, convertInside_of_empty copied empty⟩
  obtain ⟨source, output⟩ := not_or.mp empty
  rw [convertInside_of_staged copied source output]
  rcases h.runProgram_cases program (inside h.workingDirectory w name c).arguments w.path u with
    ⟨fault, failed⟩ | ⟨run, ending, t, found, ran, started, ended⟩
  · exact Or.inl ⟨fault, Task.bind_of_error failed⟩
  · exact Or.inr ⟨run, ending, t, found, ran, started, Task.bind_pure_apply ended _⟩

/-- **A process between two sessions**: it is not started and they are the same, or the second one
is what it leaves of the first one. -/
def Between (h : Host) (program : String) (u v : Session) : Prop :=
  v = u ∨ ∃ (run : Program) (d : Conversion) (directory : String),
    h.programs.find? (·.1 == program) = some (program, run) ∧
      v = (run d.arguments directory u).2

/-- **A conversion in a process of its own** touches no workspace outside of its own one, the
process apart. -/
theorem exists_between (h : Host) (program : String) (w : Workspace) (c : Conversion)
    (s : Session) :
    ∃ u, (∀ l, (w.location <+: l → l = w.location) →
        (u.store.HasWorkspace l ↔ s.store.HasWorkspace l)) ∧
      Between h program u (convertInside h program w c s).2 := by
  rcases convertInside_cases h program w c s with
    ⟨fault, failed⟩ | ⟨name, contents, u, -, copied, ended⟩
  · exact ⟨s, fun _ _ => Iff.rfl, Or.inl (by rw [failed])⟩
  refine ⟨u, fun l outside => ?_, ?_⟩
  · -- the copy is below the workspace
    have other : l ≠ w.location ++ [name] := by
      rintro rfl
      have size := congrArg List.length (outside (List.prefix_append _ _))
      simp at size
    rw [copied]
    exact hasWorkspace_put_of_ne (by simp) other _
  · rcases ended with ⟨fault, failed⟩ | ⟨run, ending, t, found, ran, -, ended⟩
    · exact Or.inl (by rw [failed])
    · exact Or.inr ⟨run, _, _, found, by rw [ended, ran]⟩

/-- **A stay in a workspace**, from the session before it is created to the session after it is kept
or removed. In between there is the process, if it is started. -/
structure Stay (h : Host) (program : String) (keep : Bool) (w : Workspace)
    (s u v t : Session) : Prop where
  /-- The workspace has not been there before. -/
  fresh : ¬ s.store.HasWorkspace w.location
  /-- It is the only one that is made. -/
  opened : ∀ l, (w.location <+: l → l = w.location) →
    (u.store.HasWorkspace l ↔ s.store.HasWorkspace l ∨ l = w.location)
  /-- The process comes next. -/
  process : Between h program u v
  /-- The workspace is the only one that is removed, and only if it is not to be kept. -/
  closed : ∀ l, (w.location <+: l → l = w.location) →
    (t.store.HasWorkspace l ↔ v.store.HasWorkspace l ∧ (keep = true ∨ l ≠ w.location))
  /-- Nothing is left in a workspace that is removed. -/
  gone : keep = false → ∀ l, w.location <+: l → t.store.get? l = none

namespace Stay

variable {keep : Bool} {u v t : Session} {l : Location}

/-- **The workspaces after a stay** are those that were there before, and the new one if it is to be
kept, whenever the process leaves workspaces alone. -/
theorem hasWorkspace (stay : Stay h program keep w s u v t)
    (spared : v.store.HasWorkspace l ↔ u.store.HasWorkspace l)
    (outside : w.location <+: l → l = w.location) :
    t.store.HasWorkspace l ↔ s.store.HasWorkspace l ∨ keep = true ∧ l = w.location := by
  rw [stay.closed l outside, spared, stay.opened l outside]
  constructor
  · rintro ⟨old | here, kept | other⟩
    · exact Or.inl old
    · exact Or.inl old
    · exact Or.inr ⟨kept, here⟩
    · exact absurd here other
  · rintro (old | ⟨kept, here⟩)
    · refine ⟨Or.inl old, Or.inr ?_⟩
      rintro rfl
      exact stay.fresh old
    · exact ⟨Or.inr here, Or.inl kept⟩

/-- **The program itself** leaves workspaces alone. -/
theorem hasWorkspace_itself {h : Host}
    (stay : Stay (Command.withItself h) h.executable keep w s u v t)
    (outside : w.location <+: l → l = w.location) :
    t.store.HasWorkspace l ↔ s.store.HasWorkspace l ∨ keep = true ∧ l = w.location := by
  refine stay.hasWorkspace ?_ outside
  rcases stay.process with rfl | ⟨run, d, directory, found, rfl⟩
  · rfl
  · have itself : (Command.withItself h).programs.find? (·.1 == h.executable) =
        some (h.executable, Command.asProgram h) := by
      simp [Command.withItself]
    obtain rfl : Command.asProgram h = run :=
      (Prod.mk.inj (Option.some.inj (itself.symm.trans found))).2
    exact Command.hasWorkspace_asProgram h d directory u l

end Stay

/-- Without a workspace there is no process, and nothing is changed. -/
theorem convert_of_not_created {p : Plan} {fault : Fault} (mode : p.mode = .subprocess program)
    (failed : Workspace.create h s = (.error fault, s₁)) (c : Conversion) (made : Outcome) :
    convert h p c made s = (.error fault, s) := by
  obtain rfl := Workspace.create_eq_error failed
  rw [convert, mode]
  exact Task.bind_of_error failed

/-- **The conversion of a build** in a process of its own is a stay in a workspace, however it
ends. -/
theorem exists_stay {p : Plan} (mode : p.mode = .subprocess program)
    (created : Workspace.create h s = (.ok w, s₁)) (c : Conversion) (made : Outcome) :
    ∃ u v, Stay h program p.keepWorkspace w s u v (convert h p c made s).2 := by
  obtain ⟨base, names, -, -, unused, rfl, rfl⟩ := Workspace.create_eq_ok created
  have ended := congrArg Prod.snd (convert_of_created mode created c made)
  obtain ⟨u, spared, process⟩ := exists_between h program
    ⟨Path.join h.temporaryDirectory (Workspace.freshDirectory names),
      base ++ [Workspace.freshDirectory names]⟩ c
    { s with store := s.store.put (base ++ [Workspace.freshDirectory names]) .directory }
  refine ⟨u, _, ?_, fun l outside => ?_, process, fun l outside => ?_, fun away l below => ?_⟩
  · -- nothing has stood there, and so no workspace either
    intro there
    rw [there.1] at unused
    cases unused
  · exact (spared l outside).trans (hasWorkspace_put (Workspace.prefix_freshDirectory names))
  · rw [ended]
    cases p.keepWorkspace with
    | true => simp
    | false => simpa using hasWorkspace_remove (by simp) outside
  · rw [ended, away]
    exact get?_remove (by simp) below

/-! ### Builds -/

variable {b : Build} {compiler : Compiler} {descriptor data : String}

/-- A build that is asked for nothing does nothing. -/
theorem run_of_nothing (languages : b.languages = []) (conversion : b.conversion = none)
    (h : Host) (compiler : Compiler) (s : Session) : b.run h compiler s = (.ok {}, s) := by
  rw [run, if_pos ⟨languages, conversion⟩]
  rfl

/-- **Compiling a schema** leaves everything as it is, or as the compiler leaves it. -/
theorem session_of_compile {schema : String} {languages : List String}
    {result : Except Fault String}
    (ended : compiler.compile h schema languages s = (result, s₁)) :
    s₁ = s ∨ ∃ run arguments directory,
      h.programs.find? (·.1 == compiler.program) = some (compiler.program, run) ∧
        s₁ = (run arguments directory s).2 := by
  rcases compiler.compile_cases h schema languages s with
    ⟨fault, failed⟩ | ⟨run, arguments, ending, t, found, ran, decided⟩
  · exact Or.inl (congrArg Prod.snd (ended.symm.trans failed))
  · exact Or.inr ⟨run, arguments, Path.join h.workingDirectory (Path.directory schema), found,
      (congrArg Prod.snd (ended.symm.trans decided)).trans (congrArg Prod.snd ran).symm⟩

/-- **A build whose schema does not compile** does nothing else. -/
theorem run_of_compile_error {fault : Fault} (asked : b.languages ≠ [] ∨ b.conversion ≠ none)
    (failed : compiler.compile h b.schema b.languages s = (.error fault, s₁)) :
    b.run h compiler s = (.error fault, s₁) := by
  have something : ¬ (b.languages = [] ∧ b.conversion = none) := fun nothing =>
    asked.elim (fun languages => languages nothing.1) fun conversion => conversion nothing.2
  rw [run, if_neg something]
  exact Task.bind_of_error failed

/-- A build with a conversion, once its schema is compiled. -/
theorem run_of_conversion {p : Plan} (conversion : b.conversion = some p)
    (compiled : compiler.compile h b.schema b.languages s = (.ok descriptor, s₁)) :
    b.run h compiler s =
      convert h p (b.conversionOf p descriptor) { descriptor := some descriptor } s₁ := by
  have same : withMode b p p.mode = b := by
    change { b with conversion := some p } = b
    rw [← conversion]
  rw [← same, run_of_compiled compiled]
  rfl

/-- A build without a conversion, once its schema is compiled. -/
theorem run_of_no_conversion (languages : b.languages ≠ []) (conversion : b.conversion = none)
    (compiled : compiler.compile h b.schema b.languages s = (.ok descriptor, s₁)) :
    b.run h compiler s = (.ok { descriptor := some descriptor }, s₁) := by
  have something : ¬ (b.languages = [] ∧ b.conversion = none) := fun nothing =>
    languages nothing.1
  rw [run, if_neg something, Task.bind_of_ok compiled, conversion]
  rfl

/-- **A conversion of a build that succeeds**, with the path of its output file. -/
inductive Converted (h : Host) (c : Conversion) (s : Session) : Mode → String → Prop
  /-- In the same process, it is the conversion itself that does. -/
  | inProcess {report : Report} {t : Session} (ran : c.run h s = (.ok report, t)) :
    Converted h c s .inProcess report.output
  /-- A process of its own is started in a workspace, and ends by itself with the code 0. -/
  | subprocess {program name : String} {w : Workspace} {s₁ s₂ t : Session}
    (created : Workspace.create h s = (.ok w, s₁))
    (copied : w.stage h c.descriptor s₁ = (.ok (Path.join w.path name), s₂))
    (ended : h.start program (inside h.workingDirectory w name c).arguments w.path s₂ =
      (.ok (.exited 0), t)) :
    Converted h c s (.subprocess program) (Path.absolute h.workingDirectory c.output)

/-- The conversion of a build names a data file only if it has succeeded. -/
theorem converted_of_convert {p : Plan} {made outcome : Outcome}
    (ended : (convert h p c made s).1 = .ok outcome) (named : outcome.data = some data) :
    Converted h c s p.mode data := by
  cases mode : p.mode with
  | inProcess =>
    rw [convert, mode] at ended
    obtain ⟨report, u, ran, rest⟩ := Task.bind_eq_ok (Prod.ext ended rfl)
    obtain rfl := Except.ok.inj (congrArg Prod.fst rest)
    obtain rfl := Option.some.inj named
    exact .inProcess ran
  | subprocess program =>
    obtain ⟨made', t, created⟩ : ∃ made' t, Workspace.create h s = (made', t) := ⟨_, _, rfl⟩
    cases made' with
    | error fault =>
      rw [convert_of_not_created mode created] at ended
      cases ended
    | ok w =>
      rw [convert_of_created mode created] at ended
      obtain ⟨output, succeeded, rfl⟩ := map_eq_ok_iff.mp ended
      obtain rfl := Option.some.inj named
      -- of all ways to end, only that of a process with the code 0 leaves something to name
      rcases convertInside_cases h program w c t with
        ⟨fault, failed⟩ | ⟨name, contents, u, copied, -, ⟨fault, failed⟩ | finished⟩
      · rw [failed] at succeeded
        cases succeeded
      · rw [failed] at succeeded
        cases succeeded
      · obtain ⟨run, ending, v, -, -, started, finished⟩ := finished
        rw [finished] at succeeded
        obtain ⟨_, well, rfl⟩ := map_eq_ok_iff.mp succeeded
        obtain rfl := Ending.outcome_eq_ok_iff.mp well
        exact .subprocess created copied started

/-- **A build names a data file** only if its conversion has succeeded. -/
theorem converted_of_run {outcome : Outcome} (ended : (b.run h compiler s).1 = .ok outcome)
    (named : outcome.data = some data) :
    ∃ p descriptor s₁, b.conversion = some p ∧
      compiler.compile h b.schema b.languages s = (.ok descriptor, s₁) ∧
      Converted h (b.conversionOf p descriptor) s₁ p.mode data := by
  by_cases nothing : b.languages = [] ∧ b.conversion = none
  · rw [run_of_nothing nothing.1 nothing.2] at ended
    obtain rfl := Except.ok.inj ended
    cases named
  have asked : b.languages ≠ [] ∨ b.conversion ≠ none := by
    by_cases languages : b.languages = []
    · exact Or.inr fun conversion => nothing ⟨languages, conversion⟩
    · exact Or.inl languages
  obtain ⟨result, s₁, compiled⟩ : ∃ result s₁,
      compiler.compile h b.schema b.languages s = (result, s₁) := ⟨_, _, rfl⟩
  cases result with
  | error fault =>
    rw [run_of_compile_error asked compiled] at ended
    cases ended
  | ok descriptor =>
    cases conversion : b.conversion with
    | none =>
      have languages := asked.resolve_right fun other => other conversion
      rw [run_of_no_conversion languages conversion compiled] at ended
      obtain rfl := Except.ok.inj ended
      cases named
    | some p =>
      rw [run_of_conversion conversion compiled] at ended
      exact ⟨p, descriptor, s₁, rfl, compiled, converted_of_convert ended named⟩

/-- **What a build leaves behind.** A build that is asked for nothing starts no program and changes
nothing. If the schema does not compile, then everything is left as it has been or as the compiler
has left it, with no workspace and nothing converted. A conversion in the same process makes and
removes no directory. A conversion in a process of its own is a stay in a workspace that has not
been there before, whatever fails or succeeds. If the process leaves workspaces alone, then exactly
those are there afterwards that were there before, and the new one if it is to be kept. And the
build names a data file only if the conversion has succeeded. -/
theorem run_leftovers (b : Build) (h : Host) (compiler : Compiler) (s : Session) :
    (b.languages = [] → b.conversion = none → b.run h compiler s = (.ok {}, s)) ∧
    (∀ fault s₁, b.languages ≠ [] ∨ b.conversion ≠ none →
      compiler.compile h b.schema b.languages s = (.error fault, s₁) →
      b.run h compiler s = (.error fault, s₁) ∧
        (s₁ = s ∨ ∃ run arguments directory,
          h.programs.find? (·.1 == compiler.program) = some (compiler.program, run) ∧
            s₁ = (run arguments directory s).2)) ∧
    (∀ p descriptor s₁, b.conversion = some p →
      compiler.compile h b.schema b.languages s = (.ok descriptor, s₁) →
      let t := (b.run h compiler s).2
      (p.mode = .inProcess →
        ∀ l, t.store.get? l = some .directory ↔ s₁.store.get? l = some .directory) ∧
      ∀ program, p.mode = .subprocess program →
        (∃ fault, Workspace.create h s₁ = (.error fault, s₁) ∧
          b.run h compiler s = (.error fault, s₁)) ∨
        ∃ w s₂ u v, Workspace.create h s₁ = (.ok w, s₂) ∧
          Stay h program p.keepWorkspace w s₁ u v t ∧
          ((∀ l, v.store.HasWorkspace l ↔ u.store.HasWorkspace l) →
            ∀ l, (w.location <+: l → l = w.location) →
              (t.store.HasWorkspace l ↔
                s₁.store.HasWorkspace l ∨ p.keepWorkspace = true ∧ l = w.location))) ∧
    (∀ outcome data, (b.run h compiler s).1 = .ok outcome → outcome.data = some data →
      ∃ p descriptor s₁, b.conversion = some p ∧
        compiler.compile h b.schema b.languages s = (.ok descriptor, s₁) ∧
        Converted h (b.conversionOf p descriptor) s₁ p.mode data) := by
  refine ⟨fun languages conversion => run_of_nothing languages conversion h compiler s,
    fun fault s₁ asked failed => ⟨run_of_compile_error asked failed, session_of_compile failed⟩,
    fun p descriptor s₁ conversion compiled => ⟨fun mode l => ?_, fun program mode => ?_⟩,
    fun outcome data ended named => converted_of_run ended named⟩
  · rw [run_of_conversion conversion compiled, (convert_inProcess mode _ _ _).2]
    exact Conversion.get?_onStore_eq_directory_iff
  · rw [run_of_conversion conversion compiled]
    obtain ⟨result, s₂, created⟩ : ∃ result s₂, Workspace.create h s₁ = (result, s₂) :=
      ⟨_, _, rfl⟩
    cases result with
    | error fault =>
      obtain rfl := Workspace.create_eq_error created
      exact Or.inl ⟨fault, created, convert_of_not_created mode created _ _⟩
    | ok w =>
      obtain ⟨u, v, stay⟩ := exists_stay mode created (b.conversionOf p descriptor)
        { descriptor := some descriptor }
      exact Or.inr ⟨w, s₂, u, v, created, stay, fun spared l outside =>
        stay.hasWorkspace (spared l) outside⟩

/-- The host with a program that does nothing and fails. -/
def failingHost : Host :=
  { countsHost with programs := ("false", fun _ _ s => (.exited 1, s)) :: countsHost.programs }

/-- The build whose conversion is left to that program. -/
def failingBuild (keepWorkspace : Bool) : Build :=
  { countsBuild "e" with
    conversion := some { countsPlan with mode := .subprocess "false", keepWorkspace } }

/-- Nothing that is asked for, a compiler that does not exist, a conversion in the same process, a
process that fails, with its workspace kept and removed, and one that succeeds. -/
theorem run_leftovers_counts :
    (countsBuild "e").run countsHost {} (countsSession "e") = (.ok {}, countsSession "e") ∧
    (failingBuild true).run failingHost ⟨"none", []⟩ (countsSession "e") =
      (.error (.toolLaunch "none" .noEntry), countsSession "e") ∧
    (∀ l, (countsRun "e" .inProcess).2.store.get? l = some .directory ↔
      (countsCompiled "e").store.get? l = some .directory) ∧
    (∀ keep, ((failingBuild keep).run failingHost {} (countsSession "e")).2.store.HasWorkspace
      countsWorkspace.location ↔ keep = true) ∧
    ((failingBuild false).run failingHost {} (countsSession "e")).2.store.get?
      (countsWorkspace.location ++ ["e.desc"]) = none ∧
    ∃ s₁, Converted (Command.withItself countsHost) ((countsBuild "e").conversionOf countsPlan
      "./e.desc") s₁ (.subprocess "/bin/root2pb") "/w/o" := by
  have compiled : Compiler.compile {} failingHost "e.proto" [] (countsSession "e") =
      (.ok "./e.desc", countsCompiled "e") := rfl
  have created : ∃ s₂, Workspace.create failingHost (countsCompiled "e") =
      (.ok countsWorkspace, s₂) := by
    refine ⟨_, Prod.ext ?_ rfl⟩
    decide +kernel
  obtain ⟨s₂, created⟩ := created
  have ended : ∀ keep,
      let t := ((failingBuild keep).run failingHost {} (countsSession "e")).2.store
      (t.HasWorkspace countsWorkspace.location ↔ keep = true) ∧
        (keep = false → ∀ l, countsWorkspace.location <+: l → t.get? l = none) := by
    intro keep
    obtain ⟨-, -, converted, -⟩ := run_leftovers (failingBuild keep) failingHost {}
      (countsSession "e")
    obtain ⟨-, inside⟩ := converted _ _ _ rfl compiled
    rcases inside "false" rfl with ⟨fault, failed, -⟩ | ⟨w, s₂', u, v, made, stay, left⟩
    · rw [created] at failed
      cases failed
    · rw [created] at made
      obtain rfl := Except.ok.inj (congrArg Prod.fst made)
      have same : v = u := by
        rcases stay.process with same | ⟨run, d, directory, found, rfl⟩
        · exact same
        · obtain rfl := (Prod.mk.inj (Option.some.inj found)).2
          rfl
      refine ⟨(left (fun _ => same ▸ Iff.rfl) _ fun _ => rfl).trans ⟨fun there => ?_,
        fun kept => Or.inr ⟨kept, rfl⟩⟩, stay.gone⟩
      exact (there.resolve_left stay.fresh).1
  have failed : Compiler.compile ⟨"none", []⟩ failingHost "e.proto" [] (countsSession "e") =
      (.error (.toolLaunch "none" .noEntry), countsSession "e") := rfl
  have succeeded : (countsRun "e" (.subprocess "/bin/root2pb")).1 =
      .ok { descriptor := some "./e.desc", data := some "/w/o" } := by
    decide +kernel
  obtain ⟨nothing, -⟩ := run_leftovers (countsBuild "e") countsHost {} (countsSession "e")
  obtain ⟨-, uncompiled, -⟩ := run_leftovers (failingBuild true) failingHost ⟨"none", []⟩
    (countsSession "e")
  obtain ⟨-, -, same, -⟩ := run_leftovers (withMode (countsBuild "e") countsPlan .inProcess)
    (Command.withItself countsHost) {} (countsSession "e")
  obtain ⟨-, -, -, names⟩ := run_leftovers
    (withMode (countsBuild "e") countsPlan (.subprocess "/bin/root2pb"))
    (Command.withItself countsHost) {} (countsSession "e")
  obtain ⟨p, descriptor, s₁, conversion, compiled', converted⟩ := names _ _ succeeded rfl
  obtain rfl := Option.some.inj conversion
  refine ⟨nothing rfl rfl, (uncompiled _ _ (Or.inr nofun) failed).1, (same _ _ _ rfl rfl).1 rfl,
    fun keep => (ended keep).1, (ended false).2 rfl _ (List.prefix_append _ _), s₁, ?_⟩
  rw [descriptor_of_compile compiled'] at converted
  exact converted

end Build

end TreeWire
