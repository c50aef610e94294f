import TreeWire.Descriptor.Encoder
import TreeWire.Proofs.Handover

/-!
# Both modes of a conversion

A build converts in the same process or in one of its own. This file compares the two for a build
whose schema has compiled. They agree on every conversion that can be handed over. They do not agree
on all the others: a tree whose name looks like an option is refused by the process, and one whose
name has a reference is looked for under another name there.

* `TreeWire.Build.convert_agree` – **both ways to convert** succeed, or both fail;
* `TreeWire.Build.run_modes_agree` – **both modes of a build** leave the same output file;
* `TreeWire.Build.run_modes_differ_counts` – two names on which they do not.
-/

namespace TreeWire

open Store TreeWire.Path

namespace Build

/-! ### Conversions -/

section Conversions

variable {h : Host} {s s₁ : Session} {w : Workspace} {name : String} {c : Conversion}

/-- The conversion of a build in the same process. -/
theorem convert_inProcess {h : Host} {p : Plan} (mode : p.mode = .inProcess) (c : Conversion)
    (made : Outcome) (s : Session) :
    (convert h p c made s).1.isOk = (c.onStore h.workingDirectory s.store).1.isOk ∧
      (convert h p c made s).2.store = (c.onStore h.workingDirectory s.store).2 := by
  rw [convert, mode]
  obtain ⟨valued, kept⟩ := Task.bind_pure (c.run h)
    (fun report => { made with data := some report.output, report := some report }) s
  exact ⟨valued, congrArg Session.store kept⟩

/-- **The conversion of a build** in a process of its own comes to what the process does, and the
workspace is removed or kept in any case. -/
theorem convert_of_created {p : Plan} {program : String} (mode : p.mode = .subprocess program)
    (created : Workspace.create h s = (.ok w, s₁)) (c : Conversion) (made : Outcome) :
    convert h p c made s =
      ((convertInside h program w c s₁).1.map fun data =>
          { made with
            data := some data
            workspace := if p.keepWorkspace then some w.path else none },
        if p.keepWorkspace then (convertInside h program w c s₁).2
        else
          { (convertInside h program w c s₁).2 with
            store := (convertInside h program w c s₁).2.store.remove w.location }) := by
  have attempted : attempt (convertInside h program w c) s₁ =
      (.ok (convertInside h program w c s₁).1, (convertInside h program w c s₁).2) := rfl
  rw [convert, mode]
  simp only
  rw [Task.bind_of_ok created, Task.bind_of_ok attempted]
  obtain ⟨result, t⟩ := convertInside h program w c s₁
  cases p.keepWorkspace <;> cases result <;> rfl

/-- The conversion of a build in a process of its own. -/
theorem convert_subprocess {h : Host} {p : Plan} {program : String}
    (mode : p.mode = .subprocess program) (created : Workspace.create h s = (.ok w, s₁))
    (c : Conversion) (made : Outcome) :
    (convert h p c made s).1.isOk = (convertInside h program w c s₁).1.isOk ∧
      AgreeOff w.location (convertInside h program w c s₁).2.store
        (convert h p c made s).2.store := by
  rw [convert_of_created mode created]
  refine ⟨by cases (convertInside h program w c s₁).1 <;> rfl, ?_⟩
  cases p.keepWorkspace with
  | true => exact AgreeOff.refl _ _
  | false => exact (AgreeOff.refl _ _).remove

/-- **Both ways to convert agree.** -/
theorem convert_agree {p : Plan} (created : Workspace.create h s = (.ok w, s₁))
    (ready : Ready h s.store w) (named : Path.fileName? c.descriptor = some name)
    (transferable : Transferable s.store h.workingDirectory w name c) (made : Outcome) :
    (convert (Command.withItself h) { p with mode := .subprocess h.executable } c made s).1.isOk =
        (convert (Command.withItself h) { p with mode := .inProcess } c made s).1.isOk ∧
      AgreeOff w.location
        (convert (Command.withItself h) { p with mode := .inProcess } c made s).2.store
        (convert (Command.withItself h) { p with mode := .subprocess h.executable } c made
          s).2.store := by
  have created' : Workspace.create (Command.withItself h) s = (.ok w, s₁) := created
  obtain ⟨ok, files⟩ := convert_inProcess (h := Command.withItself h)
    (p := { p with mode := .inProcess }) rfl c made s
  obtain ⟨ok', files'⟩ := convert_subprocess (p := { p with mode := .subprocess h.executable }) rfl
    created' c made
  obtain ⟨same, agree⟩ := convertInside_agree created ready named transferable
  exact ⟨ok'.trans (same.trans ok.symm), files ▸ agree.trans files'⟩

/-- **The outcomes of both ways to convert**: both succeed and leave the same output file, or both
fail. -/
theorem exists_outcomes {p : Plan} (created : Workspace.create h s = (.ok w, s₁))
    (ready : Ready h s.store w) (named : Path.fileName? c.descriptor = some name)
    (transferable : Transferable s.store h.workingDirectory w name c) (made : Outcome) :
    ∃ outcome outcome' t t',
      convert (Command.withItself h) { p with mode := .inProcess } c made s = (outcome, t) ∧
        convert (Command.withItself h) { p with mode := .subprocess h.executable } c made s =
          (outcome', t') ∧
        AgreeOff w.location t.store t'.store ∧
        ((∃ bytes made made', outcome = .ok made ∧ outcome' = .ok made' ∧
            t.store.read h.workingDirectory c.output = .ok bytes ∧
            t'.store.read h.workingDirectory c.output = .ok bytes) ∨
          ∃ fault fault', outcome = .error fault ∧ outcome' = .error fault') := by
  obtain ⟨ok, files⟩ := convert_inProcess (h := Command.withItself h)
    (p := { p with mode := .inProcess }) rfl c made s
  obtain ⟨same, agree⟩ := convert_agree (p := p) created ready named transferable made
  generalize convert (Command.withItself h) { p with mode := .inProcess } c made s = here at *
  generalize convert (Command.withItself h) { p with mode := .subprocess h.executable } c made s =
    there at *
  obtain ⟨outcome, t⟩ := here
  obtain ⟨outcome', t'⟩ := there
  refine ⟨outcome, outcome', t, t', rfl, rfl, agree, ?_⟩
  -- by now the output file is written, but the path still avoids the workspace
  have avoids : t.store.Avoids w.location h.workingDirectory c.output := by
    refine KeepsOff.congr (fun k => ?_) transferable.output.avoids
    rw [show t.store = _ from files]
    exact Conversion.get?_onStore_eq_directory_iff
  have reads := agree.read_eq avoids
  cases outcome with
  | error fault =>
    cases outcome' with
    | error fault' => exact Or.inr ⟨fault, fault', rfl, rfl⟩
    | ok made' => cases same
  | ok made =>
    cases outcome' with
    | error fault' => cases same
    | ok made' =>
      obtain ⟨bytes, read⟩ := Conversion.exists_read_of_onStore ok.symm
      have read : t.store.read h.workingDirectory c.output = .ok bytes := by
        rw [← read]
        exact congrArg (Store.read · _ _) files
      exact Or.inl ⟨bytes, made, made', rfl, rfl, read, reads.trans read⟩

end Conversions

/-! ### Builds -/

/-- The name of a descriptor set can be part of a path. -/
theorem descriptorName_spec (schema : String) :
    '/' ∉ (descriptorName schema).toList ∧ isComponent (descriptorName schema).toList = true ∧
      descriptorName schema ≠ ".." :=
  append_spec (slash_notMem_stem schema (by decide)) (by decide) (by decide)

/-- **The file name of a descriptor set** next to its schema. -/
theorem fileName?_descriptorPath (schema : String) :
    Path.fileName? (descriptorPath schema) = some (descriptorName schema) := by
  obtain ⟨free, counts, down⟩ := descriptorName_spec schema
  exact fileName?_join (directory_ne_empty schema) free counts down

/-- A schema that compiles has its descriptor set next to it. -/
theorem descriptor_of_compile {compiler : Compiler} {h : Host} {schema descriptor : String}
    {languages : List String} {s s' : Session}
    (compiled : compiler.compile h schema languages s = (.ok descriptor, s')) :
    descriptor = descriptorPath schema := by
  rw [Compiler.compile] at compiled
  obtain ⟨arguments, u, -, compiled⟩ := Task.bind_eq_ok compiled
  obtain ⟨-, v, -, compiled⟩ := Task.bind_eq_ok compiled
  exact (Except.ok.inj (congrArg Prod.fst compiled)).symm

/-- The build with its conversion in a mode. -/
def withMode (b : Build) (p : Plan) (mode : Mode) : Build :=
  { b with conversion := some { p with mode } }

/-- A build with a conversion, once its schema is compiled. -/
theorem run_of_compiled {compiler : Compiler} {h : Host} {b : Build} {descriptor : String}
    {s s' : Session}
    (compiled : compiler.compile h b.schema b.languages s = (.ok descriptor, s')) (p : Plan)
    (mode : Mode) :
    (withMode b p mode).run h compiler s =
      convert h { p with mode } (b.conversionOf p descriptor) { descriptor := some descriptor }
        s' := by
  have asked : ¬ ((withMode b p mode).languages = [] ∧ (withMode b p mode).conversion = none) := by
    simp [withMode]
  rw [run, if_neg asked]
  exact Task.bind_of_ok compiled

/-- **The two modes of a conversion agree.** The process is asked for the conversion as it is, in
every environment. Both modes succeed and leave the same output file, or both fail; and all files
outside of the workspace are the same after both. -/
theorem run_modes_agree {h : Host} {b : Build} {p : Plan} {compiler : Compiler} {s s₁ s₂ : Session}
    {descriptor : String} {w : Workspace}
    (compiled : compiler.compile (Command.withItself h) b.schema b.languages s =
      (.ok descriptor, s₁))
    (created : Workspace.create h s₁ = (.ok w, s₂)) (ready : Ready h s₁.store w)
    (transferable : Transferable s₁.store h.workingDirectory w (descriptorName b.schema)
      (b.conversionOf p descriptor)) :
    (∀ environment, ∃ o,
      Command.parse (inside h.workingDirectory w (descriptorName b.schema)
          (b.conversionOf p descriptor)).arguments = .ok (.convert o) ∧
        o.conversion { h with workingDirectory := w.path, environment } =
          .ok (inside h.workingDirectory w (descriptorName b.schema)
            (b.conversionOf p descriptor))) ∧
      ∃ outcome outcome' t t',
        (withMode b p .inProcess).run (Command.withItself h) compiler s = (outcome, t) ∧
          (withMode b p (.subprocess h.executable)).run (Command.withItself h) compiler s =
            (outcome', t') ∧
          AgreeOff w.location t.store t'.store ∧
          ((∃ bytes made made', outcome = .ok made ∧ outcome' = .ok made' ∧
              t.store.read h.workingDirectory p.output = .ok bytes ∧
              t'.store.read h.workingDirectory p.output = .ok bytes) ∨
            ∃ fault fault', outcome = .error fault ∧ outcome' = .error fault') := by
  have named : Path.fileName? (b.conversionOf p descriptor).descriptor =
      some (descriptorName b.schema) := by
    rw [← fileName?_descriptorPath, ← descriptor_of_compile compiled]
    rfl
  obtain ⟨base, names, -, -, -, made, -⟩ := Workspace.create_eq_ok created
  obtain ⟨free, -⟩ := Workspace.freshDirectory_spec names
  constructor
  · intro environment
    have root : isAbsolute w.path.toList = true := by
      rw [made]
      exact isAbsolute_join ready.temporary_root (not_isAbsolute_of_notMem free)
    have copy_root := isAbsolute_join root
      (not_isAbsolute_of_notMem (descriptorName_spec b.schema).1)
    exact (Command.restored_iff (c := inside h.workingDirectory w (descriptorName b.schema)
      (b.conversionOf p descriptor)) transferable.bits).mpr ⟨transferable.plain ready.stands.root
        copy_root, transferable.settled ready.stands.root _⟩
  · rw [run_of_compiled compiled, run_of_compiled compiled]
    exact exists_outcomes created ready named transferable { descriptor := some descriptor }

/-! ### One build under several names -/

/-- A schema for one number an entry. -/
def countsSchema : DescriptorSet where
  files :=
    [{ messages :=
        [{ name := some "Event"
           fields :=
             [{ name := some "x", number := some 1, type := some 5
                options := some { sourceBranch := some "x" } }] }] }]

/-- A host with a working directory. Its compiler leaves the descriptor set of the schema. -/
def countsHost : Host where
  workingDirectory := "/w"
  temporaryDirectory := "/tmp"
  executable := "/bin/root2pb"
  environment := fun _ => none
  programs :=
    [("protoc", fun _ _ s =>
      (.exited 0, { s with store := s.store.put ["w", "e.desc"] (.file countsSchema.encode) }))]

/-- A data file with two entries in a tree of the name. -/
def countsSession (tree : String) : Session where
  store :=
    { nodes :=
        [(["w"], .directory), (["tmp"], .directory),
          (["w", "e.json"], .file (utf8 ("\x7b\"trees\":[\x7b\"name\":\"" ++ tree ++
            "\",\"branches\":[\x7b\"name\":\"x\",\"leaf_type\":\"Int_t\"," ++
            "\"values\":[1,2]\x7d]\x7d]\x7d")))] }

/-- The build for the tree of the name. -/
def countsBuild (tree : String) : Build where
  source := "e.json"
  tree := tree
  schema := "e.proto"
  languages := []
  conversion := none

/-- The conversion of all entries. -/
def countsPlan : Plan where
  mode := .inProcess
  output := "o"
  message := some "Event"
  limit := -1
  framing := .concatenated
  keepWorkspace := false

/-- The session of the build once its schema is compiled. -/
def countsCompiled (tree : String) : Session where
  store := (countsSession tree).store.put ["w", "e.desc"] (.file countsSchema.encode)

/-- A run of the build for the tree of the name. -/
def countsRun (tree : String) (mode : Mode) : Except Fault Outcome × Session :=
  (withMode (countsBuild tree) countsPlan mode).run (Command.withItself countsHost) {}
    (countsSession tree)

/-- A fresh workspace next to the working directory. -/
def countsWorkspace : Workspace := ⟨"/tmp/root2pb-0", ["tmp", "root2pb-0"]⟩

/-- The paths of the build avoid the workspace. -/
theorem avoids_counts {s : Store} {path : String}
    (one : path = "e.json" ∨ path = "o" ∨ path = "./e.desc") :
    s.Avoids countsWorkspace.location "/w" path := by
  have place : countsWorkspace.location = ["tmp"] ++ ["root2pb-0"] := rfl
  rcases one with rfl | rfl | rfl <;> exact Avoids.of_notMem place (by decide) (by decide)

/-- The paths of the files that are read and written can be handed over. -/
theorem carried_counts {s : Store} {path : String} (one : path = "e.json" ∨ path = "o") :
    Carried s countsWorkspace "/w" path := by
  have avoids : s.Avoids countsWorkspace.location "/w" path :=
    avoids_counts (one.elim Or.inl fun output => Or.inr (Or.inl output))
  rcases one with rfl | rfl <;>
    exact ⟨⟨by decide, by decide, by decide +kernel⟩, avoids,
      Command.expand_eq_self (by decide +kernel)⟩

/-- A name that is a word: both modes leave the header and the two entries. -/
theorem run_modes_agree_counts :
    ∃ made made' t t', countsRun "e" .inProcess = (.ok made, t) ∧
      countsRun "e" (.subprocess "/bin/root2pb") = (.ok made', t') ∧
      t.store.read "/w" "o" = .ok [8, 2, 8, 1, 8, 2] ∧
      t'.store.read "/w" "o" = .ok [8, 2, 8, 1, 8, 2] := by
  have compiled : Compiler.compile {} (Command.withItself countsHost) "e.proto" []
      (countsSession "e") = (.ok "./e.desc", countsCompiled "e") := rfl
  have created : (Workspace.create countsHost (countsCompiled "e")).1 =
      .ok countsWorkspace := by
    decide +kernel
  have ran : (countsRun "e" .inProcess).1.isOk = true ∧
      (countsRun "e" .inProcess).2.store.read "/w" "o" = .ok [8, 2, 8, 1, 8, 2] := by
    decide +kernel
  obtain ⟨-, outcome, outcome', t, t', here, there, -, both | neither⟩ :=
    run_modes_agree (b := countsBuild "e") (p := countsPlan) compiled (Prod.ext created rfl)
      { stands := ⟨by decide, by decide, by decide⟩
        directory := by decide
        temporary_root := by decide
        executable := by decide
        short := by decide }
      { tree_ne := by decide
        tree_plain := (Command.takes_iff (o := Command.treeOption) rfl).mp (by decide)
        tree_noZero := by decide
        tree_fixed := Command.expand_eq_self (by decide)
        message_plain := by
          rintro message ⟨⟩
          exact (Command.takes_iff (o := Command.messageOption) rfl).mp (by decide)
        message_noZero := by decide
        bits := by decide
        source := carried_counts (Or.inl rfl)
        output := carried_counts (Or.inr rfl)
        descriptor_avoids := avoids_counts (Or.inr (Or.inr rfl))
        descriptor_short := by decide +kernel
        descriptor_fixed := Command.expand_eq_self (by decide +kernel) }
  · obtain ⟨bytes, made, made', rfl, rfl, read, read'⟩ := both
    rw [countsRun, here] at ran
    obtain rfl := Except.ok.inj (read.symm.trans ran.2)
    exact ⟨made, made', t, t', here, there, read, read'⟩
  · obtain ⟨fault, fault', rfl, -⟩ := neither
    rw [countsRun, here] at ran
    cases ran.1

/-- A name that looks like an option and a name with a reference: the build succeeds in the same
process, and the process of its own refuses its command line or does not find the tree. -/
theorem run_modes_differ_counts :
    (countsRun "-e" .inProcess).1.isOk = true ∧
      (countsRun "-e" (.subprocess "/bin/root2pb")).1 =
        .error (.toolFailed "/bin/root2pb" "exit status: 2") ∧
      (countsRun "e$n" .inProcess).1.isOk = true ∧
      (countsRun "e$n" (.subprocess "/bin/root2pb")).1 =
        .error (.toolFailed "/bin/root2pb" "exit status: 1") := by
  decide +kernel

end Build

end TreeWire
