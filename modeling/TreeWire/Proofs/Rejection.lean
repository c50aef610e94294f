import TreeWire.Proofs.Compression
import TreeWire.Proofs.Description
import TreeWire.Proofs.Leftovers
import TreeWire.Proofs.Numbering

/-!
# Requests for schemas that are refused

A request for a schema goes through a chain of checks: a data file and a tree have to be named, the
file has to be a dump that can be read, the tree has to be in it, and the names of the package and
of the message have to be valid, whether they come from the command line or from the environment.
All of these are made before the schema is written, so that a request that does not pass them leaves
all files as they are. Nothing else that is asked for plays a part in that: neither the compiler nor
a conversion is started, and the failure is the same for all languages, conversions and outputs.

A request that passes the checks and asks for nothing more only writes the schema. What has been at
its place before is lost, and the file is the text of the document that is made of the tree.

* `TreeWire.Command.GenerateOptions.Passes` – **requests that pass the checks**;
* `TreeWire.Command.GenerateOptions.checked` – what is done before the schema is written, with
  `TreeWire.Command.GenerateOptions.passes_of_checked` and
  `TreeWire.Command.GenerateOptions.checked_of_passes` for what it comes to;
* `TreeWire.Command.generate_of_refused`, `TreeWire.Command.generate_of_checked` – the ways in which
  a request ends;
* `TreeWire.Command.run_generate` – **the main statement.**
-/

namespace TreeWire

namespace Command

open Store

variable {h h' : Host} {o o' : GenerateOptions} {s : Store}

/-! ### Requests that pass the checks -/

namespace GenerateOptions

/-- The package that is asked for, on the command line or else by the environment. -/
def packageName (o : GenerateOptions) (lookup : Lookup) : String :=
  o.package.getD (Settings.of lookup).package

/-- The name of the data message that is asked for, on the command line or else by the
environment. -/
def messageName (o : GenerateOptions) (lookup : Lookup) : String :=
  o.message.getD (Settings.of lookup).message

/-- The schema that is asked for. -/
def schema (o : GenerateOptions) (lookup : Lookup) : String := expand lookup o.output

/-- The fields that are asked for, of a tree. -/
def fields (o : GenerateOptions) (t : Tree) : Except Fault (List Field) :=
  (t.extract (Selection.parse o.branches) Numbering.start).1

/-- **A request that passes the checks** in an environment and a working directory, with the data
file and the tree that it finds. -/
structure Passes (o : GenerateOptions) (lookup : Lookup) (workingDirectory : String) (s : Store)
    (source : Source) (t : Tree) : Prop where
  /-- A data file is named. -/
  file : o.file.getD "" ≠ ""
  /-- A tree is named. -/
  tree : o.tree.getD "" ≠ ""
  /-- The data file is a dump that can be read. -/
  opened : Source.open s workingDirectory (expand lookup (o.file.getD "")) = .ok source
  /-- The tree is in it. -/
  found : source.tree (expand lookup (o.tree.getD "")) = .ok t
  /-- The package is one. -/
  package : isPackage (o.packageName lookup) = true
  /-- The name of the data message is an identifier. -/
  message : isIdentifier (o.messageName lookup) = true
  /-- The name of the header is not taken. -/
  free : o.messageName lookup ≠ headerMessage

/-- **A schema that is written**, between two stores: it holds the text of the document of the tree,
and nothing else is changed. -/
structure Writes (o : GenerateOptions) (lookup : Lookup) (workingDirectory : String) (t : Tree)
    (doc : Document) (l : Location) (s s' : Store) : Prop where
  /-- The package is the one that is asked for. -/
  package : doc.package = o.packageName lookup
  /-- The name of the data message is the one that is asked for. -/
  message : doc.message = o.messageName lookup
  /-- The fields are those of the tree. -/
  fields : o.fields t = .ok doc.fields
  /-- The schema leads to the location. -/
  place : s.locate workingDirectory (o.schema lookup) = .ok l
  /-- The file there is the text of the document. -/
  text : s'.read workingDirectory (o.schema lookup) = .ok (utf8 doc.render)
  /-- Every other location is left as it is. -/
  others : ∀ k, k ≠ l → s'.get? k = s.get? k

/-- **Requests with the same checks**: they differ at most in what is made after these. -/
structure SameChecks (o o' : GenerateOptions) : Prop where
  /-- The data file is the same. -/
  file : o'.file = o.file
  /-- The tree is the same. -/
  tree : o'.tree = o.tree
  /-- The selection is the same. -/
  branches : o'.branches = o.branches
  /-- The package is the same. -/
  package : o'.package = o.package
  /-- The name of the data message is the same. -/
  message : o'.message = o.message

end GenerateOptions

/-- **What a command needs** has to be given and is not empty. -/
theorem require_eq_ok_iff {option : String} {value : Option String} {v : String} :
    require h option value = .ok v ↔
      value.getD "" ≠ "" ∧ v = expand h.environment (value.getD "") := by
  cases value with
  | none => exact ⟨nofun, fun ⟨given, _⟩ => absurd rfl given⟩
  | some text =>
    rw [require, Option.getD_some]
    by_cases empty : text = ""
    · simp [empty]
    · simp [empty, eq_comm]

namespace GenerateOptions

/-- **What is done before the schema is written**: all checks, and the document. -/
def checked (o : GenerateOptions) (h : Host) (s : Store) : Except Failure Document := do
  let file ← require h "--file" o.file
  let tree ← require h "--tree" o.tree
  (o.document (Settings.of h.environment) h file tree s).mapError Failure.ofFault

/-- The checks depend on nothing else. -/
theorem checked_congr (h h' : Host) (same : o.SameChecks o')
    (environment : h'.environment = h.environment)
    (workingDirectory : h'.workingDirectory = h.workingDirectory) (s : Store) :
    o'.checked h' s = o.checked h s := by
  simp only [checked, require, document, same.file, same.tree, same.branches, same.package,
    same.message, environment, workingDirectory]

/-- Fields are only missing if there are more selected branches than numbers. -/
theorem lt_of_fields_eq_error {t : Tree} {fault : Fault} (failed : o.fields t = .error fault) :
    largestFieldNumber < (selected (Selection.parse o.branches) t.branches).length := by
  by_contra enough
  have left : Numbering.start.next + (selected (Selection.parse o.branches) t.branches).length ≤
      largestFieldNumber + 1 := by
    change 1 + _ ≤ _
    omega
  obtain ⟨made, extracted, -⟩ := exists_fieldsOf [] Numbering.start left
  rw [fields, Tree.extract, extracted] at failed
  cases failed

/-- **The document** of a tree that is found. -/
theorem document_of_found {file tree : String} {source : Source} {t : Tree}
    (opened : Source.open s h.workingDirectory file = .ok source)
    (found : source.tree tree = .ok t) :
    o.document (Settings.of h.environment) h file tree s = (do
      let fields ← o.fields t
      (Document.of (o.packageName h.environment) (o.messageName h.environment) fields).mapError
        fun flaw => .invalidName flaw.text) := by
  rw [document, Source.emission, opened]
  change (source.extract tree _ _).1 >>= _ = _
  rw [Source.extract, found]
  rfl

/-- A request that comes to a document passes the checks. -/
theorem passes_of_checked {doc : Document} (made : o.checked h s = .ok doc) :
    ∃ source t, o.Passes h.environment h.workingDirectory s source t := by
  rw [checked] at made
  obtain ⟨file, named, made⟩ := bind_eq_ok_iff.mp made
  obtain ⟨tree, named', made⟩ := bind_eq_ok_iff.mp made
  obtain ⟨given, rfl⟩ := require_eq_ok_iff.mp named
  obtain ⟨given', rfl⟩ := require_eq_ok_iff.mp named'
  have made := mapError_eq_ok_iff.mp made
  obtain ⟨_, emitted, -⟩ := bind_eq_ok_iff.mp made
  obtain ⟨source, opened, extracted⟩ := bind_eq_ok_iff.mp emitted
  obtain ⟨t, found⟩ : ∃ t, source.tree (expand h.environment (o.tree.getD "")) = .ok t := by
    cases found : source.tree (expand h.environment (o.tree.getD "")) with
    | ok t => exact ⟨t, rfl⟩
    | error fault =>
      simp only [Source.extract, found] at extracted
      cases extracted
  rw [document_of_found opened found] at made
  obtain ⟨fields, -, named⟩ := bind_eq_ok_iff.mp made
  obtain ⟨package, message, -⟩ := Document.of_eq_ok (mapError_eq_ok_iff.mp named)
  exact ⟨source, t,
    { file := given
      tree := given'
      opened
      found
      package := package ▸ doc.isPackage_package
      message := message ▸ doc.isIdentifier_message
      free := message ▸ doc.message_ne }⟩

/-- A request that does not pass the checks is refused. -/
theorem exists_checked_eq_error
    (fails : ∀ source t, ¬ o.Passes h.environment h.workingDirectory s source t) :
    ∃ failure, o.checked h s = .error failure := by
  cases made : o.checked h s with
  | error failure => exact ⟨failure, rfl⟩
  | ok doc =>
    obtain ⟨source, t, passes⟩ := passes_of_checked made
    exact absurd passes (fails source t)

/-- **A request that passes the checks** comes to the document of the fields, if there are numbers
for all of these. -/
theorem checked_of_passes {source : Source} {t : Tree}
    (passes : o.Passes h.environment h.workingDirectory s source t) :
    (∀ fault, o.fields t = .error fault → o.checked h s = .error (Failure.ofFault fault)) ∧
    ∀ fields, o.fields t = .ok fields → ∃ doc,
      Document.of (o.packageName h.environment) (o.messageName h.environment) fields = .ok doc ∧
        o.checked h s = .ok doc := by
  have file : require h "--file" o.file = .ok _ := require_eq_ok_iff.mpr ⟨passes.file, rfl⟩
  have tree : require h "--tree" o.tree = .ok _ := require_eq_ok_iff.mpr ⟨passes.tree, rfl⟩
  rw [checked, file, tree]
  simp only [bind, Except.bind]
  rw [document_of_found passes.opened passes.found]
  constructor
  · intro fault failed
    rw [failed]
    rfl
  · intro fields extracted
    have made : Document.of (o.packageName h.environment) (o.messageName h.environment) fields =
        .ok ⟨_, _, fields, passes.package, passes.message, passes.free⟩ := by
      rw [Document.of, dif_pos passes.package, dif_pos passes.message, dif_neg passes.free]
    refine ⟨_, made, ?_⟩
    rw [extracted]
    simp only [bind, Except.bind, made]
    rfl

end GenerateOptions

/-! ### The ways in which a request ends -/

section Endings

variable {u : Session} {failure : Failure} {doc : Document}

/-- A text whose file cannot be created is not written. -/
theorem writeText_of_error {path text : String} {e : SystemError}
    (failed : u.store.create h.workingDirectory path = .error e) :
    writeText h path text u = (.error (.io e), u) := by
  simp only [writeText, Task.onStore, failed]

/-- **A text that is written** is all that its file holds. -/
theorem writeText_of_created {path text : String} {l : Location}
    (created : u.store.create h.workingDirectory path = .ok (l, u.store.put l (.file []))) :
    writeText h path text u = (.ok (), { u with store := u.store.put l (.file (utf8 text)) }) := by
  simp only [writeText, Task.onStore, created, put_put]

/-- **A request that is refused** only prints. -/
theorem generate_of_refused (refused : o.checked h u.store = .error failure) :
    ∃ output, generate h o u = (.error failure, { u with output }) := by
  rw [GenerateOptions.checked] at refused
  rw [generate]
  rcases bind_eq_error_iff.mp refused with missing | ⟨file, named, refused⟩
  · exact ⟨u.output, Task.bind_of_error ((Task.lift_apply _).trans (by rw [missing]))⟩
  rw [named, Task.bind_of_ok (Task.lift_apply (.ok file))]
  rcases bind_eq_error_iff.mp refused with missing | ⟨tree, named', refused⟩
  · exact ⟨u.output, Task.bind_of_error ((Task.lift_apply _).trans (by rw [missing]))⟩
  rw [named', Task.bind_of_ok (Task.lift_apply (.ok tree))]
  simp only [Task.print_bind]
  exact ⟨_, Task.bind_of_error ((Task.mapFault_apply Failure.ofFault (Task.look_apply _)).trans
    (by rw [refused]))⟩

/-- **A request that is not refused** writes the schema. If it cannot be created, nothing is
written; and if nothing else is asked for, nothing else is done. -/
theorem generate_of_checked (made : o.checked h u.store = .ok doc) :
    (∀ e, u.store.create h.workingDirectory (o.schema h.environment) = .error e →
      ∃ output, generate h o u = (.error (Failure.ofFault (.io e)), { u with output })) ∧
    ∀ l, u.store.create h.workingDirectory (o.schema h.environment) =
        .ok (l, u.store.put l (.file [])) →
      o.languages = [] → o.convert = false →
        ∃ output, generate h o u =
          (.ok (), { u with store := u.store.put l (.file (utf8 doc.render)), output }) := by
  rw [GenerateOptions.checked] at made
  obtain ⟨file, named, made⟩ := bind_eq_ok_iff.mp made
  obtain ⟨tree, named', made⟩ := bind_eq_ok_iff.mp made
  have made := mapError_eq_ok_iff.mp made
  rw [generate, named, Task.bind_of_ok (Task.lift_apply (.ok file)), named',
    Task.bind_of_ok (Task.lift_apply (.ok tree))]
  simp only [Task.print_bind]
  rw [Task.bind_of_ok (Task.mapFault_apply Failure.ofFault (x := .ok doc)
    ((Task.look_apply _).trans (by rw [made])))]
  constructor
  · intro e failed
    exact ⟨_, Task.bind_of_error (Task.mapFault_apply Failure.ofFault
      (x := .error (.io e)) (writeText_of_error failed))⟩
  · intro l created languages convert
    have unasked : o.plan h file (expand h.environment o.output) doc.message = none := by
      simp [GenerateOptions.plan, convert]
    have written : ∀ output, writeText h (expand h.environment o.output) doc.render
        { u with output } =
          (.ok (), { u with store := u.store.put l (.file (utf8 doc.render)), output }) :=
      fun _ => writeText_of_created created
    rw [Task.bind_of_ok (Task.mapFault_apply Failure.ofFault (written _))]
    simp only [Task.print_bind]
    -- there is nothing to build
    exact ⟨_, (Task.bind_of_ok (Task.mapFault_apply Failure.ofFault
      (Build.run_of_nothing languages unasked h _ _))).trans rfl⟩

end Endings

/-! ### Runs -/

/-- The host of a run, once its variables are known. -/
def prepared (h : Host) (lookup : Lookup) : Host := withItself { h with environment := lookup }

section Runs

variable {words : List String} {lookup : Lookup} {u : Session}

/-- A run for a schema ends as the request does, once the variables are known. -/
theorem run_of_generate (asked : parse words = .ok (.generate o))
    (known : Definitions.environment h.environment u.store h.workingDirectory = lookup) :
    run h words u =
      finish "generate" (generate (prepared h lookup) o u) := by
  rw [run, runWith, asked, ← known]
  rfl

/-- A run whose request fails ends with the code 1 and a message. -/
theorem exists_run_of_error {failure : Failure} (asked : parse words = .ok (.generate o))
    (known : Definitions.environment h.environment u.store h.workingDirectory = lookup)
    (failed : ∃ output, generate (prepared h lookup) o u = (.error failure, { u with output })) :
    ∃ output, run h words u =
      (1, { u with output, errors := u.errors ++ failureText "generate" failure }) := by
  obtain ⟨output, failed⟩ := failed
  refine ⟨output, ?_⟩
  rw [run_of_generate asked known, failed]
  rfl

/-- **Requests for schemas.** Whatever the files and the environment: if a request does not pass the
checks, then it fails and leaves all files as they are, with the same message for all programs that
can be started and for everything else that can be asked for. If it passes them and nothing else is
asked for, then it succeeds and only writes the schema, or else it leaves all files as they are
because there are more selected branches than numbers or because the schema cannot be created. -/
theorem run_generate (asked : parse words = .ok (.generate o))
    (known : Definitions.environment h.environment u.store h.workingDirectory = lookup) :
    ((∀ source t, ¬ o.Passes lookup h.workingDirectory u.store source t) →
      ∃ errors, ∀ (h' : Host) (words' : List String) (o' : GenerateOptions),
        h'.workingDirectory = h.workingDirectory → h'.environment = h.environment →
        parse words' = .ok (.generate o') → o.SameChecks o' →
          ∃ output, run h' words' u = (1, { u with output, errors })) ∧
    ∀ source t, o.Passes lookup h.workingDirectory u.store source t →
      o.languages = [] → o.convert = false →
        (∃ doc l v, run h words u = (0, v) ∧
          o.Writes lookup h.workingDirectory t doc l u.store v.store) ∨
        (∃ output errors, run h words u = (1, { u with output, errors })) ∧
          (largestFieldNumber < (selected (Selection.parse o.branches) t.branches).length ∨
            ∃ e, u.store.create h.workingDirectory (o.schema lookup) = .error e) := by
  refine ⟨fun fails => ?_, fun source t passes languages convert => ?_⟩
  · obtain ⟨failure, refused⟩ :=
      GenerateOptions.exists_checked_eq_error (h := prepared h lookup) fails
    refine ⟨u.errors ++ failureText "generate" failure, ?_⟩
    intro h' words' o' directory environment asked' same
    have checked : o'.checked (prepared h' lookup) u.store =
        o.checked (prepared h lookup) u.store :=
      GenerateOptions.checked_congr (prepared h lookup) (prepared h' lookup) same rfl directory _
    have known' : Definitions.environment h'.environment u.store h'.workingDirectory = lookup := by
      rw [directory, environment, known]
    exact exists_run_of_error asked' known' (generate_of_refused (checked.trans refused))
  · obtain ⟨unnumbered, numbered⟩ :=
      GenerateOptions.checked_of_passes (h := prepared h lookup) passes
    cases extracted : o.fields t with
    | error fault =>
      obtain ⟨output, failed⟩ :=
        exists_run_of_error asked known (generate_of_refused (unnumbered fault extracted))
      exact Or.inr ⟨⟨output, _, failed⟩, Or.inl (GenerateOptions.lt_of_fields_eq_error extracted)⟩
    | ok fields =>
      obtain ⟨doc, named, made⟩ := numbered fields extracted
      obtain ⟨package, message, rfl⟩ := Document.of_eq_ok named
      obtain ⟨uncreated, written⟩ := generate_of_checked made
      cases created : u.store.create h.workingDirectory (o.schema lookup) with
      | error e =>
        obtain ⟨output, failed⟩ := exists_run_of_error asked known (uncreated e created)
        exact Or.inr ⟨⟨output, _, failed⟩, Or.inr ⟨e, rfl⟩⟩
      | ok place =>
        obtain ⟨l, empty⟩ := place
        obtain ⟨-, located, free, rfl⟩ := create_eq_ok_iff.mp created
        obtain ⟨output, ended⟩ := written l created languages convert
        refine Or.inl ⟨doc, l, { u with store := _, output }, ?_, package, message, extracted,
          located, read_put_self free located, fun k other => ?_⟩
        · rw [run_of_generate asked known, ended]
          rfl
        · exact (get?_put (ne_nil_of_free free) _ _ k).trans (if_neg other)

end Runs

/-! ### A schema in the place of another file -/

/-- A host with a compiler that would make a directory of the schema. -/
def eventsHost : Host where
  workingDirectory := "/"
  temporaryDirectory := "/"
  executable := "/root2pb"
  environment := fun _ => none
  programs :=
    [("protoc", fun _ _ s =>
      (.exited 0, { s with store := s.store.put ["event.proto"] .directory }))]

/-- A data file with a tree, and another file in the place of the schema. -/
def eventsSession : Session where
  store := ⟨[(["d.json"], .file Source.smallDump), (["event.proto"], .file [0])]⟩

/-- The options for the schema of the tree, with a package. -/
def eventsOptions (package : Option String) (languages : List String) : GenerateOptions where
  file := some "d.json"
  tree := some "t"
  output := "event.proto"
  branches := ""
  package := package
  message := none
  languages := languages
  convert := false
  subprocess := false
  dataOutput := none
  limit := -1
  framing := .concatenated
  keepWorkspace := false

/-- A package that is none: the compiler is not started, and the other file is still there. With the
package of the environment, the schema takes its place. -/
theorem run_generate_events :
    (∃ output errors, run eventsHost
      ["generate", "-f", "d.json", "-t", "t", "--package", "1", "--gen", "cpp"] eventsSession =
        (1, { eventsSession with output, errors })) ∧
    ∃ (doc : Document) (v : Session),
      run eventsHost ["generate", "-f", "d.json", "-t", "t"] eventsSession = (0, v) ∧
      doc.package = "root2pb" ∧ doc.message = "Event" ∧ doc.fields = [] ∧
      v.store.read "/" "event.proto" = .ok (utf8 doc.render) := by
  have known : Definitions.environment eventsHost.environment eventsSession.store
      eventsHost.workingDirectory = fun _ => none := rfl
  constructor
  · have asked : parse ["generate", "-f", "d.json", "-t", "t", "--package", "1", "--gen", "cpp"] =
        .ok (.generate (eventsOptions (some "1") ["cpp"])) := by
      decide +kernel
    have fails : ∀ source t, ¬ (eventsOptions (some "1") ["cpp"]).Passes (fun _ => none)
        eventsHost.workingDirectory eventsSession.store source t := by
      intro source t passes
      exact absurd passes.package (by decide)
    obtain ⟨errors, refused⟩ := (run_generate asked known).1 fails
    obtain ⟨output, ended⟩ := refused eventsHost _ _ rfl rfl asked ⟨rfl, rfl, rfl, rfl, rfl⟩
    exact ⟨output, errors, ended⟩
  · have asked : parse ["generate", "-f", "d.json", "-t", "t"] =
        .ok (.generate (eventsOptions none [])) := by
      decide +kernel
    have file : expand (fun _ => none) "d.json" = "d.json" := expand_eq_self (by decide) _
    have tree : expand (fun _ => none) "t" = "t" := expand_eq_self (by decide) _
    have schema : (eventsOptions none []).schema (fun _ => none) = "event.proto" :=
      expand_eq_self (by decide) _
    have created : (eventsSession.store.create "/" "event.proto").isOk = true := by decide +kernel
    have opened : Source.open eventsSession.store "/" "d.json" =
        .ok ⟨"d.json", [Source.smallTree]⟩ := rfl
    have passes : (eventsOptions none []).Passes (fun _ => none) eventsHost.workingDirectory
        eventsSession.store ⟨"d.json", [Source.smallTree]⟩ Source.smallTree :=
      { file := by decide
        tree := by decide
        opened := (congrArg (Source.open eventsSession.store "/") file).trans opened
        found := (congrArg (Source.tree ⟨"d.json", [Source.smallTree]⟩) tree).trans rfl
        package := by decide
        message := by decide
        free := by decide }
    rcases (run_generate asked known).2 _ _ passes rfl rfl with
      ⟨doc, l, v, ended, written⟩ | ⟨-, many | ⟨e, failed⟩⟩
    · exact ⟨doc, v, ended, written.package, written.message,
        (Except.ok.inj written.fields).symm, schema ▸ written.text⟩
    · exact absurd many (by decide +kernel)
    · rw [schema] at failed
      rw [show eventsSession.store.create "/" "event.proto" = _ from failed] at created
      cases created

end Command

end TreeWire
