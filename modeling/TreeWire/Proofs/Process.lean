import TreeWire.Command.Run
import TreeWire.Proofs.CommandLine
import TreeWire.Proofs.Store

/-!
# Conversions and the program

A conversion is a function of what it reads: it takes its inputs from a store, and creates its
output file only once it has them. So it either leaves everything as it is, or it comes to its
output file and leaves there what it has written. The program, started with the command line of the
conversion, does the same and prints a report; the report can always be printed, since the output
file has just been written. Its code tells whether the conversion has succeeded.

* `TreeWire.Task.bind_of_ok`, `TreeWire.Task.bind_eq_ok` – runs of two parts;
* `TreeWire.Conversion.onStore_cases` – **the outcomes of a conversion**;
* `TreeWire.Conversion.onStore_agree` – conversions on two stores;
* `TreeWire.Command.asProgram_arguments` – **the program as a process**.
-/

namespace TreeWire

open Store TreeWire.Path

/-! ### Runs -/

namespace Task

variable {ε δ α β : Type} {t : Task ε α} {f : α → Task ε β} {s s' : Session} {a : α} {e : ε}

/-- A run goes on after what has succeeded. -/
theorem bind_of_ok (h : t s = (.ok a, s')) : (t >>= f) s = f a s' := by
  have opened : (t >>= f) s = (ExceptT.bindCont f (t s).1) (t s).2 := rfl
  rw [opened, h]
  rfl

/-- A run stops at what has failed. -/
theorem bind_of_error (h : t s = (.error e, s')) : (t >>= f) s = (.error e, s') := by
  have opened : (t >>= f) s = (ExceptT.bindCont f (t s).1) (t s).2 := rfl
  rw [opened, h]
  rfl

/-- A run of two parts that has succeeded. -/
theorem bind_eq_ok {b : β} (h : (t >>= f) s = (.ok b, s')) :
    ∃ a u, t s = (.ok a, u) ∧ f a u = (.ok b, s') := by
  obtain ⟨outcome, u, ran⟩ : ∃ outcome u, t s = (outcome, u) := ⟨_, _, rfl⟩
  cases outcome with
  | error e =>
    rw [bind_of_error ran] at h
    cases h
  | ok a =>
    rw [bind_of_ok ran] at h
    exact ⟨a, u, ran, h⟩

/-- **A value at the end** of a run. -/
theorem bind_pure_apply {x : Except ε α} (ended : t s = (x, s')) (g : α → β) :
    (t >>= fun a => pure (g a)) s = (x.map g, s') := by
  cases x with
  | error e => exact bind_of_error ended
  | ok a => exact bind_of_ok ended

/-- A value at the end changes nothing else. -/
theorem bind_pure (t : Task ε α) (g : α → β) (s : Session) :
    ((t >>= fun a => pure (g a)) s).1.isOk = (t s).1.isOk ∧
      ((t >>= fun a => pure (g a)) s).2 = (t s).2 := by
  obtain ⟨x, u, ended⟩ : ∃ x u, t s = (x, u) := ⟨_, _, rfl⟩
  rw [bind_pure_apply ended, ended]
  cases x <;> exact ⟨rfl, rfl⟩

theorem lift_apply (x : Except ε α) : (liftM x : Task ε α) s = (x, s) := by
  cases x <;> rfl

/-- A look leaves the session as it is. -/
theorem look_apply (f : Store → Except ε α) : look f s = (f s.store, s) := rfl

/-- A line is printed in front of what follows. -/
theorem print_bind (line : String) (t : Task ε α) :
    (print line >>= fun _ => t) s = t { s with output := s.output ++ line ++ "\n" } := rfl

theorem mapFault_apply (g : ε → δ) {x : Except ε α} (h : t s = (x, s')) :
    t.mapFault g s = (x.mapError g, s') := by
  rw [mapFault, h]

end Task

/-! ### Conversions on stores -/

namespace Conversion

variable {c d : Conversion} {s t : Store} {workingDirectory directory : String}

/-- **The inputs of a conversion** come from a descriptor set and from the trees of a data file. -/
theorem toOption_inputs (c : Conversion) (s : Store) (workingDirectory : String) :
    (c.inputs s workingDirectory).toOption =
      (s.read workingDirectory c.descriptor).toOption.bind fun bytes =>
        (DescriptorSet.decode bytes).toOption.bind fun set =>
          ((Source.open s workingDirectory c.source).toOption.map Source.trees).bind fun trees =>
            (trees.find? (·.name == c.tree)).map fun tree => (set, tree) := by
  rw [inputs, DescriptorSet.load]
  cases s.read workingDirectory c.descriptor with
  | error e => rfl
  | ok bytes =>
    cases decoded : DescriptorSet.decode bytes with
    | error e => simp [decoded, bind, Except.bind, Except.mapError, Except.toOption]
    | ok set =>
      cases opened : Source.open s workingDirectory c.source with
      | error e => simp [decoded, bind, Except.bind, Except.mapError, Except.toOption]
      | ok source =>
        cases found : source.trees.find? (·.name == c.tree) <;>
          simp [decoded, found, Source.tree, findTree, bind, Except.bind, Except.mapError,
            Except.toOption]

/-- A conversion whose inputs cannot be read leaves everything as it is. -/
theorem onStore_of_inputs {fault : Fault} (failed : c.inputs s workingDirectory = .error fault) :
    c.onStore workingDirectory s = (.error fault, s) := by
  rw [onStore, failed]

/-- A conversion whose output file cannot be created leaves everything as it is. -/
theorem onStore_of_create {inputs : DescriptorSet × Tree} {e : SystemError}
    (read : c.inputs s workingDirectory = .ok inputs)
    (failed : s.create workingDirectory c.output = .error e) :
    c.onStore workingDirectory s = (.error (.io e), s) := by
  rw [onStore, read]
  simp only [failed]

/-- A conversion that comes to its output file leaves what it has written there. -/
theorem onStore_of_created {set : DescriptorSet} {tree : Tree} {l : Location} {u : Store}
    (read : c.inputs s workingDirectory = .ok (set, tree))
    (created : s.create workingDirectory c.output = .ok (l, u)) :
    c.onStore workingDirectory s =
      ((tree.convert set c.message c.limit c.framing).2.map (⟨·, c.output⟩),
        u.put l (.file (tree.convert set c.message c.limit c.framing).1)) := by
  rw [onStore, read]
  simp only [created]

/-- **The outcomes of a conversion.** -/
theorem onStore_cases (c : Conversion) (workingDirectory : String) (s : Store) :
    (∃ fault, c.onStore workingDirectory s = (.error fault, s)) ∨
      ∃ set tree l, c.inputs s workingDirectory = .ok (set, tree) ∧
        s.create workingDirectory c.output = .ok (l, s.put l (.file [])) ∧
        c.onStore workingDirectory s =
          ((tree.convert set c.message c.limit c.framing).2.map (⟨·, c.output⟩),
            s.put l (.file (tree.convert set c.message c.limit c.framing).1)) := by
  cases inputs : c.inputs s workingDirectory with
  | error fault => exact Or.inl ⟨fault, onStore_of_inputs inputs⟩
  | ok read =>
    obtain ⟨set, tree⟩ := read
    cases created : s.create workingDirectory c.output with
    | error e => exact Or.inl ⟨_, onStore_of_create inputs created⟩
    | ok made =>
      obtain ⟨l, u⟩ := made
      have done := onStore_of_created inputs created
      obtain ⟨-, -, -, rfl⟩ := create_eq_ok_iff.mp created
      exact Or.inr ⟨set, tree, l, rfl, rfl, by rw [done, put_put]⟩

/-- A conversion that does not come to its output file fails and leaves everything as it is. -/
theorem onStore_of_stuck
    (stuck : ∀ set tree l u, c.inputs s workingDirectory = .ok (set, tree) →
      s.create workingDirectory c.output ≠ .ok (l, u)) :
    ∃ fault, c.onStore workingDirectory s = (.error fault, s) := by
  rcases c.onStore_cases workingDirectory s with failed | ⟨set, tree, l, read, created, -⟩
  · exact failed
  · exact absurd created (stuck set tree l _ read)

/-- Such a conversion is one whose descriptor set cannot be read. -/
theorem onStore_of_read_error {e : SystemError}
    (failed : s.read workingDirectory c.descriptor = .error e) :
    ∃ fault, c.onStore workingDirectory s = (.error fault, s) := by
  refine onStore_of_stuck fun set tree l u inputs _ => ?_
  have all := c.toOption_inputs s workingDirectory
  rw [inputs, failed] at all
  cases all

/-- **A conversion leaves all directories** as they are, and makes none. -/
theorem get?_onStore_eq_directory_iff {k : Location} :
    (c.onStore workingDirectory s).2.get? k = some .directory ↔ s.get? k = some .directory := by
  rcases c.onStore_cases workingDirectory s with ⟨fault, failed⟩ | ⟨set, tree, l, -, created, done⟩
  · rw [failed]
  obtain ⟨-, -, free, -⟩ := create_eq_ok_iff.mp created
  rw [done]
  exact get?_put_eq_directory_iff free

/-- A conversion that succeeds reports its output file. -/
theorem output_of_onStore {report : Report}
    (finished : (c.onStore workingDirectory s).1 = .ok report) : report.output = c.output := by
  rcases c.onStore_cases workingDirectory s with ⟨fault, failed⟩ | ⟨set, tree, l, -, -, done⟩
  · rw [failed] at finished
    cases finished
  · rw [done] at finished
    obtain ⟨written, -, rfl⟩ := map_eq_ok_iff.mp finished
    rfl

/-- **The output file of a conversion that succeeds** can be read. -/
theorem exists_read_of_onStore (finished : (c.onStore workingDirectory s).1.isOk = true) :
    ∃ bytes, (c.onStore workingDirectory s).2.read workingDirectory c.output = .ok bytes := by
  rcases c.onStore_cases workingDirectory s with ⟨fault, failed⟩ | ⟨set, tree, l, -, created, done⟩
  · rw [failed] at finished
    cases finished
  obtain ⟨-, located, free, -⟩ := create_eq_ok_iff.mp created
  rw [done]
  exact ⟨_, read_put_self free located⟩

/-- **Conversions agree** on stores that agree off a location if they read the same inputs and write
to the same place elsewhere. -/
theorem onStore_agree {l : Location} (agree : AgreeOff l s t)
    (inputs : (d.inputs t directory).toOption = (c.inputs s workingDirectory).toOption)
    (place : t.locate directory d.output = s.locate workingDirectory c.output)
    (away : ∀ m, s.locate workingDirectory c.output = .ok m → ¬ l <+: m)
    (slash : d.output.toList.getLast? = some '/' ↔ c.output.toList.getLast? = some '/')
    (message : d.message = c.message) (limit : d.limit = c.limit)
    (framing : d.framing = c.framing) :
    (d.onStore directory t).1.isOk = (c.onStore workingDirectory s).1.isOk ∧
      AgreeOff l (c.onStore workingDirectory s).2 (d.onStore directory t).2 := by
  -- the output file is created in both stores or in none
  have creates : ∀ m, (∃ u, s.create workingDirectory c.output = .ok (m, u)) ↔
      ∃ u, t.create directory d.output = .ok (m, u) := by
    intro m
    simp only [create_eq_ok_iff, place, slash, ne_eq]
    constructor
    · rintro ⟨u, open_, located, free, -⟩
      exact ⟨_, open_, located, by rwa [agree m (away m located)], rfl⟩
    · rintro ⟨u, open_, located, free, -⟩
      exact ⟨_, open_, located, by rwa [agree m (away m located)] at free, rfl⟩
  cases read : c.inputs s workingDirectory with
  | error fault =>
    cases readThere : d.inputs t directory with
    | error fault' =>
      rw [onStore_of_inputs read, onStore_of_inputs readThere]
      exact ⟨rfl, agree⟩
    | ok found =>
      rw [read, readThere] at inputs
      cases inputs
  | ok found =>
    obtain ⟨set, tree⟩ := found
    have readThere : d.inputs t directory = .ok (set, tree) := by
      cases readThere : d.inputs t directory with
      | error fault' =>
        rw [read, readThere] at inputs
        cases inputs
      | ok found' =>
        rw [read, readThere] at inputs
        rw [Option.some.inj inputs]
    cases created : s.create workingDirectory c.output with
    | error e =>
      cases createdThere : t.create directory d.output with
      | error e' =>
        rw [onStore_of_create read created, onStore_of_create readThere createdThere]
        exact ⟨rfl, agree⟩
      | ok made =>
        obtain ⟨u, here⟩ := (creates made.1).mpr ⟨made.2, createdThere⟩
        rw [created] at here
        cases here
    | ok made =>
      obtain ⟨m, u⟩ := made
      obtain ⟨v, createdThere⟩ := (creates m).mp ⟨u, created⟩
      obtain ⟨-, -, free, rfl⟩ := create_eq_ok_iff.mp created
      obtain ⟨-, -, -, rfl⟩ := create_eq_ok_iff.mp createdThere
      rw [onStore_of_created read created, onStore_of_created readThere createdThere, message,
        limit, framing, put_put, put_put]
      refine ⟨?_, agree.put_both (ne_nil_of_free free) _⟩
      cases (tree.convert set c.message c.limit c.framing).2 <;> rfl

end Conversion

/-! ### The program as a process -/

namespace Command

/-- Printing lines always succeeds and leaves the files alone. -/
theorem forM_print (lines : List String) (s : Session) :
    ∃ output, (lines.forM (Task.print (ε := Failure))) s = (.ok (), { s with output }) := by
  induction lines generalizing s with
  | nil => exact ⟨s.output, rfl⟩
  | cons line lines ih => exact ih { s with output := s.output ++ line ++ "\n" }

/-- **A report can be printed** if the output file can be read. -/
theorem print_of_read {r : Report} {h : Host} {s : Session} {bytes : Bytes}
    (read : s.store.read h.workingDirectory r.output = .ok bytes) :
    ∃ output, r.print h s = (.ok (), { s with output }) := by
  have summary : ∃ lines, r.summary s.store h.workingDirectory = .ok lines := by
    rw [Report.summary, fileChecksum, read]
    exact ⟨_, rfl⟩
  obtain ⟨lines, summary⟩ := summary
  obtain ⟨output, printed⟩ := forM_print lines s
  have looked : Task.look (fun s => r.summary s h.workingDirectory) s = (.ok lines, s) := by
    rw [Task.look_apply, summary]
  exact ⟨output, (Task.bind_of_ok (Task.mapFault_apply Failure.ofFault looked)).trans printed⟩

/-- **Carrying out a conversion** succeeds exactly if the conversion does, and leaves the same
files. -/
theorem convert_of_conversion {h : Host} {o : ConvertOptions} {c : Conversion}
    (asked : o.conversion h = .ok c) (s : Session) :
    ((convert h o s).1.isOk = (c.onStore h.workingDirectory s.store).1.isOk) ∧
      (convert h o s).2.store = (c.onStore h.workingDirectory s.store).2 := by
  have begun : (liftM (o.conversion h) : Task Failure Conversion) s = (.ok c, s) := by
    rw [Task.lift_apply, asked]
  have ran : c.run h s = ((c.onStore h.workingDirectory s.store).1,
      { s with store := (c.onStore h.workingDirectory s.store).2 }) := rfl
  have converted := Task.mapFault_apply Failure.ofFault ran
  rw [convert, Task.bind_of_ok begun]
  cases outcome : (c.onStore h.workingDirectory s.store).1 with
  | error fault =>
    rw [outcome] at converted
    rw [Task.bind_of_error converted]
    exact ⟨rfl, rfl⟩
  | ok report =>
    rw [outcome] at converted
    obtain ⟨bytes, read⟩ := Conversion.exists_read_of_onStore (congrArg Except.isOk outcome)
    rw [← Conversion.output_of_onStore outcome] at read
    obtain ⟨output, printed⟩ := print_of_read (h := h)
      (s := { s with store := (c.onStore h.workingDirectory s.store).2 }) read
    rw [Task.bind_of_ok converted, printed]
    exact ⟨rfl, rfl⟩

/-- The end of a command: the code tells whether it has succeeded, and the files are left alone. -/
theorem finish_spec (command : String) (outcome : Except Failure Unit × Session) :
    ((finish command outcome).1 = 0 ↔ outcome.1.isOk = true) ∧
      (finish command outcome).2.store = outcome.2.store := by
  obtain ⟨result, s⟩ := outcome
  cases result with
  | error failure => exact ⟨⟨nofun, nofun⟩, rfl⟩
  | ok done => exact ⟨⟨fun _ => rfl, fun _ => rfl⟩, rfl⟩

/-- **The program as a process**: started with the command line of a conversion whose values can be
words and have nothing to replace, it ends well exactly if the conversion succeeds, and it leaves
the same files. -/
theorem asProgram_arguments {h : Host} {c : Conversion}
    (bits : -0x8000000000000000 ≤ c.limit ∧ c.limit < 0x8000000000000000) (plain : Plain c)
    (settled : ∀ lookup, Settled lookup c) (directory : String) (s : Session) :
    ∃ code u, asProgram h c.arguments directory s = (.exited code, u) ∧
      (code = 0 ↔ (c.onStore directory s.store).1.isOk = true) ∧
      u.store = (c.onStore directory s.store).2 := by
  obtain ⟨ok, left⟩ := convert_of_conversion (s := s)
    (h := { h with
      workingDirectory := directory
      environment := Definitions.environment h.environment s.store directory })
    (conversion_optionsOf_iff.mpr (settled _))
  obtain ⟨code, files⟩ := finish_spec "convert" (convert
    { h with
      workingDirectory := directory
      environment := Definitions.environment h.environment s.store directory } (optionsOf c) s)
  refine ⟨_, _, ?_, code.trans (by rw [ok]), files.trans left⟩
  rw [asProgram, runWith, (parse_arguments bits).1 plain]
  rfl

end Command

end TreeWire
