import TreeWire.Proofs.DataFile
import TreeWire.Proofs.Modes

/-!
# What a conversion does to the files

A conversion has read both of its inputs before it touches its output file. Until then whatever goes
wrong leaves all files as they are, and from then on nothing is read any more: what stands in the
output file at the end, and what is reported, is decided by the contents of the two inputs. It does
not matter what the output file has held before, nor whether it is one of the inputs itself. If it
is none of them, then they are still there afterwards, and the same conversion can be carried out
once more with the same outcome.

* `TreeWire.Conversion.SameInputs` – **stores with the same inputs**;
* `TreeWire.Conversion.SameInputs.onStore` – the outcome on such a store;
* `TreeWire.Conversion.onStore_onStore` – a conversion that is carried out twice;
* `TreeWire.Conversion.onStore_effects` – **the main statement**: which files a conversion changes,
  and what decides what it leaves there.
-/

namespace TreeWire

open Store

namespace Conversion

variable {c : Conversion} {s t : Store} {workingDirectory : String} {set : DescriptorSet}
  {tree : Tree}

/-! ### The inputs -/

/-- **The inputs are there** if the descriptor set can be loaded, the data file can be opened and
the tree is found. -/
theorem inputs_eq_ok_iff : c.inputs s workingDirectory = .ok (set, tree) ↔
    DescriptorSet.load s workingDirectory c.descriptor = .ok set ∧
      ∃ source, Source.open s workingDirectory c.source = .ok source ∧
        source.tree c.tree = .ok tree := by
  rw [inputs]
  constructor
  · intro read
    obtain ⟨_, loaded, read⟩ := bind_eq_ok_iff.mp read
    obtain ⟨source, opened, read⟩ := bind_eq_ok_iff.mp read
    obtain ⟨_, found, same⟩ := bind_eq_ok_iff.mp read
    cases same
    exact ⟨loaded, source, opened, found⟩
  · rintro ⟨loaded, source, opened, found⟩
    exact bind_eq_ok_iff.mpr ⟨set, loaded, bind_eq_ok_iff.mpr ⟨source, opened,
      bind_eq_ok_iff.mpr ⟨tree, found, rfl⟩⟩⟩

/-- Inputs that are there come from two files that can be read. -/
theorem exists_read_of_inputs (read : c.inputs s workingDirectory = .ok (set, tree)) :
    (∃ bytes, s.read workingDirectory c.descriptor = .ok bytes) ∧
      ∃ bytes, s.read workingDirectory c.source = .ok bytes := by
  have all := c.toOption_inputs s workingDirectory
  rw [read] at all
  obtain ⟨descriptor, loaded, all⟩ := Option.bind_eq_some_iff.mp all.symm
  obtain ⟨_, -, all⟩ := Option.bind_eq_some_iff.mp all
  obtain ⟨trees, opened, -⟩ := Option.bind_eq_some_iff.mp all
  rw [Source.trees_open] at opened
  split at opened
  · obtain ⟨source, contents, -⟩ := Option.bind_eq_some_iff.mp opened
    exact ⟨⟨descriptor, toOption_eq_some_iff.mp loaded⟩, source, toOption_eq_some_iff.mp contents⟩
  · cases opened

/-- **Two stores hold the same inputs** of a conversion. -/
structure SameInputs (c : Conversion) (workingDirectory : String) (s t : Store) : Prop where
  /-- The descriptor set. -/
  descriptor : t.read workingDirectory c.descriptor = s.read workingDirectory c.descriptor
  /-- The data file. -/
  source : t.read workingDirectory c.source = s.read workingDirectory c.source

namespace SameInputs

/-- **The same inputs** are read, whatever the output file is. -/
theorem inputs (same : c.SameInputs workingDirectory s t) (output : String)
    (read : c.inputs s workingDirectory = .ok (set, tree)) :
    ({ c with output } : Conversion).inputs t workingDirectory = .ok (set, tree) := by
  have trees := Source.trees_open_congr same.source fun _ _ => rfl
  have here := c.toOption_inputs s workingDirectory
  have there := ({ c with output } : Conversion).toOption_inputs t workingDirectory
  simp only [same.descriptor, trees] at there
  rw [← here, read] at there
  exact toOption_eq_some_iff.mp there

/-- **The outcome on a store with the same inputs**: it is that of the tree, and the output file has
nothing else in it. -/
theorem onStore (same : c.SameInputs workingDirectory s t)
    (read : c.inputs s workingDirectory = .ok (set, tree)) {output : String} {l : Location}
    {u : Store} (created : t.create workingDirectory output = .ok (l, u)) :
    ({ c with output } : Conversion).onStore workingDirectory t =
      ((tree.convert set c.message c.limit c.framing).2.map (⟨·, output⟩),
        t.put l (.file (tree.convert set c.message c.limit c.framing).1)) := by
  have there := same.inputs output read
  rw [onStore_of_created there created, (create_eq_ok_iff.mp created).2.2.2, put_put]

end SameInputs

/-! ### The files afterwards -/

/-- **Nothing but the output file** changes. -/
theorem get?_onStore_of_ne {k : Location}
    (elsewhere : s.locate workingDirectory c.output ≠ .ok k) :
    (c.onStore workingDirectory s).2.get? k = s.get? k := by
  rcases c.onStore_cases workingDirectory s with ⟨fault, failed⟩ | ⟨set, tree, l, -, created, done⟩
  · rw [failed]
  obtain ⟨-, located, free, -⟩ := create_eq_ok_iff.mp created
  have other : k ≠ l := by
    rintro rfl
    exact elsewhere located
  rw [done, get?_put (ne_nil_of_free free), if_neg other]

/-- **A conversion that is carried out twice** has the same outcome twice and leaves the same files,
if its output file is none of its inputs. -/
theorem onStore_onStore
    (apart : ∀ l, s.locate workingDirectory c.output = .ok l →
      s.locate workingDirectory c.descriptor ≠ .ok l ∧ s.locate workingDirectory c.source ≠ .ok l) :
    c.onStore workingDirectory (c.onStore workingDirectory s).2 = c.onStore workingDirectory s := by
  rcases c.onStore_cases workingDirectory s with
    ⟨fault, failed⟩ | ⟨set, tree, l, read, created, done⟩
  · rw [failed]
    exact failed
  obtain ⟨slash, located, free, -⟩ := create_eq_ok_iff.mp created
  obtain ⟨⟨_, descriptor⟩, _, source⟩ := exists_read_of_inputs read
  obtain ⟨descriptorElsewhere, sourceElsewhere⟩ := apart l located
  rw [done]
  generalize bytes : (tree.convert set c.message c.limit c.framing).1 = written
  -- both inputs are elsewhere, and so they are still there
  have same : c.SameInputs workingDirectory s (s.put l (.file written)) :=
    ⟨(read_put_of_ne free descriptor descriptorElsewhere).trans descriptor.symm,
      (read_put_of_ne free source sourceElsewhere).trans source.symm⟩
  -- the output file is created once more in its own place
  have again : (s.put l (.file written)).create workingDirectory c.output =
      .ok (l, (s.put l (.file written)).put l (.file [])) :=
    create_eq_ok_iff.mpr ⟨slash, locate_put free located,
      by simp [get?_put (ne_nil_of_free free)], rfl⟩
  have twice := same.onStore read again
  rw [put_put, bytes] at twice
  exact twice

/-- **What a conversion does to the files.** Nothing but the output file changes. If the descriptor
set cannot be loaded, the data file cannot be opened or the tree is not found, then the conversion
fails and nothing changes at all. Otherwise the outcome and the contents of the output file are
those of the tree, wherever the conversion has its output file and in every store in which the two
inputs have the same contents: also if another file has stood there, and if the output file is one
of the inputs. If it is none of them, then the same conversion has the same outcome once more and
changes nothing. -/
theorem onStore_effects (c : Conversion) (workingDirectory : String) (s : Store) :
    (∀ k, s.locate workingDirectory c.output ≠ .ok k →
      (c.onStore workingDirectory s).2.get? k = s.get? k) ∧
    ((∀ set source, DescriptorSet.load s workingDirectory c.descriptor = .ok set →
        Source.open s workingDirectory c.source = .ok source →
        ∀ tree, source.tree c.tree ≠ .ok tree) →
      ∃ fault, c.onStore workingDirectory s = (.error fault, s)) ∧
    (∀ set source tree, DescriptorSet.load s workingDirectory c.descriptor = .ok set →
      Source.open s workingDirectory c.source = .ok source → source.tree c.tree = .ok tree →
      ∀ output t l u, c.SameInputs workingDirectory s t →
        t.create workingDirectory output = .ok (l, u) →
        let written := tree.convert set c.message c.limit c.framing
        let outcome := ({ c with output } : Conversion).onStore workingDirectory t
        outcome.1 = written.2.map (⟨·, output⟩) ∧
          outcome.2.read workingDirectory output = .ok written.1) ∧
    ((∀ l, s.locate workingDirectory c.output = .ok l →
        s.locate workingDirectory c.descriptor ≠ .ok l ∧
          s.locate workingDirectory c.source ≠ .ok l) →
      c.onStore workingDirectory (c.onStore workingDirectory s).2 =
        c.onStore workingDirectory s) := by
  refine ⟨fun k => get?_onStore_of_ne, fun missing => ?_, ?_, onStore_onStore⟩
  · refine onStore_of_stuck fun set tree l u read _ => ?_
    obtain ⟨loaded, source, opened, found⟩ := inputs_eq_ok_iff.mp read
    exact missing set source loaded opened tree found
  · intro set source tree loaded opened found output t l u same created
    have read := inputs_eq_ok_iff.mpr ⟨loaded, source, opened, found⟩
    obtain ⟨-, located, free, -⟩ := create_eq_ok_iff.mp created
    rw [same.onStore read created]
    exact ⟨rfl, read_put_self free located⟩

/-- The conversion of a tree of two entries. -/
def counts (tree : String) : Conversion :=
  (Build.countsBuild tree).conversionOf Build.countsPlan "e.desc"

/-- A store with its inputs, and with a longer file in the place of the output file. -/
def countsStore : Store :=
  (Build.countsCompiled "e").store.put ["w", "o"] (.file (List.replicate 40 9))

/-- The tree. -/
def countsTree : Tree where
  name := "e"
  branches := [⟨"x", "", "Int_t", #[.ofInt32 1, .ofInt32 2]⟩]
  entries := 2
  size_values := by simp
  entries_eq_zero := nofun

/-- A tree that is not there, an output file that was longer, one that is the data file itself, and
a second run. -/
theorem onStore_effects_counts :
    (∃ fault, (counts "f").onStore "/w" countsStore = (.error fault, countsStore)) ∧
    ((counts "e").onStore "/w" countsStore).2.read "/w" "o" = .ok [8, 2, 8, 1, 8, 2] ∧
    ((counts "e").onStore "/w" countsStore).2.get? ["w", "e.json"] =
      countsStore.get? ["w", "e.json"] ∧
    (({ counts "e" with output := "e.json" } : Conversion).onStore "/w" countsStore).2.read
      "/w" "e.json" = .ok [8, 2, 8, 1, 8, 2] ∧
    (counts "e").onStore "/w" ((counts "e").onStore "/w" countsStore).2 =
      (counts "e").onStore "/w" countsStore := by
  have loaded : DescriptorSet.load countsStore "/w" "e.desc" = .ok Build.countsSchema := by
    decide +kernel
  have opened : Source.open countsStore "/w" "e.json" = .ok ⟨"e.json", [countsTree]⟩ := rfl
  have found : (⟨"e.json", [countsTree]⟩ : Source).tree "e" = .ok countsTree := rfl
  have written : (countsTree.convert Build.countsSchema (some "Event") (-1) .concatenated).1 =
      [8, 2, 8, 1, 8, 2] := by
    decide +kernel
  obtain ⟨-, missing, -, -⟩ := (counts "f").onStore_effects "/w" countsStore
  obtain ⟨frame, -, contents, again⟩ := (counts "e").onStore_effects "/w" countsStore
  have same : (counts "e").SameInputs "/w" countsStore countsStore := ⟨rfl, rfl⟩
  refine ⟨missing fun set source _ opened' tree => ?_, ?_, frame _ (by decide +kernel), ?_,
    again fun l located => ?_⟩
  · obtain rfl := Except.ok.inj (opened.symm.trans opened')
    exact nofun
  · exact ((contents _ _ _ loaded opened found "o" countsStore ["w", "o"] _ same rfl).2).trans
      (congrArg Except.ok written)
  · exact ((contents _ _ _ loaded opened found "e.json" countsStore ["w", "e.json"] _ same
      rfl).2).trans (congrArg Except.ok written)
  · obtain rfl : ["w", "o"] = l := Except.ok.inj located
    decide +kernel

end Conversion

end TreeWire
