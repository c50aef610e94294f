import Mathlib.Data.List.Nodup
import TreeWire.Descriptor.Target

/-!
# Messages and their names

The data message is named by its simple name or by its full name, and the first message that has
the name in one of the two ways is taken. Full names that are distinct are still not enough for that
to be the message that is meant: the full name of a message without a package is its simple name,
and a message of any package that stands before it may have the same simple name. If no simple name
contains a dot, this is the only confusion there is. So a message in a package is always found by
its full name, and one without a package exactly if it is the first message of its simple name –
also if it is the message that is discovered when none is named.

* `TreeWire.DescriptorSet.targets` – the messages that can be named;
* `TreeWire.DescriptorSet.WellNamed` – **full names are distinct and simple names have no dots**;
* `TreeWire.DescriptorSet.FirstNamed` – the first message of a simple name;
* `TreeWire.DescriptorSet.WellNamed.named_of_package`,
  `TreeWire.DescriptorSet.WellNamed.exists_named_of_bare` – what a full name leads to;
* `TreeWire.DescriptorSet.target_fullName_iff` – **the main statement**: which messages are found by
  their full names.
-/

namespace TreeWire

/-! ### Full names -/

namespace Target

variable {t : Target}

/-- Without a package, the full name is the simple name. -/
theorem fullName_of_bare (h : t.package = "") : t.fullName = t.name := if_pos h

/-- In a package, the full name has a dot in it. -/
theorem dot_mem_fullName (h : t.package ≠ "") : '.' ∈ t.fullName.toList := by
  rw [fullName, if_neg h]
  simp

end Target

namespace DescriptorSet

variable {s : DescriptorSet} {t u : Target}

/-- **The messages that can be named**, in order: all but the headers. -/
def targets (s : DescriptorSet) : List Target := s.files.flatMap (·.targets)

/-- **Full names are distinct and simple names have no dots**, the headers left out. -/
structure WellNamed (s : DescriptorSet) : Prop where
  /-- No two messages have the same full name. -/
  distinct : (s.targets.map (·.fullName)).Nodup
  /-- A simple name is one part of a full name. -/
  dotFree : ∀ t ∈ s.targets, '.' ∉ t.name.toList

/-- A message is known by its full name. -/
theorem WellNamed.eq_of_fullName (h : s.WellNamed) (mem : t ∈ s.targets) (mem' : u ∈ s.targets)
    (same : u.fullName = t.fullName) : u = t :=
  List.inj_on_of_nodup_map h.distinct mem' mem same

/-- **The first message of a simple name.** -/
def FirstNamed (s : DescriptorSet) (name : String) (t : Target) : Prop :=
  t.name = name ∧ ∃ before after, s.targets = before ++ t :: after ∧ ∀ u ∈ before, u.name ≠ name

/-! ### Messages that are named -/

/-- Whether a message has a name, as its simple name or as its full name. -/
def answers (name : String) (t : Target) : Bool := t.name == name || t.fullName == name

theorem answers_iff {name : String} :
    answers name t = true ↔ t.name = name ∨ t.fullName = name := by
  simp [answers]

/-- **The message of a name** is the first one that has it in one of the two ways. -/
theorem target_some_eq_ok_iff {name : String} :
    s.target (some name) = .ok t ↔ s.targets.find? (answers name) = some t := by
  change s.named name = .ok t ↔ _
  unfold DescriptorSet.named
  split
  next u found =>
    have found : s.targets.find? (answers name) = some u := found
    rw [found, Except.ok.injEq, Option.some.injEq]
  next missing =>
    have missing : s.targets.find? (answers name) = none := missing
    rw [missing]
    constructor <;> intro h <;> cases h

/-- A message that has the full name of one in a package is that message. -/
theorem WellNamed.answers_iff_eq (h : s.WellNamed) (mem : t ∈ s.targets) (mem' : u ∈ s.targets)
    (packed : t.package ≠ "") : answers t.fullName u = true ↔ u = t := by
  rw [answers_iff]
  constructor
  · rintro (simple | full)
    · -- the full name has a dot, and the simple name has none
      exact absurd (simple ▸ Target.dot_mem_fullName packed) (h.dotFree u mem')
    · exact h.eq_of_fullName mem mem' full
  · rintro rfl
    exact Or.inr rfl

/-- A message that has the full name of one without a package has its simple name. -/
theorem WellNamed.answers_iff_name (h : s.WellNamed) (mem : t ∈ s.targets) (mem' : u ∈ s.targets)
    (bare : t.package = "") : answers t.fullName u = true ↔ u.name = t.name := by
  rw [answers_iff, Target.fullName_of_bare bare]
  refine ⟨fun has => has.elim id fun full => ?_, Or.inl⟩
  rw [h.eq_of_fullName mem mem' (full.trans (Target.fullName_of_bare bare).symm)]

/-- A full name leads to a message that has it in one of the two ways. -/
theorem exists_target_fullName (mem : t ∈ s.targets) :
    ∃ u ∈ s.targets, s.target (some t.fullName) = .ok u ∧ answers t.fullName u = true := by
  have found : (s.targets.find? (answers t.fullName)).isSome = true :=
    List.find?_isSome.mpr ⟨t, mem, answers_iff.mpr (Or.inr rfl)⟩
  obtain ⟨u, found⟩ := Option.isSome_iff_exists.mp found
  exact ⟨u, List.mem_of_find?_eq_some found, target_some_eq_ok_iff.mpr found,
    List.find?_some found⟩

/-- **A message in a package** is found by its full name. -/
theorem WellNamed.named_of_package (h : s.WellNamed) (mem : t ∈ s.targets)
    (packed : t.package ≠ "") : s.target (some t.fullName) = .ok t := by
  obtain ⟨u, mem', found, has⟩ := exists_target_fullName mem
  rw [found, (h.answers_iff_eq mem mem' packed).mp has]

/-- **The full name of a message without a package** leads to the first message of its simple
name. -/
theorem WellNamed.named_iff_of_bare (h : s.WellNamed) (mem : t ∈ s.targets)
    (bare : t.package = "") : s.target (some t.fullName) = .ok u ↔ s.FirstNamed t.name u := by
  rw [target_some_eq_ok_iff, List.find?_eq_some_iff_append, FirstNamed]
  have has : ∀ v ∈ s.targets, answers t.fullName v = true ↔ v.name = t.name :=
    fun v mem' => h.answers_iff_name mem mem' bare
  constructor
  · rintro ⟨found, before, after, cut, earlier⟩
    refine ⟨(has u (by simp [cut])).mp found, before, after, cut, fun v hv same => ?_⟩
    simpa [(has v (by simp [cut, hv])).mpr same] using earlier v hv
  · rintro ⟨found, before, after, cut, earlier⟩
    refine ⟨(has u (by simp [cut])).mpr found, before, after, cut, fun v hv => ?_⟩
    have other := mt (has v (by simp [cut, hv])).mp (earlier v hv)
    simpa using other

/-- There is a first message of the simple name of a message. -/
theorem WellNamed.exists_named_of_bare (h : s.WellNamed) (mem : t ∈ s.targets)
    (bare : t.package = "") :
    ∃ u, s.target (some t.fullName) = .ok u ∧ s.FirstNamed t.name u := by
  obtain ⟨u, -, found, -⟩ := exists_target_fullName mem
  exact ⟨u, found, (h.named_iff_of_bare mem bare).mp found⟩

/-- **A message that is discovered** can be named. -/
theorem mem_targets_of_discovered (h : s.target none = .ok t) : t ∈ s.targets := by
  have only : s.candidates = [t] := by
    change s.discovered = .ok t at h
    unfold discovered at h
    split at h
    next u one => rw [one, Except.ok.inj h]
    next => cases h
    next => cases h
  have mem : t ∈ s.candidates := by simp [only]
  obtain ⟨f, declared, there⟩ := List.mem_flatMap.mp mem
  exact List.mem_flatMap.mpr ⟨f, (List.mem_filter.mp declared).1, there⟩

/-- **Which messages are found by their full names**: all that are in a package, and of those
without one exactly those that are the first of their simple name. In the place of another one, the
first message of its simple name is found. The message that is discovered when none is named is no
exception: it is one of those that can be named, and naming it leads to it under the same
condition. -/
theorem target_fullName_iff (h : s.WellNamed) :
    (∀ t ∈ s.targets,
      (s.target (some t.fullName) = .ok t ↔ t.package ≠ "" ∨ s.FirstNamed t.name t) ∧
      (t.package = "" → ∃ u, s.target (some t.fullName) = .ok u ∧ s.FirstNamed t.name u)) ∧
    ∀ t, s.target none = .ok t → t ∈ s.targets ∧
      (s.target (some t.fullName) = s.target none ↔ t.package ≠ "" ∨ s.FirstNamed t.name t) := by
  have found : ∀ t ∈ s.targets,
      (s.target (some t.fullName) = .ok t ↔ t.package ≠ "" ∨ s.FirstNamed t.name t) := by
    intro t mem
    by_cases bare : t.package = ""
    · rw [h.named_iff_of_bare mem bare, or_iff_right (not_not_intro bare)]
    · exact iff_of_true (h.named_of_package mem bare) (Or.inl bare)
  refine ⟨fun t mem => ⟨found t mem, h.exists_named_of_bare mem⟩, fun t discovered => ?_⟩
  have mem := mem_targets_of_discovered discovered
  rw [discovered]
  exact ⟨mem, found t mem⟩

/-- Two messages of one simple name: one in a package, and after it one without a package, which is
declared next to the header. -/
def namesakes : DescriptorSet where
  files :=
    [⟨some "a.proto", some "lib", [⟨some "Event", []⟩]⟩,
      ⟨some "b.proto", none, [⟨some "Event", []⟩, ⟨some headerMessage, []⟩]⟩]

theorem wellNamed_namesakes : namesakes.WellNamed := ⟨by decide +kernel, by decide +kernel⟩

/-- The message in the package is found by its full name, and the other one is not. -/
theorem target_fullName_iff_namesakes :
    namesakes.WellNamed ∧
    namesakes.targets = [⟨"lib", ⟨some "Event", []⟩⟩, ⟨"", ⟨some "Event", []⟩⟩] ∧
    namesakes.target (some "lib.Event") = .ok ⟨"lib", ⟨some "Event", []⟩⟩ ∧
    namesakes.target (some "Event") ≠ .ok ⟨"", ⟨some "Event", []⟩⟩ := by
  have all : namesakes.targets = [⟨"lib", ⟨some "Event", []⟩⟩, ⟨"", ⟨some "Event", []⟩⟩] := by
    decide +kernel
  obtain ⟨found, -⟩ := target_fullName_iff wellNamed_namesakes
  refine ⟨wellNamed_namesakes, all, ?_, ?_⟩
  · exact (found ⟨"lib", ⟨some "Event", []⟩⟩ (by simp [all])).1.mpr (Or.inl (by decide))
  · intro reached
    rcases (found ⟨"", ⟨some "Event", []⟩⟩ (by simp [all])).1.mp reached with packed |
      ⟨-, before, after, cut, other⟩
    · exact packed rfl
    · -- the message in the package stands before it
      rw [all] at cut
      cases before with
      | nil => simp at cut
      | cons v before =>
        obtain ⟨rfl, -⟩ := List.cons.inj cut
        exact other _ List.mem_cons_self rfl

/-- The message that is discovered has a full name that leads to another message. -/
theorem target_fullName_misses_namesakes :
    namesakes.WellNamed ∧
    namesakes.target none = .ok ⟨"", ⟨some "Event", []⟩⟩ ∧
    Target.fullName ⟨"", ⟨some "Event", []⟩⟩ = "Event" ∧
    namesakes.target (some "Event") = .ok ⟨"lib", ⟨some "Event", []⟩⟩ := by
  refine ⟨wellNamed_namesakes, ?_, ?_, ?_⟩ <;> decide +kernel

end DescriptorSet

end TreeWire
