import TreeWire.Dump
import TreeWire.Proofs.History

/-!
# Branches and their names

A branch is bound by its name, and a dump may declare several branches of one name. The name then
leads to the first of them only. A later branch is out of reach: whoever asks for it is given the
values of the first branch if both fill the same kind of column, and is refused otherwise, although
the values could be read as what is asked for. So a branch can be reached exactly if no branch
before it has its name.

* `TreeWire.Tree.FirstNamed` – **the first branch of a name**, which is what a name leads to;
* `TreeWire.Tree.FirstNamed.bind` – what binding the name comes to;
* `TreeWire.Tree.exists_cell_of_load` – what a binding holds after an entry has been loaded;
* `TreeWire.Tree.bind_name_iff` – **the main statement**: which branches are reached by their names,
  and what is bound in the place of the others.
-/

namespace TreeWire

namespace Tree

variable {t : Tree} {name : String} {k : Nat} {c : Branch}

/-! ### The first branch of a name -/

/-- **The first branch of a name**, with its position. -/
structure FirstNamed (t : Tree) (name : String) (position : Nat) (b : Branch) : Prop where
  /-- It stands at the position. -/
  get : t.branches[position]? = some b
  /-- It has the name. -/
  named : b.name = name
  /-- No branch before it has the name. -/
  first : ∀ i < position, ∀ a, t.branches[i]? = some a → a.name ≠ name

/-- Searching for a name finds the first branch that has it. -/
theorem FirstNamed.find {b : Branch} {position : Nat} (h : t.FirstNamed name position b) :
    t.branches.zipIdx.find? (·.1.name == name) = some (b, position) := by
  obtain ⟨inside, get⟩ := List.getElem?_eq_some_iff.mp h.get
  rw [List.find?_eq_some_iff_getElem]
  refine ⟨by simp [h.named], position, by simpa using inside, by simp [get], fun i before => ?_⟩
  have other := h.first i before _ (List.getElem?_eq_getElem (Nat.lt_trans before inside))
  simpa using other

/-- **Binding a name** binds the first branch that has it, or refuses it for its type. -/
theorem FirstNamed.bind {b : Branch} {position : Nat} (h : t.FirstNamed name position b)
    (kind : Kind) (repeated : Bool) :
    t.bind name kind repeated =
      if b.columnType = ⟨.scalar kind, repeated⟩ then .ok ⟨name, position, .fresh kind repeated⟩
      else .error (.bindMismatch name (askedFor kind repeated) b.nativeType) := by
  simp only [Tree.bind, h.find]

/-- A branch has a first one of its name, at its own position or before. -/
theorem exists_firstNamed (get : t.branches[k]? = some c) :
    ∃ j b, t.FirstNamed c.name j b ∧ j ≤ k := by
  induction k using Nat.strongRecOn generalizing c with
  | ind k ih =>
    by_cases earlier : ∃ i < k, ∃ a, t.branches[i]? = some a ∧ a.name = c.name
    · obtain ⟨i, before, a, there, same⟩ := earlier
      obtain ⟨j, b, found, le⟩ := ih i before there
      exact ⟨j, b, same ▸ found, Nat.le_trans le (Nat.le_of_lt before)⟩
    · refine ⟨k, c, ⟨get, rfl, fun i before a there same => ?_⟩, Nat.le_refl k⟩
      exact earlier ⟨i, before, a, there, same⟩

/-! ### What a binding holds -/

/-- **What a binding holds** after an entry has been loaded: what the cell of its branch stands for,
wherever the binding stands in the list and whatever it held before. -/
theorem exists_cell_of_load {entry p n : Nat} {bindings row : List Binding} {b : Binding}
    {column : Branch} (he : entry < t.entries) (loaded : t.load entry bindings = (row, .ok n))
    (there : bindings[p]? = some b) (get : t.branches[b.handle]? = some column) :
    ∃ cell buffer, column.values[entry]? = some cell ∧
      Buffer.read b.buffer.kind b.buffer.repeated cell = .ok buffer ∧
      row[p]? = some { b with buffer } := by
  obtain ⟨refreshed, -⟩ := (load_eq_ok_iff he).mp loaded
  obtain ⟨c, hc, one⟩ := exists_getElem?_of_forall₂ (mapM_eq_ok_iff.mp refreshed) there
  have cell : t.value? b.handle entry = column.values[entry]? := by
    rw [value?, get]
    rfl
  rw [refresh, cell] at one
  split at one
  · cases one
  · rename_i j hj
    split at one
    · rename_i buffer read
      exact ⟨j, buffer, hj, read, by rw [hc, ← Except.ok.inj one]⟩
    · cases one

/-! ### Which branches are reached -/

/-- **A branch is reached by its name** exactly if it is the first branch of that name. In any case
there is a first one. If it fills another kind of column, then the name cannot be bound for the
branch; if it fills the same, then it is bound in the place of the branch, and after every load that
succeeds the binding holds the values of the first branch. -/
theorem bind_name_iff {kind : Kind} {repeated : Bool} (get : t.branches[k]? = some c)
    (type : c.columnType = ⟨.scalar kind, repeated⟩) :
    (t.bind c.name kind repeated = .ok ⟨c.name, k, .fresh kind repeated⟩ ↔
      ∀ i < k, ∀ a, t.branches[i]? = some a → a.name ≠ c.name) ∧
    ∃ j b, t.FirstNamed c.name j b ∧ j ≤ k ∧
      (b.columnType ≠ c.columnType → t.bind c.name kind repeated =
        .error (.bindMismatch c.name (askedFor kind repeated) b.nativeType)) ∧
      (b.columnType = c.columnType →
        t.bind c.name kind repeated = .ok ⟨c.name, j, .fresh kind repeated⟩ ∧
        ∀ (entry p n : Nat) (bindings row : List Binding) held, entry < t.entries →
          bindings[p]? = some held → held.blank = ⟨c.name, j, .fresh kind repeated⟩ →
          t.load entry bindings = (row, .ok n) →
          ∃ cell buffer, b.values[entry]? = some cell ∧
            Buffer.read kind repeated cell = .ok buffer ∧
            row[p]? = some ⟨c.name, j, buffer⟩) := by
  obtain ⟨j, b, found, le⟩ := exists_firstNamed get
  have bound := found.bind kind repeated
  refine ⟨⟨fun reached => ?_, fun first => ?_⟩, j, b, found, le, fun other => ?_, fun same => ?_⟩
  · -- what is bound stands where the first branch of the name does
    rw [bound] at reached
    split at reached
    · obtain rfl : j = k := congrArg Binding.handle (Except.ok.inj reached)
      exact found.first
    · cases reached
  · exact ((⟨get, rfl, first⟩ : t.FirstNamed c.name k c).bind kind repeated).trans (if_pos type)
  · rw [bound, if_neg (type ▸ other)]
  · refine ⟨by rw [bound, if_pos (same.trans type)], ?_⟩
    intro entry p n bindings row held he there made loaded
    obtain ⟨name, handle, buffer⟩ : held.branch = c.name ∧ held.handle = j ∧
        Buffer.fresh held.buffer.kind held.buffer.repeated = Buffer.fresh kind repeated := by
      simpa [Binding.blank] using made
    have kinds : held.buffer.kind = kind := by simpa using congrArg Buffer.kind buffer
    have shapes : held.buffer.repeated = repeated := by simpa using congrArg Buffer.repeated buffer
    obtain ⟨cell, filled, hc, read, hr⟩ :=
      exists_cell_of_load he loaded there (handle ▸ found.get)
    rw [kinds, shapes] at read
    exact ⟨cell, filled, hc, read, by rw [hr, ← name, ← handle]⟩

/-- A dump with a tree of three branches of one name, two of one type and one of another. -/
def namesakesDump : String :=
  "[[[\"t\",[\x7b\"name\":\"a\",\"leaf_type\":\"int\",\"values\":[1]\x7d," ++
    "\x7b\"name\":\"a\",\"leaf_type\":\"int\",\"values\":[2]\x7d," ++
    "\x7b\"name\":\"a\",\"leaf_type\":\"double\",\"values\":[3]\x7d]]]]"

/-- The tree of that dump. -/
def namesakes : Tree where
  name := "t"
  branches :=
    [⟨"a", "", "int", #[.ofInt32 1]⟩, ⟨"a", "", "int", #[.ofInt32 2]⟩,
      ⟨"a", "", "double", #[.ofInt32 3]⟩]
  entries := 1
  size_values := by simp
  entries_eq_zero := nofun

/-- The second branch is not reached: the first one is bound in its place, and its value is what is
loaded. -/
theorem bind_name_iff_namesakes :
    (∃ c, namesakes.branches[1]? = some c ∧ c.columnType = ⟨.scalar .int32, false⟩ ∧
      namesakes.bind c.name .int32 false ≠ .ok ⟨c.name, 1, .fresh .int32 false⟩) ∧
    namesakes.load 0 [⟨"a", 0, .fresh .int32 false⟩] =
      ([⟨"a", 0, .scalar ⟨.int32, 1⟩⟩], .ok 3) ∧
    ∃ cell, Buffer.read .int32 false cell = .ok (.scalar ⟨.int32, 1⟩) ∧
      namesakes.value? 0 0 = some cell := by
  have get : namesakes.branches[1]? = some ⟨"a", "", "int", #[.ofInt32 2]⟩ := rfl
  have type : Branch.columnType ⟨"a", "", "int", #[.ofInt32 2]⟩ = ⟨.scalar .int32, false⟩ := by
    decide
  have loaded : namesakes.load 0 [⟨"a", 0, .fresh .int32 false⟩] =
      ([⟨"a", 0, .scalar ⟨.int32, 1⟩⟩], .ok 3) := by
    decide +kernel
  obtain ⟨reached, j, b, found, le, -, bound⟩ := bind_name_iff get type
  have before : ¬ ∀ i < 1, ∀ a, namesakes.branches[i]? = some a → a.name ≠ "a" := fun first =>
    first 0 (by decide) _ rfl rfl
  have other := mt reached.mp before
  obtain rfl : j = 0 := by
    rcases Nat.le_one_iff_eq_zero_or_eq_one.mp le with zero | one
    · exact zero
    · exact absurd (one ▸ found.first) before
  obtain rfl : _ = b := Option.some.inj found.get
  obtain ⟨cell, buffer, value, read, there⟩ :=
    (bound type.symm).2 0 0 3 _ _ _ (by decide) rfl rfl loaded
  obtain rfl : _ = buffer := congrArg Binding.buffer (Option.some.inj there)
  exact ⟨⟨_, get, type, other⟩, loaded, cell, read, value⟩

/-- The dump can be opened, and all of its branches have a kind. The name of the second one is bound
to the first one and holds its value, and the name of the third one is refused. -/
theorem bind_name_misses_namesakes :
    Dump.read (.ofBytes (utf8 namesakesDump)) = .ok [namesakes] ∧
    namesakes.branches.map (fun b => (b.name, b.columnType)) =
      [("a", ⟨.scalar .int32, false⟩), ("a", ⟨.scalar .int32, false⟩),
        ("a", ⟨.scalar .double, false⟩)] ∧
    namesakes.bind "a" .int32 false = .ok ⟨"a", 0, .fresh .int32 false⟩ ∧
    namesakes.load 0 [⟨"a", 0, .fresh .int32 false⟩] =
      ([⟨"a", 0, .scalar ⟨.int32, 1⟩⟩], .ok 3) ∧
    (namesakes.value? 1 0).map (Buffer.read .int32 false) = some (.ok (.scalar ⟨.int32, 2⟩)) ∧
    namesakes.bind "a" .double false = .error (.bindMismatch "a" "double" "int") := by
  refine ⟨rfl, ?_, ?_, ?_, ?_, ?_⟩ <;> decide +kernel

end Tree

end TreeWire
