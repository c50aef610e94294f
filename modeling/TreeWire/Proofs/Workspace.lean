import TreeWire.Workspace
import TreeWire.Proofs.Store

/-!
# Workspaces

Two facts about a workspace decide what goes on around it. Nothing stands at its location before it
is created, so that a path which leads to something does not see it come and go. And it is a
directory that is where its path says, so that a file which is copied into it can be found there by
name.

* `TreeWire.Workspace.freshDirectory_spec` – **the name of a workspace**;
* `TreeWire.Workspace.create_eq_ok` – what there is before and after a workspace is created;
* `TreeWire.Workspace.stage_of_read` – copies in it.
-/

namespace TreeWire

open Store TreeWire.Path

namespace Workspace

/-! ### Names -/

/-- Zeros are put behind a name until it is fresh. -/
theorem exists_toList_freshName (taken : List String) (name : String) :
    ∃ zeros, (freshName "0" taken name).toList = name.toList ++ zeros ∧ ∀ c ∈ zeros, c = '0' := by
  fun_induction freshName "0" taken name with
  | case1 taken name mem ih =>
    obtain ⟨zeros, text, all⟩ := ih
    refine ⟨'0' :: zeros, ?_, List.forall_mem_cons.mpr ⟨rfl, all⟩⟩
    rw [text, String.toList_append, List.append_assoc]
    rfl
  | case2 taken name fresh => exact ⟨[], (List.append_nil _).symm, nofun⟩

/-- A fresh name is not taken. -/
theorem freshName_notMem (taken : List String) (name : String) :
    freshName "0" taken name ∉ taken := by
  fun_induction freshName "0" taken name with
  | case1 taken name mem ih =>
    refine fun again => ih ((List.mem_erase_of_ne fun same => ?_).mpr again)
    obtain ⟨zeros, text, -⟩ := exists_toList_freshName (taken.erase name) (name ++ "0")
    have size := congrArg List.length text
    rw [same, String.toList_append, List.length_append, List.length_append] at size
    have one : "0".toList.length = 1 := rfl
    omega
  | case2 taken name fresh => exact fresh

/-- **The name of a workspace** can be part of a path. -/
theorem freshDirectory_spec (names : List String) :
    '/' ∉ (freshDirectory names).toList ∧ isComponent (freshDirectory names).toList = true ∧
      freshDirectory names ≠ ".." ∧ '\x00' ∉ (freshDirectory names).toList := by
  obtain ⟨zeros, text, all⟩ := exists_toList_freshName names (workspacePrefix ++ "0")
  have begins : workspacePrefix.toList <+: (freshDirectory names).toList := by
    rw [freshDirectory, text, String.toList_append, List.append_assoc]
    exact List.prefix_append _ _
  have char : ∀ c ∈ (freshDirectory names).toList, c ∈ (workspacePrefix ++ "0").toList := by
    intro c mem
    rw [freshDirectory, text] at mem
    rcases List.mem_append.mp mem with mem | mem
    · exact mem
    · rw [all c mem]
      decide
  refine ⟨fun mem => absurd (char _ mem) (by decide), isComponent_iff.mpr ⟨?_, ?_⟩, ?_,
    fun mem => absurd (char _ mem) (by decide)⟩
  · intro empty
    rw [empty] at begins
    exact absurd begins (by decide)
  · intro dot
    rw [dot] at begins
    exact absurd begins (by decide)
  · intro up
    rw [up] at begins
    exact absurd begins (by decide)

/-- Nothing stands at a name that is not among the names in a directory. -/
theorem get?_eq_none_of_notMem {s : Store} {base : Location} {name : String}
    (fresh : name ∉ s.names base) : s.get? (base ++ [name]) = none := by
  rw [Store.get?, if_neg (by simp), Option.map_eq_none_iff, List.find?_eq_none]
  intro e mem same
  refine fresh (List.mem_filterMap.mpr ⟨e, mem, ?_⟩)
  rw [of_decide_eq_true same, List.dropLast_concat, if_pos rfl, List.getLast?_concat]

/-! ### Workspaces and copies in them -/

/-- **A fresh workspace** stands below the directory of temporary files, where nothing has stood. -/
theorem create_eq_ok {h : Host} {s s' : Session} {w : Workspace}
    (created : create h s = (.ok w, s')) :
    ∃ base names, s.store.locate h.workingDirectory h.temporaryDirectory = .ok base ∧
      s.store.get? base = some .directory ∧ s.store.get? w.location = none ∧
      w = ⟨Path.join h.temporaryDirectory (freshDirectory names), base ++ [freshDirectory names]⟩ ∧
      s' = { s with store := s.store.put w.location .directory } := by
  rw [create, Task.onStore] at created
  cases located : s.store.locate h.workingDirectory h.temporaryDirectory with
  | error e =>
    rw [located] at created
    cases created
  | ok base =>
    rw [located] at created
    by_cases directory : s.store.get? base = some .directory
    · simp only [directory, if_true] at created
      obtain ⟨made, rfl⟩ := Prod.mk.inj created
      obtain rfl := Except.ok.inj made
      exact ⟨base, s.store.names base, rfl, directory,
        get?_eq_none_of_notMem (freshName_notMem _ _), rfl, rfl⟩
    · simp only [directory, if_false] at created
      cases created

/-- **A directory with a file in it**, where nothing has stood. -/
theorem put_put_spec {l : Location} (present : l ≠ []) (s : Store) (name : String)
    (contents : Bytes) :
    AgreeOff l s ((s.put l .directory).put (l ++ [name]) (.file contents)) ∧
      ((s.put l .directory).put (l ++ [name]) (.file contents)).get? l = some .directory ∧
      ((s.put l .directory).put (l ++ [name]) (.file contents)).get? (l ++ [name]) =
        some (.file contents) := by
  have below : l ++ [name] ≠ [] := by simp
  have other : l ≠ l ++ [name] := by simp
  refine ⟨?_, ?_, ?_⟩
  · exact ((AgreeOff.refl l s).put_below (List.prefix_refl l) present _).put_below
      (List.prefix_append l [name]) below _
  · rw [get?_put below, if_neg other, get?_put present, if_pos rfl]
  · rw [get?_put below, if_pos rfl]

/-- A file is copied into a workspace if it can be read. -/
theorem stage_of_read {h : Host} {s : Session} {w : Workspace} {file name : String}
    {contents : Bytes} (named : Path.fileName? file = some name)
    (read : s.store.read h.workingDirectory file = .ok contents) :
    ∃ u, w.stage h file s = (.ok (Path.join w.path name), u) ∧
      u.store = s.store.put (w.location ++ [name]) (.file contents) := by
  have node : s.store.node h.workingDirectory file = .ok (.file contents) := by
    rw [Store.read] at read
    obtain ⟨n, found, rest⟩ := bind_eq_ok_iff.mp read
    cases n with
    | directory => cases rest
    | file bytes =>
      obtain rfl : bytes = contents := Except.ok.inj rest
      exact found
  refine ⟨{ s with store := s.store.put (w.location ++ [name]) (.file contents) }, ?_, rfl⟩
  rw [stage, Task.onStore, named]
  simp only [node]

theorem stage_of_read_error {h : Host} {s : Session} {w : Workspace} {file : String}
    {e : SystemError} (failed : s.store.read h.workingDirectory file = .error e) :
    ∃ fault, w.stage h file s = (.error fault, s) := by
  rw [stage, Task.onStore]
  cases Path.fileName? file with
  | none => exact ⟨_, rfl⟩
  | some name =>
    rw [Store.read] at failed
    cases found : s.store.node h.workingDirectory file with
    | error e' => exact ⟨_, rfl⟩
    | ok n =>
      rw [found] at failed
      cases n with
      | directory => exact ⟨_, rfl⟩
      | file contents => cases failed

/-- The name of a file that can be read can be handed to the operating system. -/
theorem name_of_read {s : Store} {workingDirectory path name : String} {contents : Bytes}
    (named : Path.fileName? path = some name) (read : s.read workingDirectory path = .ok contents) :
    '\x00' ∉ name.toList ∧ name.utf8ByteSize ≤ longestName := by
  obtain ⟨mem, -⟩ := mem_components_of_fileName? named
  obtain ⟨piece, counts⟩ := List.mem_filter.mp mem
  obtain ⟨l, located, -⟩ := read_eq_ok_iff.mp read
  obtain ⟨-, noZero, -, walked⟩ := locate_eq_ok_iff.mp located
  have size := size_le_of_walk walked piece counts
  rw [String.ofList_toList] at size
  refine ⟨fun zero => noZero ?_, size⟩
  have slash : '\x00' ≠ '/' := by decide
  exact (exists_mem_splitAtChar_iff slash).mp ⟨_, piece, zero⟩

end Workspace

end TreeWire
