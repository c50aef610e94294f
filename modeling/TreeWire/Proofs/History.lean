import TreeWire.Proofs.Interruption

/-!
# Loading has no memory

Bindings are loaded again and again, and a load may stop half-way: a series is then half filled, and
the buffers behind it still hold an earlier entry. None of this shows in a later load. What a
binding was made as – its branch, its place in the tree, its kind, and whether it holds a series –
is kept by every load, complete or not, and a load that succeeds depends on nothing else.

* `TreeWire.Tree.loadEach` – **a history**: loads of some entries, one after the other;
* `TreeWire.Tree.map_blank_load`, `TreeWire.Tree.map_blank_loadEach` – what one load keeps, and what
  a history keeps;
* `TreeWire.Tree.load_congr` – what a load reports and leaves behind depends on what the bindings
  were made as;
* `TreeWire.Tree.load_loadEach` – **the main statement**: a load after any history is a load of
  fresh bindings.
-/

namespace TreeWire

namespace Tree

/-! ### One load -/

/-- **One load**, complete or not, leaves bindings what they were made as. -/
theorem map_blank_load (t : Tree) (entry : Nat) (bindings : List Binding) :
    (t.load entry bindings).1.map Binding.blank = bindings.map Binding.blank := by
  rcases Nat.lt_or_ge entry t.entries with he | he
  · cases hr : bindings.mapM (t.refresh entry) with
    | ok row =>
      rw [load_of_ok he hr]
      exact map_blank_of_mapM_refresh hr
    | error fault =>
      obtain ⟨row, loaded, made⟩ := loadRow_of_error hr
      rw [load, if_neg (by omega), loaded]
      exact made
  · rw [load, if_pos he]

/-- An entry is loaded exactly if all bindings can be refreshed with it, each by itself. -/
theorem load_eq_ok_iff {t : Tree} {entry : Nat} {bindings row : List Binding} {n : Nat}
    (he : entry < t.entries) :
    t.load entry bindings = (row, .ok n) ↔
      bindings.mapM (t.refresh entry) = .ok row ∧ t.branches.length = n := by
  cases hr : bindings.mapM (t.refresh entry) with
  | ok cs => simp [load_of_ok he hr]
  | error fault =>
    obtain ⟨cs, loaded⟩ := load_of_error he hr
    simp [loaded]

/-- A binding is loaded by itself exactly if it can be refreshed. -/
theorem load_singleton_eq_ok_iff {t : Tree} {entry : Nat} {b c : Binding} {n : Nat}
    (he : entry < t.entries) :
    t.load entry [b] = ([c], .ok n) ↔ t.refresh entry b = .ok c ∧ t.branches.length = n := by
  rw [load_eq_ok_iff he, mapM_eq_ok_iff, List.forall₂_cons]
  simp

/-- **Bindings that were made as the same** are loaded with the same outcome, and a load that
succeeds leaves the same in them. -/
theorem load_congr {t : Tree} {bs cs : List Binding}
    (same : bs.map Binding.blank = cs.map Binding.blank) (entry : Nat) :
    (t.load entry bs).2 = (t.load entry cs).2 ∧
      ∀ row n, entry < t.entries → t.load entry bs = (row, .ok n) →
        t.load entry cs = (row, .ok n) := by
  have refreshed : bs.mapM (t.refresh entry) = cs.mapM (t.refresh entry) := by
    rw [← t.mapM_refresh_blank, same, t.mapM_refresh_blank]
  rcases Nat.lt_or_ge entry t.entries with he | he
  · constructor
    · cases hr : bs.mapM (t.refresh entry) with
      | ok row => rw [load_of_ok he hr, load_of_ok he (refreshed ▸ hr)]
      | error fault =>
        obtain ⟨row, loaded⟩ := load_of_error he hr
        obtain ⟨row', loaded'⟩ := load_of_error he (refreshed ▸ hr)
        rw [loaded, loaded']
    · intro row n _ loaded
      rw [load_eq_ok_iff he] at loaded ⊢
      exact refreshed ▸ loaded
  · constructor
    · rw [load, if_pos he, load, if_pos he]
    · omega

/-! ### Histories -/

/-- **A history**: the bindings after loads of some entries, one after the other, whatever each of
them reports. -/
def loadEach (t : Tree) : List Nat → List Binding → List Binding
  | [], bindings => bindings
  | entry :: entries, bindings => t.loadEach entries (t.load entry bindings).1

/-- **A history** leaves bindings what they were made as. -/
theorem map_blank_loadEach (t : Tree) (history : List Nat) (bindings : List Binding) :
    (t.loadEach history bindings).map Binding.blank = bindings.map Binding.blank := by
  induction history generalizing bindings with
  | nil => rfl
  | cons entry history ih => rw [loadEach, ih, map_blank_load]

/-- **A load after any history is a load of fresh bindings.** Whatever loads there have been –
complete, stopped half-way, or beyond the last entry – the branch, the handle, the kind and the
shape of every binding are what they were, and the next load reports what it would report of fresh
bindings. If it succeeds, then every binding is the same as a fresh one – as it was made, or bound
to its branch again – which is loaded with that entry alone. -/
theorem load_loadEach (t : Tree) (history : List Nat) (bindings : List Binding) :
    (t.loadEach history bindings).map
        (fun b => (b.branch, b.handle, b.buffer.kind, b.buffer.repeated)) =
      bindings.map (fun b => (b.branch, b.handle, b.buffer.kind, b.buffer.repeated)) ∧
    ∀ entry,
      (t.load entry (t.loadEach history bindings)).2 =
        (t.load entry (bindings.map Binding.blank)).2 ∧
      ∀ row n, entry < t.entries → t.load entry (t.loadEach history bindings) = (row, .ok n) →
        t.load entry (bindings.map Binding.blank) = (row, .ok n) ∧
        List.Forall₂ (fun b c =>
          t.load entry [b.blank] = ([c], .ok n) ∧
          ∀ fresh, t.bind b.branch b.buffer.kind b.buffer.repeated = .ok fresh →
            fresh.handle = b.handle → t.load entry [fresh] = ([c], .ok n)) bindings row := by
  have made := t.map_blank_loadEach history bindings
  have blank : (t.loadEach history bindings).map Binding.blank =
      (bindings.map Binding.blank).map Binding.blank := by
    rw [made, List.map_map]
    refine List.map_congr_left fun b _ => ?_
    simp [Binding.blank]
  constructor
  · have columns := congrArg
      (List.map fun b => (b.branch, b.handle, b.buffer.kind, b.buffer.repeated)) made
    rw [List.map_map, List.map_map] at columns
    simpa [Function.comp_def, Binding.blank] using columns
  · intro entry
    obtain ⟨outcome, row⟩ := load_congr (t := t) blank entry
    refine ⟨outcome, fun cs n he loaded => ?_⟩
    have fresh := row cs n he loaded
    refine ⟨fresh, ?_⟩
    obtain ⟨refreshed, count⟩ := (load_eq_ok_iff he).mp fresh
    rw [mapM_eq_ok_iff, List.forall₂_map_left_iff] at refreshed
    refine refreshed.imp fun b c hc => ?_
    have alone : t.load entry [b.blank] = ([c], .ok n) :=
      (load_singleton_eq_ok_iff he).mpr ⟨hc, count⟩
    refine ⟨alone, fun again bound handle => ?_⟩
    -- what is bound again is the binding as it was made
    obtain ⟨-, -, -, -, branch, buffer⟩ := bind_eq_ok bound
    have same : again = b.blank := by
      rw [Binding.blank, ← branch, ← buffer, ← handle]
    rw [same]
    exact alone

/-- The second entry fills the list half-way and the tenth does not exist. The first entry is then
loaded as if nothing had happened. -/
theorem load_loadEach_readings :
    readings.loadEach [1, 9] readingsBindings =
      [⟨"x", 0, .scalar ⟨.int32, 8⟩⟩, ⟨"ys", 1, .array ⟨.int32, #[2]⟩⟩] ∧
    0 < readings.entries ∧
    readings.load 0 (readings.loadEach [1, 9] readingsBindings) =
      ([⟨"x", 0, .scalar ⟨.int32, 7⟩⟩, ⟨"ys", 1, .array ⟨.int32, #[1]⟩⟩], .ok 2) ∧
    readings.load 0 (readingsBindings.map Binding.blank) =
      ([⟨"x", 0, .scalar ⟨.int32, 7⟩⟩, ⟨"ys", 1, .array ⟨.int32, #[1]⟩⟩], .ok 2) ∧
    readings.bind "ys" .int32 true = .ok ⟨"ys", 1, .fresh .int32 true⟩ ∧
    readings.load 0 [⟨"ys", 1, .fresh .int32 true⟩] =
      ([⟨"ys", 1, .array ⟨.int32, #[1]⟩⟩], .ok 2) := by
  have left : readings.loadEach [1, 9] readingsBindings =
      [⟨"x", 0, .scalar ⟨.int32, 8⟩⟩, ⟨"ys", 1, .array ⟨.int32, #[2]⟩⟩] := by
    decide +kernel
  have loaded : readings.load 0 (readings.loadEach [1, 9] readingsBindings) =
      ([⟨"x", 0, .scalar ⟨.int32, 7⟩⟩, ⟨"ys", 1, .array ⟨.int32, #[1]⟩⟩], .ok 2) := by
    decide +kernel
  have bound : readings.bind "ys" .int32 true = .ok ⟨"ys", 1, .fresh .int32 true⟩ := by
    decide +kernel
  obtain ⟨-, loads⟩ := load_loadEach readings [1, 9] readingsBindings
  obtain ⟨fresh, alone⟩ := (loads 0).2 _ _ (by decide) loaded
  have second : readingsBindings[1]? = some ⟨"ys", 1, .fresh .int32 true⟩ := rfl
  obtain ⟨c, hc, -, again⟩ := exists_getElem?_of_forall₂ alone second
  obtain rfl := Option.some.inj hc
  exact ⟨left, by decide, loaded, fresh, bound, again _ bound rfl⟩

end Tree

end TreeWire
