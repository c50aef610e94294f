import TreeWire.Proofs.Interruption

/-!
# What a conversion depends on

Two trees of one name may declare the same branches and hold different values. Converting them with
one descriptor set binds the same branches at the same places, or fails for the same reason, since
binding looks at declarations only. From then on a run reads one cell for every binding and every
entry that it comes to, and nothing else: no other column, no later entry, and not how many entries
there are beyond the last one that is converted.

* `TreeWire.Branch.declaration` – a branch without its values;
* `TreeWire.Tree.prepare_congr` – binding looks at declarations only;
* `TreeWire.Tree.recordAlone_congr` – **one row**: a record depends on the cells of its bindings;
* `TreeWire.Tree.convert_eq_of_records` – a run all of whose records are there;
* `TreeWire.Tree.convert_congr_and_take` – **the main statement**: what two runs have in common, and
  what a shorter run has in common with a longer one.
-/

namespace TreeWire

/-! ### Declarations -/

/-- **The declaration of a branch**: the branch without its values. -/
def Branch.declaration (b : Branch) : Branch := { b with values := #[] }

namespace Tree

variable {t u : Tree}

/-- A branch is looked for among the declarations. -/
theorem find?_zipIdx_declaration (branches : List Branch) (branch : String) :
    (branches.zipIdx.find? (·.1.name == branch)).map (Prod.map Branch.declaration id) =
      (branches.map Branch.declaration).zipIdx.find? (·.1.name == branch) := by
  rw [List.zipIdx_map, List.find?_map]
  rfl

/-- **Binding looks at declarations only.** -/
theorem bind_congr (name : t.name = u.name)
    (declared : t.branches.map Branch.declaration = u.branches.map Branch.declaration)
    (branch : String) (kind : Kind) (repeated : Bool) :
    t.bind branch kind repeated = u.bind branch kind repeated := by
  have found := find?_zipIdx_declaration t.branches branch
  rw [declared, ← find?_zipIdx_declaration] at found
  unfold bind
  rw [name]
  cases ht : t.branches.zipIdx.find? (·.1.name == branch) with
  | none =>
    rw [ht] at found
    rw [Option.map_eq_none_iff.mp found.symm]
  | some q =>
    rw [ht] at found
    obtain ⟨r, hu, same⟩ := Option.map_eq_some_iff.mp found.symm
    rw [hu]
    obtain ⟨⟨n, c, l, vs⟩, i⟩ := q
    obtain ⟨⟨n', c', l', vs'⟩, i'⟩ := r
    simp only [Prod.map_apply, Branch.declaration, id_eq, Prod.mk.injEq, Branch.mk.injEq,
      and_true] at same
    obtain ⟨⟨rfl, rfl, rfl⟩, rfl⟩ := same
    rfl

/-- **A conversion is prepared in the same way**, or fails before it begins for the same reason. -/
theorem prepare_congr (name : t.name = u.name)
    (declared : t.branches.map Branch.declaration = u.branches.map Branch.declaration)
    (set : DescriptorSet) (message : Option String) :
    t.prepare set message = u.prepare set message := by
  have bound : t.bindField = u.bindField := by
    funext f
    simp only [bindField, bind_congr name declared]
  have laid : t.layout = u.layout := by
    funext fields
    rw [layout_eq, layout_eq, bound]
  rw [prepare, prepare, laid]

/-! ### One row -/

/-- **One row**: a record depends on the cells that its bindings read. -/
theorem recordAlone_congr {layout : Record} {bindings : List Binding} {entry : Nat}
    (name : t.name = u.name)
    (agree : ∀ b ∈ bindings, t.value? b.handle entry = u.value? b.handle entry) :
    t.recordAlone layout bindings entry = u.recordAlone layout bindings entry := by
  have refreshed : bindings.mapM (t.refresh entry) = bindings.mapM (u.refresh entry) := by
    refine mapM_congr fun b mem => ?_
    rw [refresh, refresh, agree b mem, name]
  rw [recordAlone, recordAlone, refreshed]

/-! ### The run -/

/-- **A run is that of its records.** -/
theorem convert_eq {set : DescriptorSet} {message : Option String} {limit : Int}
    {framing : Framing} {target : Target} {layout : Record} {bindings : List Binding}
    (prepared : t.prepare set message = .ok (target, layout, bindings)) :
    t.convert set message limit framing =
      let header := headerRecord (t.clamp limit)
      let run := framing.frames
        ((List.range' 0 (t.clamp limit)).map (t.recordAlone layout bindings))
      (framing.frame header ++ run.1,
        run.2.map fun n => ⟨target.fullName, t.clamp limit, framing.frameSize header + n⟩) := by
  have le := t.clamp_le limit
  simp only [convert, prepared, records_eq_frames (show 0 + t.clamp limit ≤ t.entries by omega)]

end Tree

/-- Records that are all there take as many bytes as they have. -/
theorem Framing.frames_map_ok (framing : Framing) (records : List Bytes) :
    framing.frames (records.map .ok) =
      (records.flatMap framing.frame, .ok (records.flatMap framing.frame).length) := by
  induction records with
  | nil => rfl
  | cons bs records ih =>
    rw [List.map_cons, frames, ih, List.flatMap_cons, List.length_append, length_frame]
    rfl

namespace Tree

variable {t u : Tree}

/-- **A run all of whose records are there** has written the header and the records, and counts
them right. -/
theorem convert_eq_of_records {set : DescriptorSet} {message : Option String} {limit : Int}
    {framing : Framing} {target : Target} {layout : Record} {bindings : List Binding}
    {records : List Bytes} (prepared : t.prepare set message = .ok (target, layout, bindings))
    (written : (List.range' 0 (t.clamp limit)).map (t.recordAlone layout bindings) =
      records.map .ok) :
    let bytes := framing.frame (headerRecord (t.clamp limit)) ++ records.flatMap framing.frame
    t.convert set message limit framing =
      (bytes, .ok ⟨target.fullName, t.clamp limit, bytes.length⟩) := by
  rw [convert_eq prepared, written, Framing.frames_map_ok]
  simp [Except.map]

/-- The records of two runs, as far as the cells agree. -/
theorem map_recordAlone_congr {layout : Record} {bindings : List Binding} {n : Nat}
    (name : t.name = u.name)
    (agree : ∀ b ∈ bindings, ∀ entry < n, t.value? b.handle entry = u.value? b.handle entry) :
    (List.range' 0 n).map (t.recordAlone layout bindings) =
      (List.range' 0 n).map (u.recordAlone layout bindings) := by
  refine List.map_congr_left fun entry mem => recordAlone_congr name fun b hb => agree b hb entry ?_
  have := List.mem_range'_1.mp mem
  omega

/-- **Only the cells that are converted matter.** Of two trees with one name and the same branches,
let the columns that the fields are bound to agree at all entries that the run over the second tree
converts, while all other columns and entries hold anything. If the run over the first tree converts
as many entries, then both have the same result, be it a fault, and write the same bytes. If the run
over the first tree converts at least as many and succeeds, then so does the run over the second
one, and its data records are the first ones of the other run. With one tree in the place of both,
this says what a lower limit changes. -/
theorem convert_congr_and_take {set : DescriptorSet} {message : Option String} {more less : Int}
    (name : t.name = u.name)
    (declared : t.branches.map Branch.declaration = u.branches.map Branch.declaration)
    (le : u.clamp less ≤ t.clamp more)
    (agree : ∀ target layout bindings, t.prepare set message = .ok (target, layout, bindings) →
      ∀ b ∈ bindings, ∀ entry < u.clamp less, t.value? b.handle entry = u.value? b.handle entry)
    (framing : Framing) :
    (t.clamp more = u.clamp less →
      t.convert set message more framing = u.convert set message less framing) ∧
    ∀ bytes w, t.convert set message more framing = (bytes, .ok w) →
      ∃ target layout fresh, ∃ records : List Bytes,
        t.prepare set message = .ok (target, layout, fresh) ∧
        records.length = t.clamp more ∧
        (∀ entry (he : entry < records.length), ∃ row,
          t.load entry fresh = (row, .ok t.branches.length) ∧
          layout.encode row [] = (records[entry], none)) ∧
        bytes = framing.frame (headerRecord (t.clamp more)) ++ records.flatMap framing.frame ∧
        w = ⟨target.fullName, t.clamp more, bytes.length⟩ ∧
        ∃ shorter, u.convert set message less framing =
            (shorter, .ok ⟨target.fullName, u.clamp less, shorter.length⟩) ∧
          shorter = framing.frame (headerRecord (u.clamp less)) ++
            (records.take (u.clamp less)).flatMap framing.frame := by
  have same := prepare_congr name declared set message
  constructor
  · intro count
    cases prepared : t.prepare set message with
    | error fault => simp only [convert, ← same, prepared]
    | ok r =>
      obtain ⟨target, layout, bindings⟩ := r
      rw [convert_eq prepared, convert_eq (same ▸ prepared), count,
        map_recordAlone_congr name (agree _ _ _ prepared)]
  · intro bytes w run
    obtain ⟨target, layout, fresh, prepared, -, records, written, -⟩ := convert_eq_ok run
    have length : records.length = t.clamp more := by
      simpa using (congrArg List.length written).symm
    obtain ⟨rfl, finished⟩ := Prod.mk.inj (run.symm.trans (convert_eq_of_records prepared written))
    refine ⟨target, layout, fresh, records, prepared, length, fun entry he => ?_, rfl,
      Except.ok.inj finished, _, convert_eq_of_records (same ▸ prepared) ?_, rfl⟩
    · have alone : t.recordAlone layout fresh entry = .ok records[entry] := by
        have := congrArg (·[entry]?) written
        simpa [he, length ▸ he] using this
      obtain ⟨row, hr, encoded⟩ := recordAlone_eq_ok_iff.mp alone
      have := t.clamp_le more
      exact ⟨row, load_of_ok (by omega) hr, encoded⟩
    · -- the entries of the shorter run are the first ones of the longer run
      rw [← map_recordAlone_congr name (agree _ _ _ prepared), List.map_take, ← written,
        ← List.map_take, List.take_range'_of_length_ge le]

/-- The branches of `TreeWire.Tree.events`, of which only the first entries of the first two are the
same: the others do not even convert, and there is one more entry. -/
def altered : Tree where
  name := "events"
  branches :=
    [⟨"x", "", "Int_t", #[.ofInt32 (-1), .string "late", .null]⟩,
      ⟨"ys", "vector<int>", "", #[.array [.ofInt32 (-1)], .null, .array []]⟩,
      ⟨"x", "", "Int_t", #[.string "unread", .null, .null]⟩]
  entries := 3
  size_values := by simp
  entries_eq_zero := nofun

/-- One entry of either tree, and two entries of the one whose values convert. -/
theorem convert_congr_and_take_events :
    events.branches.map Branch.declaration = altered.branches.map Branch.declaration ∧
    altered.clamp 1 ≤ events.clamp 1 ∧ altered.clamp 1 ≤ events.clamp 5 ∧
    events.convert .event none 1 .concatenated = altered.convert .event none 1 .concatenated ∧
    events.convert .event none 5 .concatenated =
      ([8, 2, 8, 1, 18, 10, 255, 255, 255, 255, 255, 255, 255, 255, 255, 1, 8, 216, 4],
        .ok ⟨"p.Event", 2, 19⟩) ∧
    ∃ (records : List Bytes) (w : Written), records.length = 2 ∧
      [8, 2, 8, 1, 18, 10, 255, 255, 255, 255, 255, 255, 255, 255, 255, 1, 8, 216, 4] =
        headerRecord 2 ++ records.flatMap Framing.concatenated.frame ∧
      altered.convert .event none 1 .concatenated =
        (headerRecord 1 ++ (records.take 1).flatMap Framing.concatenated.frame, .ok w) := by
  have name : events.name = altered.name := rfl
  have declared : events.branches.map Branch.declaration =
      altered.branches.map Branch.declaration := rfl
  have prepared : events.prepare .event none =
      .ok (⟨"p", .event⟩, readingsLayout, readingsBindings) := by
    decide +kernel
  have agree : ∀ target layout bindings,
      events.prepare .event none = .ok (target, layout, bindings) →
      ∀ b ∈ bindings, ∀ entry < altered.clamp 1,
        events.value? b.handle entry = altered.value? b.handle entry := by
    intro target layout bindings same b mem entry lt
    obtain ⟨rfl, rfl, rfl⟩ : ⟨"p", .event⟩ = target ∧ readingsLayout = layout ∧
        readingsBindings = bindings := by
      simpa using prepared.symm.trans same
    obtain rfl : entry = 0 := Nat.lt_one_iff.mp lt
    rcases List.mem_pair.mp mem with rfl | rfl <;> rfl
  have run : events.convert .event none 5 .concatenated =
      ([8, 2, 8, 1, 18, 10, 255, 255, 255, 255, 255, 255, 255, 255, 255, 1, 8, 216, 4],
        .ok ⟨"p.Event", 2, 19⟩) := by
    decide +kernel
  have one : altered.clamp 1 ≤ events.clamp 1 := by decide
  have two : altered.clamp 1 ≤ events.clamp 5 := by decide
  obtain ⟨_, _, _, records, -, length, -, bytes, -, _, less, rfl⟩ :=
    (convert_congr_and_take name declared two agree .concatenated).2 _ _ run
  exact ⟨declared, one, two,
    (convert_congr_and_take name declared one agree .concatenated).1 rfl, run, records, _, length,
    bytes, less⟩

end Tree

end TreeWire
