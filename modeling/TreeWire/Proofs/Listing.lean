import TreeWire.Command.Perform
import TreeWire.Proofs.FieldNumber

/-!
# Listings and extractions

The branches of a tree are gone through twice, by different commands: a listing makes a row of every
branch and says whether it is selected, and an extraction makes a field of every branch that is
selected, with a number and with a name that no other field has. A listing is of use only if it
shows what an extraction makes. It does: the rows that are marked lead to the fields, one to one and
in the same order, whatever the names of the branches are and whether or not their types have kinds.
The only thing that an extraction can fail for alone is that it runs out of numbers.

* `TreeWire.Row.IsOf` – the row of a branch;
* `TreeWire.Row.Shows` – **a row shows a field**;
* `TreeWire.Tree.forall₂_listing`, `TreeWire.Tree.forall₂_shows` – the rows and the fields of a
  tree;
* `TreeWire.Source.missing_or_found` – a listing and an extraction of one file look at the same
  tree;
* `TreeWire.Source.report_emission` – **the main statement**;
* `TreeWire.Command.forall₂_shows_document` – the same for the two commands.
-/

namespace TreeWire

/-! ### One tree -/

/-- **A row is that of a branch.** -/
structure Row.IsOf (selection : Selection) (b : Branch) (r : Row) : Prop where
  /-- It has the name of the branch. -/
  name : r.name = b.name
  /-- It has the native type of the branch. -/
  native : r.native = b.nativeType
  /-- Its column is what the native type is mapped to. -/
  column : r.column = ColumnType.ofNative b.nativeType
  /-- It is marked exactly if the branch is selected. -/
  selected : r.selected = true ↔ selection.accepts b.name = true

theorem Row.isOf_of (selection : Selection) (i : Nat) (b : Branch) :
    (Row.of selection i b).IsOf selection b where
  name := by rw [Row.of]
  native := by rw [Row.of]
  column := by rw [Row.of, Branch.columnType]
  selected := by rw [Row.of]

/-- **A row shows a field**: the branch of the field, the type, and whether it is repeated. -/
structure Row.Shows (r : Row) (f : Field) : Prop where
  /-- The field names the branch of the row. -/
  branch : f.branch = r.name
  /-- The field has the type of the row. -/
  type : f.type = r.column.type
  /-- The field holds a list exactly if the row says so. -/
  repeated : f.repeated = r.column.repeated

namespace Tree

/-- **There is a row for every branch**, in the order of declaration. -/
theorem forall₂_listing (t : Tree) (selection : Selection) :
    List.Forall₂ (Row.IsOf selection) t.branches (t.listing selection) :=
  forall₂_mapIdx (Row.isOf_of selection) t.branches

/-- The rows that are marked are those of the branches that are selected. -/
theorem forall₂_filter_listing (t : Tree) (selection : Selection) :
    List.Forall₂ (Row.IsOf selection) (selected selection t.branches)
      ((t.listing selection).filter (·.selected)) :=
  List.rel_filter (fun _ _ row => row.selected.symm) (t.forall₂_listing selection)

/-- **The rows that are marked show the fields** that are extracted. -/
theorem forall₂_shows {t : Tree} {selection : Selection} {ids : Numbering} {fields : List Field}
    (run : (t.extract selection ids).1 = .ok fields) :
    List.Forall₂ Row.Shows ((t.listing selection).filter (·.selected)) fields := by
  have made : List.Forall₂ (fun f b => f.IsOf ids.next b) fields (selected selection t.branches) :=
    fieldsOf_eq_ok (Prod.ext run rfl)
  refine (forall₂_trans ?_ made (t.forall₂_filter_listing selection)).flip
  intro f b r made row
  have same : r.column = ⟨f.type, f.repeated⟩ := row.column.trans made.column
  exact ⟨made.branch.trans row.name.symm, by rw [same], by rw [same]⟩

/-- An extraction takes as many numbers as there are marked rows. -/
theorem length_selected (t : Tree) (selection : Selection) :
    (selected selection t.branches).length =
      ((t.listing selection).filter (·.selected)).length :=
  (t.forall₂_filter_listing selection).length_eq

end Tree

/-! ### A tree in a file -/

namespace Source

/-- A listing and an extraction of a tree that is there, and of one that is not. -/
theorem listing_and_extract (source : Source) (tree : String) (selection : Selection) :
    (∀ fault, source.tree tree = .error fault → source.listing tree selection = .error fault ∧
      ∀ ids, (source.extract tree selection ids).1 = .error fault) ∧
    ∀ t, source.tree tree = .ok t → source.listing tree selection = .ok (t.listing selection) ∧
      ∀ ids, source.extract tree selection ids = t.extract selection ids := by
  constructor
  · intro fault missing
    simp only [listing, extract, missing]
    exact ⟨rfl, fun _ => trivial⟩
  · intro t found
    simp only [listing, extract, found]
    exact ⟨rfl, fun _ => trivial⟩

/-- **Both find the same tree**, or neither finds one, for the same reason. -/
theorem missing_or_found (s : Store) (workingDirectory path tree : String) (selection : Selection) :
    (∃ fault, report s workingDirectory path tree selection = .error fault ∧
      ∀ ids, emission s workingDirectory path tree selection ids = .error fault) ∨
    ∃ source t, Source.open s workingDirectory path = .ok source ∧ source.tree tree = .ok t ∧
      report s workingDirectory path tree selection = .ok (t.listing selection) ∧
      ∀ ids, emission s workingDirectory path tree selection ids = (t.extract selection ids).1 := by
  cases opened : Source.open s workingDirectory path with
  | error fault =>
    refine Or.inl ⟨fault, ?_, fun ids => ?_⟩
    · rw [report, opened]; rfl
    · rw [emission, opened]; rfl
  | ok source =>
    obtain ⟨missing, there⟩ := source.listing_and_extract tree selection
    have listed : report s workingDirectory path tree selection =
        source.listing tree selection := by
      rw [report, opened]; rfl
    have made : ∀ ids, emission s workingDirectory path tree selection ids =
        (source.extract tree selection ids).1 := fun ids => by
      rw [emission, opened]; rfl
    cases found : source.tree tree with
    | error fault =>
      obtain ⟨noRows, noFields⟩ := missing fault found
      exact Or.inl ⟨fault, listed.trans noRows, fun ids => (made ids).trans (noFields ids)⟩
    | ok t =>
      obtain ⟨rows, fields⟩ := there t found
      exact Or.inr ⟨source, t, rfl, found, listed.trans rows,
        fun ids => (made ids).trans (congrArg Prod.fst (fields ids))⟩

/-- **A listing shows what an extraction makes**, whatever the files, the tree, the selection and
the numbers that are left. There is a row for every branch of the tree. If there are rows and
fields, then the rows that are marked show the fields, one to one and in order, and no other row has
a field. If there are enough numbers left for the rows that are marked, then a listing fails exactly
if an extraction does, with the same fault; and if there are not, then the extraction runs out of
numbers. -/
theorem report_emission (s : Store) (workingDirectory path tree : String) (selection : Selection)
    (ids : Numbering) :
    (∀ rows, report s workingDirectory path tree selection = .ok rows →
      ∃ source t, Source.open s workingDirectory path = .ok source ∧ source.tree tree = .ok t ∧
        List.Forall₂ (Row.IsOf selection) t.branches rows) ∧
    (∀ rows fields, report s workingDirectory path tree selection = .ok rows →
      emission s workingDirectory path tree selection ids = .ok fields →
      List.Forall₂ Row.Shows (rows.filter (·.selected)) fields) ∧
    ((∀ rows, report s workingDirectory path tree selection = .ok rows →
        ids.next + (rows.filter (·.selected)).length ≤ largestFieldNumber + 1) →
      ∀ fault, report s workingDirectory path tree selection = .error fault ↔
        emission s workingDirectory path tree selection ids = .error fault) ∧
    ∀ rows, report s workingDirectory path tree selection = .ok rows →
      ids.next ≤ largestFieldNumber + 1 →
      largestFieldNumber + 1 < ids.next + (rows.filter (·.selected)).length →
      emission s workingDirectory path tree selection ids =
        .error (.config "field id space exhausted") := by
  rcases missing_or_found s workingDirectory path tree selection with
    ⟨fault, listed, made⟩ | ⟨source, t, opened, found, listed, made⟩
  · rw [listed, made]
    exact ⟨nofun, nofun, fun _ other => by simp, nofun⟩
  · rw [listed, made]
    refine ⟨fun rows same => ?_, fun rows fields same run => ?_, fun enough fault => ?_,
      fun rows same left many => ?_⟩
    · obtain rfl := Except.ok.inj same
      exact ⟨source, t, opened, found, t.forall₂_listing selection⟩
    · obtain rfl := Except.ok.inj same
      exact Tree.forall₂_shows run
    · have room := enough _ rfl
      rw [← t.length_selected] at room
      obtain ⟨fields, run, -⟩ := exists_fieldsOf [] ids room
      simp [Tree.extract, run]
    · obtain rfl := Except.ok.inj same
      rw [← t.length_selected] at many
      rw [Tree.extract, fieldsOf_of_exhausted [] ids left many]

/-- A store with a dump of a tree in which one name stands twice, with types of which one has no
kind. -/
def repeatedStore : Store where
  nodes :=
    [(["w"], .directory),
      (["w", "e.json"], .file (utf8 ("\x7b\"trees\":[\x7b\"name\":\"e\",\"branches\":[" ++
        "\x7b\"name\":\"x\",\"leaf_type\":\"Int_t\",\"values\":[]\x7d," ++
        "\x7b\"name\":\"y\",\"leaf_type\":\"Int_t\",\"values\":[]\x7d," ++
        "\x7b\"name\":\"x\",\"class_name\":\"vector<P>\",\"values\":[]\x7d]\x7d]\x7d")))]

/-- Its rows, of which those of that name are marked. -/
def repeatedRows : List Row :=
  [⟨0, "x", "Int_t", ⟨.scalar .int32, false⟩, true⟩,
    ⟨1, "y", "Int_t", ⟨.scalar .int32, false⟩, false⟩,
    ⟨2, "x", "vector<P>", ⟨.unresolved "P", true⟩, true⟩]

/-- The fields of the two branches. -/
def repeatedFields : List Field :=
  [⟨"x", .scalar .int32, 7, "x", false⟩, ⟨"x_8", .unresolved "P", 8, "x", true⟩]

/-- A selection with a malformed glob: two rows are marked and lead to two fields, if there are
numbers for both. Neither a listing nor an extraction finds a tree of another name. -/
theorem report_emission_repeated :
    report repeatedStore "/w" "e.json" "e" (.parse "x,[") = .ok repeatedRows ∧
    emission repeatedStore "/w" "e.json" "e" (.parse "x,[") ⟨7⟩ = .ok repeatedFields ∧
    List.Forall₂ Row.Shows (repeatedRows.filter (·.selected)) repeatedFields ∧
    emission repeatedStore "/w" "e.json" "f" (.parse "x,[") ⟨7⟩ =
      .error (.treeNotFound "f" "e.json") ∧
    emission repeatedStore "/w" "e.json" "e" (.parse "x,[") ⟨largestFieldNumber⟩ =
      .error (.config "field id space exhausted") := by
  have listed : report repeatedStore "/w" "e.json" "e" (.parse "x,[") = .ok repeatedRows := by
    decide +kernel
  have made : emission repeatedStore "/w" "e.json" "e" (.parse "x,[") ⟨7⟩ = .ok repeatedFields := by
    decide +kernel
  have missing : report repeatedStore "/w" "e.json" "f" (.parse "x,[") =
      .error (.treeNotFound "f" "e.json") := by
    decide +kernel
  obtain ⟨-, shown, -, -⟩ := report_emission repeatedStore "/w" "e.json" "e" (.parse "x,[") ⟨7⟩
  obtain ⟨-, -, same, -⟩ := report_emission repeatedStore "/w" "e.json" "f" (.parse "x,[") ⟨7⟩
  obtain ⟨-, -, -, short⟩ :=
    report_emission repeatedStore "/w" "e.json" "e" (.parse "x,[") ⟨largestFieldNumber⟩
  refine ⟨listed, made, shown _ _ listed made, (same (fun _ found => ?_) _).mp missing,
    short _ listed (Nat.le_succ largestFieldNumber) (by decide)⟩
  rw [missing] at found
  cases found

end Source

namespace Command

/-- **A listing of the same tree with the same selection shows the document** that a schema is
written from. -/
theorem forall₂_shows_document {h : Host} {o : GenerateOptions} {settings : Settings}
    {file tree : String} {s : Store} {doc : Document}
    (made : o.document settings h file tree s = .ok doc) :
    ∃ rows, listingRows h file tree (Selection.parse o.branches) s = .ok rows ∧
      List.Forall₂ Row.Shows (rows.filter (·.selected)) doc.fields := by
  obtain ⟨fields, extracted, valid⟩ := bind_eq_ok_iff.mp made
  obtain ⟨-, -, rfl⟩ := Document.of_eq_ok (mapError_eq_ok_iff.mp valid)
  rcases Source.missing_or_found s h.workingDirectory file tree (.parse o.branches) with
    ⟨fault, -, failed⟩ | ⟨source, t, -, -, listed, same⟩
  · rw [failed] at extracted
    cases extracted
  · have shown : listingRows h file tree (.parse o.branches) s =
        .ok (t.listing (.parse o.branches)) := by
      unfold listingRows
      rw [listed]
    rw [same] at extracted
    exact ⟨t.listing (.parse o.branches), shown, Tree.forall₂_shows extracted⟩

end Command

end TreeWire
