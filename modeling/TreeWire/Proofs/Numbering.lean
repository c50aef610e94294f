import TreeWire.Proofs.Interruption
import TreeWire.Proofs.Description

/-!
# Numbers over a run

The numbers of fields are handed out over a whole run: several trees may be extracted one after
the other, with any selections, and numbers may be asked for by themselves in between. What a
request takes is known beforehand. The fields of a tree take one number for every selected branch
and none for the others, a tree that is not there takes none, and a number by itself takes one. So
the requests of a run share the numbers from one on without a gap, for as long as there are
enough of them.

* `TreeWire.Answer.numbers` – the numbers that an answer hands out;
* `TreeWire.Request.demand` – **how many numbers a request takes**;
* `TreeWire.Request.Met` – what a request is to be answered with;
* `TreeWire.exists_fieldsOf`, `TreeWire.Request.exists_serve` – the numbers of one extraction, and
  of one request;
* `TreeWire.Request.exists_serveAll` – the numbers of some requests one after the other;
* `TreeWire.Request.numbers_serveAll_start` – **the main statement**: the numbers of a run.
-/

namespace TreeWire

/-! ### One extraction -/

/-- The branches among some that are selected. -/
abbrev selected (selection : Selection) (bs : List Branch) : List Branch :=
  bs.filter (selection.accepts ·.name)

/-- **One number for every selected branch**, one after the other, if there are enough left. -/
theorem exists_fieldsOf {selection : Selection} {bs : List Branch} (taken : List String)
    (ids : Numbering)
    (enough : ids.next + (selected selection bs).length ≤ largestFieldNumber + 1) :
    ∃ fields, fieldsOf selection taken bs ids =
        (.ok fields, ⟨ids.next + (selected selection bs).length⟩) ∧
      fields.map (·.id) = List.range' ids.next (selected selection bs).length := by
  -- every field adds a name and takes a number
  induction bs generalizing taken ids with
  | nil => exact ⟨[], rfl, rfl⟩
  | cons b bs ih =>
    cases ha : selection.accepts b.name with
    | false =>
      have passed : selected selection (b :: bs) = selected selection bs :=
        List.filter_cons_of_neg (by simp [ha])
      rw [fieldsOf_cons_of_not ha, passed]
      exact ih taken ids (passed ▸ enough)
    | true =>
      have kept : selected selection (b :: bs) = b :: selected selection bs :=
        List.filter_cons_of_pos (by simp [ha])
      rw [kept, List.length_cons] at enough ⊢
      have left : ids.next ≤ largestFieldNumber := by omega
      obtain ⟨later, run, numbers⟩ :=
        ih ((b.field taken ids.next).name :: taken) ⟨ids.next + 1⟩
          (by change ids.next + 1 + _ ≤ _; omega)
      refine ⟨b.field taken ids.next :: later, ?_, ?_⟩
      · rw [fieldsOf, if_pos ha, Numbering.take, if_pos left]
        simp only [run]
        rw [Nat.add_right_comm, Nat.add_assoc]
        rfl
      · rw [List.map_cons, numbers, List.range'_succ]
        rfl

/-! ### Requests -/

/-- The numbers that an answer hands out, in order. A fault hands out none. -/
def Answer.numbers : Except Fault Answer → List Nat
  | .ok (.fields fs) => fs.map (·.id)
  | .ok (.number id) => [id]
  | .error _ => []

namespace Request

/-- **How many numbers a request takes**: one for every selected branch of a tree that is there. -/
def demand : Request → Nat
  | extract source tree selection =>
    match source.tree tree with
    | .ok t => (selected selection t.branches).length
    | .error _ => 0
  | number => 1

/-- How many numbers the requests of a run take. -/
def total : List Request → Nat
  | [] => 0
  | r :: rs => r.demand + total rs

theorem total_append (rs qs : List Request) : total (rs ++ qs) = total rs + total qs := by
  induction rs with
  | nil => exact (Nat.zero_add _).symm
  | cons r rs ih => rw [List.cons_append, total, total, ih, Nat.add_assoc]

/-- **What a request is to be answered with**: the fields of a tree are those of its selected
branches in the order of declaration, each with the name of its branch and with the type that the
class of the branch is mapped to, or its leaf type if it has no class. -/
inductive Met : Request → Except Fault Answer → Prop
  /-- The tree is there. -/
  | extracted {source : Source} {tree : String} {selection : Selection} {t : Tree}
    {fields : List Field} :
    source.tree tree = .ok t →
      List.Forall₂ (fun b f => f.branch = b.name ∧
          ColumnType.ofNative (if b.className = "" then b.leafType else b.className) =
            ⟨f.type, f.repeated⟩)
        (t.branches.filter (selection.accepts ·.name)) fields →
      Met (.extract source tree selection) (.ok (.fields fields))
  /-- There is no tree of that name. -/
  | missing {source : Source} {tree : String} {selection : Selection} :
    (∀ t ∈ source.trees, t.name ≠ tree) →
      Met (.extract source tree selection) (.error (.treeNotFound tree source.path))
  /-- A number. -/
  | number (id : Nat) : Met .number (.ok (.number id))

/-! ### One request -/

/-- A tree is not found if there is none of its name. -/
theorem findTree_eq_error {path name : String} {trees : List Tree} {fault : Fault}
    (h : findTree path trees name = .error fault) :
    (∀ t ∈ trees, t.name ≠ name) ∧ .treeNotFound name path = fault := by
  unfold findTree at h
  split at h
  · cases h
  · rename_i none
    exact ⟨by simpa using none, Except.error.inj h⟩

/-- **One request** takes the numbers that it needs, from the next one on, if there are enough
left. -/
theorem exists_serve (r : Request) (ids : Numbering)
    (enough : ids.next + r.demand ≤ largestFieldNumber + 1) :
    ∃ answer, r.serve ids = (answer, ⟨ids.next + r.demand⟩) ∧
      Answer.numbers answer = List.range' ids.next r.demand ∧ r.Met answer ∧
      ∀ fault, answer = .error fault → r.demand = 0 := by
  cases r with
  | number =>
    have left : ids.next ≤ largestFieldNumber := by
      have : ids.next + 1 ≤ largestFieldNumber + 1 := enough
      omega
    refine ⟨.ok (.number ids.next), ?_, rfl, .number _, fun _ fails => by cases fails⟩
    simp only [serve, Numbering.take, if_pos left]
    rfl
  | extract source tree selection =>
    cases found : source.tree tree with
    | error fault =>
      have none : demand (.extract source tree selection) = 0 := by simp only [demand, found]
      obtain ⟨absent, rfl⟩ := findTree_eq_error found
      refine ⟨.error (.treeNotFound tree source.path), ?_, ?_, .missing absent, fun _ _ => none⟩
      · simp only [serve, Source.extract, found, none]
        rfl
      · rw [none]
        rfl
    | ok t =>
      have count : demand (.extract source tree selection) =
          (selected selection t.branches).length := by
        simp only [demand, found]
      rw [count] at enough ⊢
      obtain ⟨fields, run, numbers⟩ := exists_fieldsOf [] ids enough
      have made := (fieldsOf_eq_ok run).flip
      refine ⟨.ok (.fields fields), ?_, numbers, .extracted found ?_, fun _ fails => by cases fails⟩
      · simp only [serve, Source.extract, found, Tree.extract, run]
        rfl
      · exact made.imp fun b f h => ⟨h.branch, h.column⟩

/-! ### A run -/

/-- **Some requests** take the numbers that they need, one request after the other. -/
theorem exists_serveAll (rs : List Request) (ids : Numbering)
    (enough : ids.next + total rs ≤ largestFieldNumber + 1) :
    ∃ answers, serveAll ids rs = (answers, ⟨ids.next + total rs⟩) ∧
      answers.flatMap Answer.numbers = List.range' ids.next (total rs) ∧
      List.Forall₂ Met rs answers := by
  induction rs generalizing ids with
  | nil => exact ⟨[], rfl, rfl, .nil⟩
  | cons r rs ih =>
    have sum : total (r :: rs) = r.demand + total rs := rfl
    rw [sum] at enough ⊢
    obtain ⟨answer, served, first, met, -⟩ :=
      exists_serve r ids (by omega)
    obtain ⟨answers, run, later, others⟩ :=
      ih ⟨ids.next + r.demand⟩ (by change ids.next + r.demand + _ ≤ _; omega)
    refine ⟨answer :: answers, ?_, ?_, .cons met others⟩
    · simp only [serveAll, served, run, Nat.add_assoc]
    · rw [List.flatMap_cons, first, later, List.range'_append_1]

/-- **The numbers of a run.** Whatever is asked for – trees that are there or not, with any
selections, and numbers by themselves – the numbers that the answers hand out are one, two, three
and so on, in order and without a gap, as long as the run takes no more numbers than there are. The
fields of a tree are those of its selected branches. Every request leaves off as many numbers
further on as it takes, whatever has been asked for before, and one that fails takes none. -/
theorem numbers_serveAll_start {requests : List Request}
    (enough : total requests ≤ largestFieldNumber) :
    ∃ answers, serveAll .start requests = (answers, ⟨1 + total requests⟩) ∧
      answers.flatMap Answer.numbers = List.range' 1 (total requests) ∧
      List.Forall₂ Met requests answers ∧
      ∀ earlier r later, requests = earlier ++ r :: later →
        (serveAll .start earlier).2.next = 1 + total earlier ∧
        (r.serve (serveAll .start earlier).2).2.next =
          (serveAll .start earlier).2.next + r.demand ∧
        ∀ fault, (r.serve (serveAll .start earlier).2).1 = .error fault →
          (r.serve (serveAll .start earlier).2).2 = (serveAll .start earlier).2 := by
  have first : Numbering.start.next = 1 := rfl
  obtain ⟨answers, run, numbers, met⟩ :=
    exists_serveAll requests .start (by rw [first]; omega)
  refine ⟨answers, run, numbers, met, ?_⟩
  rintro earlier r later rfl
  have split : total (earlier ++ r :: later) = total earlier + (r.demand + total later) :=
    total_append earlier (r :: later)
  rw [split] at enough
  obtain ⟨_, before, -⟩ :=
    exists_serveAll earlier .start (by rw [first]; omega)
  have reached : (serveAll .start earlier).2 = ⟨1 + total earlier⟩ := congrArg Prod.snd before
  rw [reached]
  -- a request that fails takes no numbers, so it leaves those that it has found
  obtain ⟨answer, served, -, -, failed⟩ :=
    exists_serve r ⟨1 + total earlier⟩ (by change 1 + total earlier + _ ≤ _; omega)
  rw [served]
  refine ⟨rfl, rfl, fun fault fails => ?_⟩
  rw [failed fault fails]
  rfl

/-- A run over `Tree.readings`: one of its branches, a tree that is not there, a number by itself,
and all branches. -/
def ofReadings : List Request :=
  let source : Source := ⟨"readings.json", [Tree.readings]⟩
  [.extract source "readings" (.parse "y*"), .extract source "events" .all, .number,
    .extract source "readings" (.parse "-z")]

/-- The tree that is not there takes no number, nor does the branch that is not selected. -/
theorem numbers_serveAll_start_readings :
    total ofReadings ≤ largestFieldNumber ∧
    ∃ answers, serveAll .start ofReadings = (answers, ⟨5⟩) ∧
      answers.flatMap Answer.numbers = [1, 2, 3, 4] ∧
      List.Forall₂ Met ofReadings answers ∧
      (serveAll .start (ofReadings.take 2)).2.next = 2 := by
  have enough : total ofReadings ≤ largestFieldNumber := by decide +kernel
  have four : total ofReadings = 4 := by decide +kernel
  have two : total (ofReadings.take 2) = 1 := by decide +kernel
  obtain ⟨answers, run, numbers, met, within⟩ := numbers_serveAll_start enough
  rw [four] at run numbers
  obtain ⟨third, -⟩ := within (ofReadings.take 2) _ _ rfl
  exact ⟨enough, answers, run, numbers, met, third.trans (by rw [two])⟩

end Request

end TreeWire
