import TreeWire.Proofs.Numbering

/-!
# Which field numbers are legal

The schema compiler takes numbers from one up to the largest field number, except for a thousand in
between that are reserved. The numbers of a run stop at the largest one, and nothing leaves out the
reserved ones. So a run of fewer than 19000 numbers hands out legal ones only, and a longer run does
not: the number at this place is the first reserved one.

A run can ask for more numbers than there are. The extraction that runs out of them has taken all
that were left and hands out none, so what is handed out is still without a gap, but the numbers
that are left need no longer begin behind it. What holds of every stretch of a run is stated so that
two stretches make one, and then of one request and of all.

* `TreeWire.IsFieldNumber` – **the numbers that a field may have**;
* `TreeWire.fieldsOf_of_exhausted` – an extraction that runs out of numbers;
* `TreeWire.Request.Stretch`, `TreeWire.Request.Stretch.append` – the numbers of a part of a run;
* `TreeWire.Request.stretch_serve`, `TreeWire.Request.stretch_serveAll` – one request, and a run;
* `TreeWire.Request.isFieldNumber_handedOut_iff` – **the main statement**: which runs hand out legal
  numbers only.
-/

namespace TreeWire

/-! ### Legal numbers -/

/-- **The numbers that a field may have**: those from one up to the largest one that are not
reserved. -/
structure IsFieldNumber (n : Nat) : Prop where
  /-- Zero is no field number. -/
  pos : 1 ≤ n
  /-- It is not too large. -/
  le : n ≤ largestFieldNumber
  /-- It is not reserved. -/
  free : ¬ (19000 ≤ n ∧ n ≤ 19999)

/-- A number in the range of field numbers is one of them unless it is reserved. -/
theorem isFieldNumber_iff {n : Nat} (pos : 1 ≤ n) (le : n ≤ largestFieldNumber) :
    IsFieldNumber n ↔ n < 19000 ∨ 20000 ≤ n :=
  ⟨fun h => by have := h.free; omega, fun h => ⟨pos, le, by omega⟩⟩

/-! ### Running out of numbers -/

/-- **An extraction that runs out of numbers** fails and leaves none. -/
theorem fieldsOf_of_exhausted {selection : Selection} {bs : List Branch} (taken : List String)
    (ids : Numbering) (left : ids.next ≤ largestFieldNumber + 1)
    (many : largestFieldNumber + 1 < ids.next + (selected selection bs).length) :
    fieldsOf selection taken bs ids =
      (.error (.config "field id space exhausted"), ⟨largestFieldNumber + 1⟩) := by
  induction bs generalizing taken ids with
  | nil =>
    change _ < ids.next + 0 at many
    omega
  | cons b bs ih =>
    cases ha : selection.accepts b.name with
    | false =>
      have passed : selected selection (b :: bs) = selected selection bs :=
        List.filter_cons_of_neg (by simp [ha])
      rw [fieldsOf_cons_of_not ha]
      exact ih taken ids left (passed ▸ many)
    | true =>
      have kept : selected selection (b :: bs) = b :: selected selection bs :=
        List.filter_cons_of_pos (by simp [ha])
      rw [kept, List.length_cons] at many
      rw [fieldsOf, if_pos ha, Numbering.take]
      by_cases one : ids.next ≤ largestFieldNumber
      · -- this branch still gets a number, and a later one does not
        have later := ih ((b.field taken ids.next).name :: taken) ⟨ids.next + 1⟩
          (by change ids.next + 1 ≤ _; omega) (by change _ < ids.next + 1 + _; omega)
        simp only [if_pos one, later]
        rfl
      · have none : ids = ⟨largestFieldNumber + 1⟩ := by
          obtain ⟨next⟩ := ids
          exact congrArg Numbering.mk (by change next ≤ _ at left; change ¬ next ≤ _ at one; omega)
        rw [if_neg one, none]

namespace Request

/-! ### Stretches of a run -/

/-- **A stretch of a run** hands out numbers without a gap, from the next one on. Those that are
left begin behind them, or there are none left. -/
structure Stretch (ids : Numbering) (given : List Nat) (left : Numbering) : Prop where
  /-- The numbers that are handed out have no gap. -/
  given_eq : given = List.range' ids.next given.length
  /-- What is left begins behind them. -/
  le_next : ids.next + given.length ≤ left.next
  /-- It ends with the largest number. -/
  next_le : left.next ≤ largestFieldNumber + 1
  /-- Nothing is left out unless there is nothing left. -/
  next_eq : left.next = ids.next + given.length ∨ left.next = largestFieldNumber + 1

theorem Stretch.nil {ids : Numbering} (h : ids.next ≤ largestFieldNumber + 1) :
    Stretch ids [] ids :=
  ⟨rfl, Nat.le_refl _, h, Or.inl rfl⟩

/-- **Two stretches make one.** -/
theorem Stretch.append {ids mid left : Numbering} {given later : List Nat}
    (h : Stretch ids given mid) (h' : Stretch mid later left) :
    Stretch ids (given ++ later) left := by
  have low := h.le_next
  have low' := h'.le_next
  have high := h'.next_le
  rcases h.next_eq with next | next
  · refine ⟨?_, ?_, high, ?_⟩
    · rw [List.length_append, ← List.range'_append_1, ← next, ← h.given_eq, ← h'.given_eq]
    · rw [List.length_append]
      omega
    · have whole := h'.next_eq
      rw [List.length_append]
      omega
  · -- nothing was left, so the second stretch hands out nothing
    obtain rfl : later = [] := List.length_eq_zero_iff.mp (by omega)
    rw [List.append_nil]
    exact ⟨h.given_eq, by omega, high, Or.inr (by omega)⟩

/-- **One request is a stretch**, whether or not there are enough numbers left for it. -/
theorem stretch_serve (r : Request) (ids : Numbering) (h : ids.next ≤ largestFieldNumber + 1) :
    Stretch ids (Answer.numbers (r.serve ids).1) (r.serve ids).2 := by
  by_cases enough : ids.next + r.demand ≤ largestFieldNumber + 1
  · obtain ⟨answer, served, numbers, -, -⟩ := exists_serve r ids enough
    rw [served, numbers]
    refine ⟨?_, ?_, enough, Or.inl ?_⟩ <;> simp
  · cases r with
    | number =>
      have one : ¬ ids.next ≤ largestFieldNumber := fun le => enough (Nat.succ_le_succ le)
      simp only [serve, Numbering.take, if_neg one]
      exact Stretch.nil h
    | extract source tree selection =>
      cases found : source.tree tree with
      | error fault =>
        simp only [demand, found] at enough
        exact absurd h enough
      | ok t =>
        simp only [demand, found] at enough
        have failed := fieldsOf_of_exhausted [] ids h (Nat.lt_of_not_le enough)
        simp only [serve, Source.extract, found, Tree.extract, failed]
        exact ⟨rfl, h, Nat.le_refl _, Or.inr rfl⟩

/-- **A run is a stretch.** -/
theorem stretch_serveAll (rs : List Request) (ids : Numbering)
    (h : ids.next ≤ largestFieldNumber + 1) :
    Stretch ids ((serveAll ids rs).1.flatMap Answer.numbers) (serveAll ids rs).2 := by
  induction rs generalizing ids with
  | nil => exact Stretch.nil h
  | cons r rs ih =>
    have first := stretch_serve r ids h
    exact first.append (ih _ first.next_le)

/-- Requests after others are served from what those leave. -/
theorem serveAll_append (rs qs : List Request) (ids : Numbering) :
    serveAll ids (rs ++ qs) =
      ((serveAll ids rs).1 ++ (serveAll (serveAll ids rs).2 qs).1,
        (serveAll (serveAll ids rs).2 qs).2) := by
  induction rs generalizing ids with
  | nil => rfl
  | cons r rs ih => simp only [List.cons_append, serveAll, ih]

theorem total_replicate_number (n : Nat) : total (List.replicate n .number) = n := by
  induction n with
  | zero => rfl
  | succ n ih => rw [List.replicate_succ, total, ih, Nat.add_comm]; rfl

/-! ### Runs of legal numbers -/

/-- **The numbers that a run hands out**, in order. -/
def handedOut (requests : List Request) : List Nat :=
  (serveAll .start requests).1.flatMap Answer.numbers

/-- **A run hands out the first numbers**, as many as it asks for if there are enough. -/
theorem handedOut_eq (requests : List Request) :
    handedOut requests = List.range' 1 (handedOut requests).length ∧
      (handedOut requests).length ≤ largestFieldNumber ∧
      (total requests ≤ largestFieldNumber → (handedOut requests).length = total requests) := by
  have first : Numbering.start.next = 1 := rfl
  have run := stretch_serveAll requests .start (by rw [first]; omega)
  have low := run.le_next
  have high := run.next_le
  refine ⟨run.given_eq, ?_, fun enough => ?_⟩
  · rw [first] at low
    change 1 + (handedOut requests).length ≤ _ at low
    omega
  · obtain ⟨answers, served, numbers, -⟩ :=
      exists_serveAll requests .start (by rw [first]; omega)
    rw [handedOut, served, numbers, List.length_range']

theorem getElem?_handedOut {requests : List Request} {i id : Nat}
    (h : (handedOut requests)[i]? = some id) : id = i + 1 ∧ id ≤ largestFieldNumber := by
  obtain ⟨numbers, few, -⟩ := handedOut_eq requests
  obtain ⟨inside, -⟩ := List.getElem?_eq_some_iff.mp h
  rw [numbers, List.getElem?_range' inside] at h
  have := Option.some.inj h
  omega

/-- The number of a field of an answer is handed out. -/
theorem id_mem_handedOut {requests : List Request} {fields : List Field} {f : Field}
    (answered : .ok (.fields fields) ∈ (serveAll .start requests).1) (mem : f ∈ fields) :
    f.id ∈ handedOut requests :=
  List.mem_flatMap.mpr ⟨_, answered, List.mem_map_of_mem mem⟩

/-- **Which runs hand out legal numbers only.** Whatever a run asks for, the number at the place `i`
of those that it hands out is `i + 1`, so it is a legal one unless this is one of the reserved
numbers; the numbers of extracted fields are among them. Hence all numbers of a run are legal
exactly if it hands out fewer than 19000 of them – as many as it takes, if there are so many. -/
theorem isFieldNumber_handedOut_iff (requests : List Request) :
    (∀ i id, (handedOut requests)[i]? = some id → id = i + 1 ∧ id ≤ largestFieldNumber ∧
      (IsFieldNumber id ↔ i + 1 < 19000 ∨ 20000 ≤ i + 1)) ∧
    (∀ fields, .ok (.fields fields) ∈ (serveAll .start requests).1 → ∀ f ∈ fields,
      f.id ∈ handedOut requests) ∧
    ((∀ id ∈ handedOut requests, IsFieldNumber id) ↔ (handedOut requests).length < 19000) ∧
    (total requests ≤ largestFieldNumber → (handedOut requests).length = total requests) := by
  obtain ⟨numbers, few, asked⟩ := handedOut_eq requests
  have places : ∀ i id, (handedOut requests)[i]? = some id → id = i + 1 ∧
      id ≤ largestFieldNumber ∧ (IsFieldNumber id ↔ i + 1 < 19000 ∨ 20000 ≤ i + 1) := by
    intro i id there
    obtain ⟨rfl, le⟩ := getElem?_handedOut there
    exact ⟨rfl, le, isFieldNumber_iff (Nat.succ_pos i) le⟩
  refine ⟨places, fun fields answered f => id_mem_handedOut answered, ⟨fun legal => ?_, ?_⟩, asked⟩
  · -- a longer run has the first reserved number at its place
    by_contra long
    have inside : 18999 < (handedOut requests).length := by omega
    have there := List.getElem?_eq_getElem inside
    obtain ⟨-, -, free⟩ := places 18999 _ there
    have := free.mp (legal _ (List.getElem_mem inside))
    omega
  · intro short id mem
    obtain ⟨i, there⟩ := List.getElem?_of_mem mem
    obtain ⟨inside, -⟩ := List.getElem?_eq_some_iff.mp there
    exact (places i id there).2.2.mpr (Or.inl (by omega))

/-- One branch of `Tree.readings`. -/
def oneReading : Request := .extract ⟨"readings.json", [Tree.readings]⟩ "readings" (.parse "y*")

/-- Numbers by themselves up to the reserved ones, and then one branch. -/
def upToReserved : List Request := List.replicate 18999 .number ++ [oneReading]

/-- The field of that branch gets the first reserved number. -/
theorem handedOut_upToReserved :
    ∃ fields, (serveAll .start upToReserved).1.getLast? = some (.ok (.fields fields)) ∧
      fields.map (·.id) = [19000] ∧ ¬ IsFieldNumber 19000 := by
  have one : oneReading.demand = 1 := by decide +kernel
  have many : total (List.replicate 18999 .number) = 18999 := total_replicate_number 18999
  obtain ⟨answers, before, -⟩ :=
    exists_serveAll (List.replicate 18999 .number) .start (by rw [many]; decide)
  have next : (⟨Numbering.start.next + 18999⟩ : Numbering) = ⟨19000⟩ := rfl
  rw [many, next] at before
  obtain ⟨answer, served, numbers, met, -⟩ := exists_serve oneReading ⟨19000⟩ (by rw [one]; decide)
  rw [one] at numbers
  have answered : (serveAll .start upToReserved).1 = answers ++ [answer] := by
    rw [upToReserved, serveAll_append, before]
    simp only [serveAll, served]
  rw [answered, List.getLast?_concat]
  cases met with
  | extracted _ _ => exact ⟨_, rfl, numbers, fun legal => legal.free (by decide)⟩
  | missing _ => cases numbers

end Request

end TreeWire
