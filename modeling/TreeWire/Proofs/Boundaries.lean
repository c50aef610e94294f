import TreeWire.Proofs.DataFile

/-!
# Record boundaries

Records that follow each other directly do not say where they end, and a reader of the fields
sees one sequence of occurrences. It can be cut up again as soon as one field of the message is not
repeated: that field occurs exactly once in every record, and the fields before it and behind it
have other numbers. A list that has one *mark* in each of its parts, with one sort of things before
the mark and another one behind it, can be cut in one way only.

* `TreeWire.IsSegment` – a list with one mark;
* `TreeWire.eq_of_flatten_eq` – **segments are found again** in what they are joined to;
* `TreeWire.Tree.contents?_eq_of_convert_eq` – **the main statement**: a file without lengths
  determines what was written to it.
-/

namespace TreeWire

open Wire

/-! ### Cutting lists at marks -/

section Segments

variable {α : Type} {sort : α → Ordering}

/-- **A segment**: one mark, with things of one sort before it and of another sort behind it. -/
def IsSegment (sort : α → Ordering) (s : List α) : Prop :=
  ∃ before mark after, s = before ++ mark :: after ∧ (∀ a ∈ before, sort a = .lt) ∧
    sort mark = .eq ∧ ∀ a ∈ after, sort a = .gt

/-- The things of a sort at the front of a list are determined, if what follows begins with
another sort. -/
theorem append_inj_of_sort {o : Ordering} {front front' rest rest' : List α}
    (h : front ++ rest = front' ++ rest') (hf : ∀ a ∈ front, sort a = o)
    (hf' : ∀ a ∈ front', sort a = o) (hr : ∀ a ∈ rest.head?, sort a ≠ o)
    (hr' : ∀ a ∈ rest'.head?, sort a ≠ o) : front = front' ∧ rest = rest' := by
  induction front generalizing front' with
  | nil =>
    cases front' with
    | nil => exact ⟨rfl, h⟩
    | cons b front' =>
      rw [List.nil_append, List.cons_append] at h
      exact absurd (hf' b (by simp)) (hr b (by simp [h]))
  | cons a front ih =>
    cases front' with
    | nil =>
      rw [List.nil_append, List.cons_append] at h
      exact absurd (hf a (by simp)) (hr' a (by simp [← h]))
    | cons b front' =>
      obtain ⟨rfl, later⟩ := List.cons.inj h
      obtain ⟨rfl, same⟩ :=
        ih later (fun c hc => hf c (by simp [hc])) fun c hc => hf' c (by simp [hc])
      exact ⟨rfl, same⟩

/-- A segment does not begin with what stands behind a mark. -/
theorem IsSegment.head?_ne_gt {s : List α} (h : IsSegment sort s) (rest : List α) :
    ∀ a ∈ (s ++ rest).head?, sort a ≠ .gt := by
  obtain ⟨before, mark, after, rfl, hb, hm, -⟩ := h
  intro a ha
  cases before with
  | nil =>
    obtain rfl : mark = a := by simpa using ha
    rw [hm]
    decide
  | cons b before =>
    obtain rfl : b = a := by simpa using ha
    rw [hb b (by simp)]
    decide

theorem IsSegment.ne_nil {s : List α} (h : IsSegment sort s) : s ≠ [] := by
  obtain ⟨before, mark, after, rfl, -⟩ := h
  simp

theorem head?_flatten_ne_gt {segments : List (List α)} (h : ∀ s ∈ segments, IsSegment sort s) :
    ∀ a ∈ segments.flatten.head?, sort a ≠ .gt := by
  cases segments with
  | nil => simp
  | cons s segments =>
    rw [List.flatten_cons]
    exact (h s (by simp)).head?_ne_gt segments.flatten

/-- **Segments are found again** in what they are joined to. -/
theorem eq_of_flatten_eq {xs ys : List (List α)} (hx : ∀ s ∈ xs, IsSegment sort s)
    (hy : ∀ s ∈ ys, IsSegment sort s) (h : xs.flatten = ys.flatten) : xs = ys := by
  induction xs generalizing ys with
  | nil =>
    cases ys with
    | nil => rfl
    | cons s ys =>
      have empty : s = [] := by
        rw [List.flatten_nil, List.flatten_cons] at h
        exact (List.append_eq_nil_iff.mp h.symm).1
      exact absurd empty (hy s (by simp)).ne_nil
  | cons s xs ih =>
    cases ys with
    | nil =>
      have empty : s = [] := by
        rw [List.flatten_nil, List.flatten_cons] at h
        exact (List.append_eq_nil_iff.mp h).1
      exact absurd empty (hx s (by simp)).ne_nil
    | cons s' ys =>
      have hx' : ∀ s ∈ xs, IsSegment sort s := fun u hu => hx u (by simp [hu])
      have hy' : ∀ s ∈ ys, IsSegment sort s := fun u hu => hy u (by simp [hu])
      obtain ⟨before, mark, after, rfl, hb, hm, ha⟩ := hx s (by simp)
      obtain ⟨before', mark', after', rfl, hb', hm', ha'⟩ := hy s' (by simp)
      rw [List.flatten_cons, List.flatten_cons, List.append_assoc, List.append_assoc] at h
      -- the mark is the first thing that is not of the sort that stands before it
      obtain ⟨rfl, marked⟩ := append_inj_of_sort h hb hb' (by simp [hm]) (by simp [hm'])
      obtain ⟨rfl, behind⟩ := List.cons.inj marked
      obtain ⟨rfl, later⟩ := append_inj_of_sort behind ha ha' (head?_flatten_ne_gt hx')
        (head?_flatten_ne_gt hy')
      rw [ih hx' hy' later]

end Segments

/-! ### Records as segments -/

/-- Where an occurrence stands with respect to the one of a slot, given the slots before that. -/
def sortAround (before : List Slot) (s : Slot) (o : Occurrence) : Ordering :=
  if o.number = s.number.toNat then .eq
  else if o.number ∈ before.map (·.number.toNat) then .lt
  else .gt

/-- **A record is a segment**, of which a slot with a single value is the mark. -/
theorem isSegment_occurrences {bindings : List Binding} {before after : List Slot} {s : Slot}
    {b : Binding} {v : Scalar} (distinct : ((before ++ s :: after).map (·.number)).Nodup)
    (hb : bindings[s.position]? = some b) (single : b.buffer = .scalar v) :
    IsSegment (sortAround before s) (Record.occurrences bindings (before ++ s :: after)) := by
  have numbers : ((before ++ s :: after).map (·.number.toNat)).Nodup := by
    have apart : (((before ++ s :: after).map (·.number)).map UInt32.toNat).Nodup :=
      List.Pairwise.map UInt32.toNat (fun _ _ ne same => ne (UInt32.toNat_inj.mp same)) distinct
    rwa [List.map_map] at apart
  rw [List.map_append, List.map_cons, List.nodup_append] at numbers
  obtain ⟨-, behind, apart⟩ := numbers
  refine ⟨Record.occurrences bindings before, ⟨s.number.toNat, [v]⟩,
    Record.occurrences bindings after, ?_, fun o ho => ?_, ?_, fun o ho => ?_⟩
  · simp [Record.occurrences, hb, single, Slot.occurrences]
  · obtain ⟨t, ht, hn⟩ := Record.exists_number_of_mem_occurrences ho
    have mem : t.number.toNat ∈ before.map (·.number.toNat) := List.mem_map_of_mem ht
    have ne : t.number.toNat ≠ s.number.toNat := apart _ mem _ (by simp)
    rw [sortAround, hn, if_neg ne, if_pos mem]
  · rw [sortAround, if_pos rfl]
  · obtain ⟨t, ht, hn⟩ := Record.exists_number_of_mem_occurrences ho
    have mem : t.number.toNat ∈ after.map (·.number.toNat) := List.mem_map_of_mem ht
    have ne : t.number.toNat ≠ s.number.toNat := fun same =>
      (List.nodup_cons.mp behind).1 (same ▸ mem)
    have notBefore : t.number.toNat ∉ before.map (·.number.toNat) := fun early =>
      apart _ early _ (List.mem_cons_of_mem _ mem) rfl
    rw [sortAround, hn, if_neg ne, if_neg notBefore]

/-- **Records that follow each other are read as their occurrences.** -/
theorem scanAll?_flatten {l : Legend} {ss : List Slot} {rows : List (List Binding)}
    {records : List Bytes} (known : ∀ s ∈ ss, l.Knows s)
    (h : List.Forall₂ (fun row bs => Record.encodeSlots row ss = (bs, none)) rows records) :
    scanAll? l.scanOccurrence? records.flatten =
      some (rows.map fun row => Record.occurrences row ss).flatten := by
  induction h with
  | nil => simp
  | cons first _ ih =>
    rw [List.flatten_cons, Record.scanAll?_encodeSlots_append known first, ih]
    rfl

/-- The rows of bindings that the records of some entries are written from. -/
theorem Tree.exists_rows {t : Tree} {layout : Record} {bindings : List Binding}
    {entries : List Nat} {records : List Bytes}
    (h : entries.map (t.recordAlone layout bindings) = records.map .ok) :
    ∃ rows,
      List.Forall₂ (fun entry row => bindings.mapM (t.refresh entry) = .ok row) entries rows ∧
      List.Forall₂ (fun row bs => Record.encodeSlots row layout.slots = (bs, none)) rows
        records := by
  induction entries generalizing records with
  | nil =>
    obtain rfl : records = [] := by simpa using h.symm
    exact ⟨[], List.Forall₂.nil, List.Forall₂.nil⟩
  | cons entry entries ih =>
    cases records with
    | nil => cases h
    | cons bs records =>
      obtain ⟨first, later⟩ := List.cons.inj h
      obtain ⟨row, hr, written⟩ := recordAlone_eq_ok_iff.mp first
      obtain ⟨rows, hrows, hwritten⟩ := ih later
      exact ⟨row :: rows, List.Forall₂.cons hr hrows, List.Forall₂.cons written hwritten⟩

/-! ### Files without lengths -/

/-- Buffers for the same columns that hold the same values are the same. -/
theorem Buffer.ext_values {b c : Buffer} (kind : b.kind = c.kind)
    (repeated : b.repeated = c.repeated) (values : b.values = c.values) : b = c := by
  cases b with
  | scalar v =>
    cases c with
    | scalar w => rw [List.singleton_inj.mp values]
    | array s => cases repeated
  | array s =>
    cases c with
    | scalar w => cases repeated
    | array r => rw [Series.ext_toList kind values]

theorem Buffer.exists_eq_scalar {b : Buffer} (h : b.repeated = false) : ∃ v, b = .scalar v := by
  cases b with
  | scalar v => exact ⟨v, rfl⟩
  | array s => cases h

namespace Tree

/-- What a field holds is a buffer for the column of the field. -/
theorem kind_of_contents? {t : Tree} {f : FieldSpec} {entry : Nat} {b : Buffer}
    (h : t.contents? f entry = some b) :
    (Codec.ofDeclared? f.declared).map (·.kind) = some b.kind ∧ b.repeated = f.repeated := by
  simp only [contents?, Option.bind_eq_bind, Option.bind_eq_some_iff] at h
  obtain ⟨codec, hc, column, -, j, -, hr⟩ := h
  cases read : Buffer.read codec.kind f.repeated j with
  | error detail => simp [read, Except.toOption] at hr
  | ok c =>
    obtain rfl : c = b := by simpa [read, Except.toOption] using hr
    obtain ⟨kind, repeated⟩ := Buffer.kind_of_read read
    exact ⟨by rw [hc, kind]; rfl, repeated⟩

/-- **What a finished conversion without lengths has written**: the header, and a record for every
row, one after the other. -/
theorem convert_concatenated_eq_ok {t : Tree} {set : DescriptorSet} {message : Option String}
    {limit : Int} {target : Target} {fields : List FieldSpec} {bytes : Bytes} {w : Written}
    (found : set.target message = .ok target) (read : target.message.specs = .ok fields)
    (h : t.convert set message limit .concatenated = (bytes, .ok w)) :
    ∃ codecs rows records, fields.mapM Codec.ofField = .ok codecs ∧
      bytes = headerRecord w.entries ++ records.flatten ∧ rows.length = w.entries ∧
      (∀ entry row, rows[entry]? = some row →
        List.Forall₂ (fun f b => t.contents? f entry = some b.buffer) fields row) ∧
      List.Forall₂ (fun row bs => Record.encodeSlots row (slotsOf fields codecs) = (bs, none))
        rows records := by
  obtain ⟨target', layout, bindings, prepared, count, records, outcomes, rfl⟩ := convert_eq_ok h
  obtain ⟨found', fields', read', laid⟩ := prepare_eq_ok_iff.mp prepared
  obtain rfl : target' = target := Except.ok.inj (found'.symm.trans found)
  obtain rfl : fields' = fields := Except.ok.inj (read'.symm.trans read)
  obtain ⟨bound, hb, rfl, rfl⟩ := layout_eq_ok_iff.mp laid
  obtain ⟨rows, loaded, written⟩ := exists_rows outcomes
  refine ⟨bound.map Prod.fst, rows, records, mapM_ofField hb, ?_, ?_, fun entry row hr => ?_,
    written⟩
  · rw [count, List.flatten_eq_flatMap]
    rfl
  · rw [count, ← loaded.length_eq, List.length_range']
  · obtain ⟨e, he, hrow⟩ := exists_getElem?_of_forall₂ loaded.flip hr
    obtain ⟨_, get⟩ := List.getElem?_eq_some_iff.mp he
    obtain rfl : entry = e := by simpa [List.getElem_range'] using get
    exact forall₂_contents? hb hrow

section Rows

variable {t₁ t₂ : Tree} {fields : List FieldSpec} {codecs : List Codec} {entry : Nat}
  {row₁ row₂ : List Binding}

/-- The reader of some fields knows their slots. -/
theorem knows_slotsOf (length : fields.length = codecs.length)
    (distinct : (fields.map (·.number)).Nodup)
    (inRange : ∀ f ∈ fields, 1 ≤ f.number.toNat ∧ f.number.toNat ≤ largestFieldNumber) :
    ∀ s ∈ slotsOf fields codecs, (Record.legend ⟨slotsOf fields codecs⟩).Knows s := by
  have numbers := map_number_slotsOf length
  refine Record.knows_legend (r := ⟨slotsOf fields codecs⟩) (numbers ▸ distinct) fun s hs => ?_
  obtain ⟨f, hf, hn⟩ := List.mem_map.mp (numbers ▸ List.mem_map_of_mem hs)
  exact hn ▸ inRange f hf

/-- **All rows are segments** with respect to a field that is not repeated: whatever the tree and
the entries, the occurrence of that field is the mark. -/
theorem exists_isSegment (length : fields.length = codecs.length)
    (distinct : (fields.map (·.number)).Nodup) (single : ∃ f ∈ fields, f.repeated = false) :
    ∃ sort, ∀ {t : Tree} {rows : List (List Binding)},
      (∀ entry row, rows[entry]? = some row →
        List.Forall₂ (fun f b => t.contents? f entry = some b.buffer) fields row) →
      ∀ os ∈ rows.map (Record.occurrences · (slotsOf fields codecs)), IsSegment sort os := by
  obtain ⟨f, mem, hr⟩ := single
  obtain ⟨k, hf⟩ := List.getElem?_of_mem mem
  obtain ⟨bound, -⟩ := List.getElem?_eq_some_iff.mp hf
  have slot := getElem?_slotsOf hf (List.getElem?_eq_getElem (length ▸ bound))
  obtain ⟨before, after, cut⟩ := List.append_of_mem (List.mem_of_getElem? slot)
  rw [← map_number_slotsOf length, cut] at distinct
  refine ⟨sortAround before (.ofField f codecs[k] k), fun held os ho => ?_⟩
  obtain ⟨row, hrow, rfl⟩ := List.mem_map.mp ho
  obtain ⟨entry, get⟩ := List.getElem?_of_mem hrow
  obtain ⟨b, hb, holds⟩ := exists_getElem?_of_forall₂ (held entry row get) hf
  obtain ⟨v, scalar⟩ := Buffer.exists_eq_scalar ((kind_of_contents? holds).2.trans hr)
  rw [cut]
  exact isSegment_occurrences distinct hb scalar

/-- Rows that are written as the same occurrences hold the same. -/
theorem contents?_eq_of_occurrences_eq (length : fields.length = codecs.length)
    (distinct : (fields.map (·.number)).Nodup)
    (held₁ : List.Forall₂ (fun f b => t₁.contents? f entry = some b.buffer) fields row₁)
    (held₂ : List.Forall₂ (fun f b => t₂.contents? f entry = some b.buffer) fields row₂)
    (same : Record.occurrences row₁ (slotsOf fields codecs) =
      Record.occurrences row₂ (slotsOf fields codecs)) :
    ∀ f ∈ fields, ∃ b, t₁.contents? f entry = some b ∧ t₂.contents? f entry = some b := by
  intro f mem
  obtain ⟨k, hf⟩ := List.getElem?_of_mem mem
  obtain ⟨b, hb, holds₁⟩ := exists_getElem?_of_forall₂ held₁ hf
  obtain ⟨c, hc, holds₂⟩ := exists_getElem?_of_forall₂ held₂ hf
  obtain ⟨bound, -⟩ := List.getElem?_eq_some_iff.mp hf
  have slot := getElem?_slotsOf hf (List.getElem?_eq_getElem (length ▸ bound))
  rw [← map_number_slotsOf length] at distinct
  have kinds : some b.buffer.kind = some c.buffer.kind :=
    (kind_of_contents? holds₁).1.symm.trans (kind_of_contents? holds₂).1
  have repeated : b.buffer.repeated = c.buffer.repeated :=
    (kind_of_contents? holds₁).2.trans (kind_of_contents? holds₂).2.symm
  have values : b.buffer.values = c.buffer.values := by
    rw [← Record.valuesOf_occurrences distinct (List.mem_of_getElem? slot) hb, same,
      Record.valuesOf_occurrences distinct (List.mem_of_getElem? slot) hc]
  rw [Buffer.ext_values (Option.some.inj kinds) repeated values] at holds₁
  exact ⟨c.buffer, holds₁, holds₂⟩

end Rows

/-- **A file without lengths determines its data**, as soon as one field of the message is not
repeated. Whatever two trees are converted, up to whatever limits: if the files are the same, then
they hold the same number of records, and every field holds the same in each of them. -/
theorem contents?_eq_of_convert_eq {set : DescriptorSet} {message₁ message₂ : Option String}
    {target : Target} {fields : List FieldSpec} {t₁ t₂ : Tree} {limit₁ limit₂ : Int}
    {bytes : Bytes} {w₁ w₂ : Written} (found₁ : set.target message₁ = .ok target)
    (found₂ : set.target message₂ = .ok target) (read : target.message.specs = .ok fields)
    (distinct : (fields.map (·.number)).Nodup)
    (inRange : ∀ f ∈ fields, 1 ≤ f.number.toNat ∧ f.number.toNat ≤ largestFieldNumber)
    (single : ∃ f ∈ fields, f.repeated = false)
    (h₁ : t₁.convert set message₁ limit₁ .concatenated = (bytes, .ok w₁))
    (h₂ : t₂.convert set message₂ limit₂ .concatenated = (bytes, .ok w₂)) :
    w₁.entries = w₂.entries ∧ ∀ entry < w₁.entries, ∀ f ∈ fields,
      ∃ b, t₁.contents? f entry = some b ∧ t₂.contents? f entry = some b := by
  obtain ⟨codecs, rows₁, records₁, hc, bytes₁, length₁, held₁, written₁⟩ :=
    convert_concatenated_eq_ok found₁ read h₁
  obtain ⟨codecs', rows₂, records₂, hc', bytes₂, length₂, held₂, written₂⟩ :=
    convert_concatenated_eq_ok found₂ read h₂
  obtain rfl : codecs' = codecs := Except.ok.inj (hc'.symm.trans hc)
  have length : fields.length = codecs'.length := (mapM_eq_ok_iff.mp hc).length_eq
  -- the headers are the same
  rw [bytes₁, headerRecord, headerRecord, List.append_assoc, List.append_assoc] at bytes₂
  obtain ⟨count, joined⟩ := varint_append_inj (List.append_cancel_left bytes₂)
  refine ⟨count, ?_⟩
  -- a reader finds the same occurrences behind them, which can be cut in one way only
  have known := knows_slotsOf length distinct inRange
  have tokens := scanAll?_flatten known written₂
  rw [← joined, scanAll?_flatten known written₁] at tokens
  obtain ⟨sort, segments⟩ := exists_isSegment length distinct single
  have same := eq_of_flatten_eq (segments held₁) (segments held₂) (Option.some.inj tokens)
  intro entry lt
  have get₁ := List.getElem?_eq_getElem (show entry < rows₁.length by omega)
  have get₂ := List.getElem?_eq_getElem (show entry < rows₂.length by omega)
  refine contents?_eq_of_occurrences_eq length distinct (held₁ entry _ get₁) (held₂ entry _ get₂) ?_
  have := congrArg (·[entry]?) same
  simpa [get₁, get₂] using this

/-- A tree whose first two entries are those of `Tree.events`. Its branches stand in another order,
and one of them has another type. -/
def moreEvents : Tree where
  name := "more"
  branches :=
    [⟨"ys", "vector<int>", "", #[.array [.ofInt32 (-1)], .array [], .array []]⟩,
      ⟨"x", "", "Short_t", #[.ofInt32 (-1), .ofInt32 300, .null]⟩]
  entries := 3
  size_values := by simp
  entries_eq_zero := nofun

theorem contents?_events_eq_moreEvents :
    events.convert .event none (-1) .concatenated =
      moreEvents.convert .event (some "p.Event") 2 .concatenated ∧
    ∃ fields, Descriptor.Message.event.specs = .ok fields ∧
      (fields.map (·.number)).Nodup ∧
      (∀ f ∈ fields, 1 ≤ f.number.toNat ∧ f.number.toNat ≤ largestFieldNumber) ∧
      (∃ f ∈ fields, f.repeated = false) ∧
      ∀ entry < 2, ∀ f ∈ fields,
        ∃ b, events.contents? f entry = some b ∧ moreEvents.contents? f entry = some b := by
  have found : DescriptorSet.event.target none = .ok ⟨"p", .event⟩ := by decide +kernel
  have named : DescriptorSet.event.target (some "p.Event") = .ok ⟨"p", .event⟩ := by
    decide +kernel
  have read : Descriptor.Message.event.specs =
      .ok [⟨"x", 1, .sint32, false, false, "x"⟩, ⟨"ys", 2, .int32, true, true, "ys"⟩] := by
    decide +kernel
  have all : events.convert .event none (-1) .concatenated =
      ([8, 2, 8, 1, 18, 10, 255, 255, 255, 255, 255, 255, 255, 255, 255, 1, 8, 216, 4],
        .ok ⟨"p.Event", 2, 19⟩) := by
    decide +kernel
  have front : moreEvents.convert .event (some "p.Event") 2 .concatenated =
      ([8, 2, 8, 1, 18, 10, 255, 255, 255, 255, 255, 255, 255, 255, 255, 1, 8, 216, 4],
        .ok ⟨"p.Event", 2, 19⟩) := by
    decide +kernel
  have distinct : [(1 : UInt32), 2].Nodup := by decide
  refine ⟨all.trans front.symm, _, read, distinct, by decide, by decide, ?_⟩
  exact (contents?_eq_of_convert_eq found named read distinct (by decide) (by decide) all front).2

end Tree

end TreeWire
