import Mathlib.Data.List.DropRight
import Mathlib.Data.List.ReduceOption
import TreeWire.Proofs.Row

/-!
# Series that lose nothing

A series answers whether it has taken a value, and the one who fills it from an array does not look
at the answer. Nothing is lost all the same. Whatever is done to a series, its kind stays, so that
the kind alone decides the answer, and what an item converts to has the kind that it was read as.
Filling a buffer from an array is a run of calls – the buffer is emptied, and each item that
converts is offered to it – and in the log of that run every value is taken.

* `TreeWire.Series.Call`, `TreeWire.Series.run` – **calls** and what they answer;
* `TreeWire.Series.taken`, `TreeWire.Series.sinceClear` – **what a log says**: the values that were
  taken, and what happened after the values were dropped for the last time;
* `TreeWire.Series.kind_run`, `TreeWire.Series.log_run`, `TreeWire.Series.toList_run` – a run of
  calls: the kind, the answers, and the values;
* `TreeWire.Series.fill_fst` – **filling is a run of calls**;
* `TreeWire.Buffer.fill_array_eq_none_iff` – the arrays that a buffer is filled from;
* `TreeWire.Buffer.fill_array_complete` – **the main statement**.
-/

namespace TreeWire

namespace Series

/-! ### Calls -/

/-- **A call** on a series. -/
inductive Call where
  /-- The values are dropped. -/
  | clear
  /-- A value is offered. -/
  | push (v : Scalar)
  deriving DecidableEq

/-- The series after a call, and the answer: whether a value that was offered is taken. -/
def call (s : Series) : Call → Series × Option Bool
  | .clear => (s.clear, none)
  | .push v => ((s.push v).1, some (s.push v).2)

/-- **A run of calls**: the series after them, and the log, in which every call stands with its
answer. -/
def run (s : Series) : List Call → Series × List (Call × Option Bool)
  | [] => (s, [])
  | c :: cs => (((s.call c).1.run cs).1, (c, (s.call c).2) :: ((s.call c).1.run cs).2)

/-- The part of a log after the last time that the values were dropped; all of it if they never
were. -/
def sinceClear (log : List (Call × Option Bool)) : List (Call × Option Bool) :=
  log.rtakeWhile fun entry => entry.1 ≠ .clear

/-- The values that were taken, in the order of a log. -/
def taken (log : List (Call × Option Bool)) : List Scalar :=
  log.filterMap fun
    | (.push v, some true) => some v
    | _ => none

variable (s : Series)

/-! ### One call -/

/-- What a series of a kind answers. -/
def Call.answer (k : Kind) : Call → Option Bool
  | .clear => none
  | .push v => some (decide (v.kind = k))

@[simp] theorem kind_call (c : Call) : (s.call c).1.kind = s.kind := by
  cases c with
  | clear => rfl
  | push v => exact kind_push s v

/-- **The kind alone decides the answer.** -/
theorem call_snd (c : Call) : (s.call c).2 = c.answer s.kind := by
  cases c with
  | clear => rfl
  | push v => exact congrArg some (push_snd s v)

/-! ### A run of calls -/

/-- **The kind stays.** -/
@[simp] theorem kind_run (calls : List Call) : (s.run calls).1.kind = s.kind := by
  induction calls generalizing s with
  | nil => rfl
  | cons c calls ih => exact (ih (s.call c).1).trans (s.kind_call c)

/-- **The log**: every call with the answer that the kind of the series gives to it. -/
theorem log_run (calls : List Call) :
    (s.run calls).2 = calls.map fun c => (c, c.answer s.kind) := by
  induction calls generalizing s with
  | nil => rfl
  | cons c calls ih => simp only [run, call_snd, ih, kind_call, List.map_cons]

/-- A last call finds the series that the calls before it leave. -/
theorem run_concat (calls : List Call) (c : Call) :
    (s.run (calls ++ [c])).1 = ((s.run calls).1.call c).1 := by
  induction calls generalizing s with
  | nil => rfl
  | cons d calls ih => exact ih (s.call d).1

/-- **The values** after a run are those that were taken since the values were dropped for the last
time. If they never were, then they stand behind those that the series held. -/
theorem toList_run (calls : List Call) :
    (s.run calls).1.toList =
      (if Call.clear ∈ calls then [] else s.toList) ++ taken (sinceClear (s.run calls).2) := by
  -- induction from the right: a call that drops the values makes the log before it irrelevant
  induction calls using List.reverseRecOn with
  | nil => simp [run, sinceClear, taken]
  | append_singleton calls c ih =>
    rw [log_run] at ih ⊢
    rw [run_concat, List.map_append, List.map_singleton, sinceClear, List.rtakeWhile_concat]
    cases c with
    | clear => simp [call, taken]
    | push v =>
      by_cases same : v.kind = s.kind
      · have here : v.kind = (s.run calls).1.kind := by rw [kind_run, same]
        simp [call, toList_push_of_kind here, ih, taken, sinceClear, Call.answer, same]
      · have other : v.kind ≠ (s.run calls).1.kind := by rwa [kind_run]
        simp [call, push_of_kind_ne other, ih, taken, sinceClear, Call.answer, same]

/-- Values of the kind are all taken. -/
theorem log_run_push {values : List Scalar} (kinds : ∀ v ∈ values, v.kind = s.kind) :
    (s.run (values.map .push)).2 = values.map fun v => (.push v, some true) := by
  rw [log_run, List.map_map]
  refine List.map_congr_left fun v mem => ?_
  simp [Call.answer, kinds v mem]

/-! ### Filling a series -/

/-- **What is offered** to a series of a kind when it is filled: what the items convert to, up to
the first one that does not convert. -/
def offers (k : Kind) (items : List Json) : List Scalar :=
  ((items.map (Scalar.ofJson? k)).takeWhile Option.isSome).reduceOption

/-- What is offered has the kind that it was read as. -/
theorem kind_of_mem_offers {k : Kind} {items : List Json} {v : Scalar} (h : v ∈ offers k items) :
    v.kind = k := by
  have converted := (List.takeWhile_prefix _).subset (List.reduceOption_mem_iff.mp h)
  obtain ⟨j, -, read⟩ := List.mem_map.mp converted
  exact Scalar.kind_of_ofJson? read

/-- **Filling is a run of calls**, whether all items convert or not. -/
theorem fill_fst (items : List Json) :
    (s.fill items).1 = (s.run ((offers s.kind items).map .push)).1 := by
  induction items generalizing s with
  | nil => rfl
  | cons j items ih =>
    cases read : Scalar.ofJson? s.kind j with
    | none => simp [fill, offers, read, run]
    | some v =>
      -- one round of the loop is one call, and it leaves a series of the same kind
      have rest := ih (s.push v).1
      rw [kind_push] at rest
      have first : offers s.kind (j :: items) = v :: offers s.kind items := by
        simp [offers, read]
      rw [fill, read, first]
      exact rest

end Series

/-! ### Filling a buffer -/

/-- What a JSON value converts to is what is read as a value of the kind. -/
theorem Scalar.ofJson?_eq_some_iff {k : Kind} {j : Json} {v : k.Carrier} :
    Scalar.ofJson? k j = some ⟨k, v⟩ ↔ k.read j = .ok v := by
  rw [Kind.read_eq_ok_iff, Scalar.ofJson?]
  simp

namespace Buffer

/-- **A buffer is filled** with a cell exactly if the cell stands for one, whatever it holds. -/
theorem fill_eq_none_iff {b c : Buffer} {j : Json} :
    b.fill j = (c, none) ↔ Buffer.read b.kind b.repeated j = .ok c := by
  cases read : Buffer.read b.kind b.repeated j with
  | ok d => simp [fill_of_ok read]
  | error detail =>
    obtain ⟨d, filled, -⟩ := fill_of_error read
    simp [filled]

/-- **The series that an array stands for** has one value an item: what the item converts to. -/
theorem read_array_eq_ok_iff {k : Kind} {items : List Json} {c : Buffer} :
    Buffer.read k true (.array items) = .ok c ↔
      ∃ t : Series, c = .array t ∧ t.kind = k ∧
        List.Forall₂ (fun j v => Scalar.ofJson? k j = some v) items t.toList := by
  have convert : ∀ values : List k.Carrier,
      List.Forall₂ (fun j v => Scalar.ofJson? k j = some v) items
          (Series.toList ⟨k, values.toArray⟩) ↔
        items.mapM k.read = .ok values := by
    intro values
    rw [Series.toList, List.forall₂_map_right_iff, mapM_eq_ok_iff]
    simp only [Scalar.ofJson?_eq_some_iff]
  simp only [Buffer.read, map_eq_ok_iff]
  constructor
  · rintro ⟨values, read, rfl⟩
    exact ⟨⟨k, values.toArray⟩, rfl, rfl, (convert values).mpr read⟩
  · rintro ⟨⟨l, values⟩, rfl, rfl, all⟩
    exact ⟨values.toList, (convert values.toList).mp all, rfl⟩

/-- **The arrays that a series is filled from** are those of which every item converts. -/
theorem fill_array_eq_none_iff {s : Series} {items : List Json} {c : Buffer} :
    (Buffer.array s).fill (.array items) = (c, none) ↔
      ∃ t : Series, c = .array t ∧ t.kind = s.kind ∧
        List.Forall₂ (fun j v => Scalar.ofJson? s.kind j = some v) items t.toList :=
  fill_eq_none_iff.trans read_array_eq_ok_iff

/-- **No item of an array is dropped silently.** Whatever a series holds, filling it from an array
succeeds exactly if it leaves a series of the same kind with one value an item, in order, each what
its item converts to. Filling is to drop the values and to offer what the items convert to, and
whether it succeeds or not, everything that is offered is taken: what an item converts to has the
kind that it was read as, and a series of that kind takes it. After any run of calls the kind of a
series is what it was, a value is taken exactly if it has that kind, any other one changes nothing,
and the series holds what was taken since the values were dropped for the last time. -/
theorem fill_array_complete (s : Series) :
    (∀ items c, (Buffer.array s).fill (.array items) = (c, none) ↔
      ∃ t : Series, c = .array t ∧ t.kind = s.kind ∧
        List.Forall₂ (fun j v => Scalar.ofJson? s.kind j = some v) items t.toList) ∧
    (∀ items, ∃ t flaw, (Buffer.array s).fill (.array items) = (.array t, flaw) ∧
      s.run (.clear :: (Series.offers s.kind items).map .push) =
        (t, (.clear, none) ::
          (Series.offers s.kind items).map fun v => (.push v, some true))) ∧
    (∀ j v, Scalar.ofJson? s.kind j = some v →
      v.kind = s.kind ∧ (s.push v).2 = true ∧ (s.push v).1.toList = s.toList ++ [v]) ∧
    ∀ calls : List Series.Call,
      (s.run calls).2.map Prod.fst = calls ∧
      (s.run calls).1.kind = s.kind ∧
      (∀ v, ((s.run calls).1.push v).2 = true ↔ v.kind = s.kind) ∧
      (∀ v : Scalar, v.kind ≠ s.kind → (s.run calls).1.push v = ((s.run calls).1, false)) ∧
      (s.run calls).1.toList =
        (if .clear ∈ calls then [] else s.toList) ++
          Series.taken (Series.sinceClear (s.run calls).2) := by
  refine ⟨fun items c => fill_array_eq_none_iff, fun items => ?_, fun j v read => ?_,
    fun calls => ?_⟩
  · have kinds : ∀ v ∈ Series.offers s.kind items, v.kind = s.clear.kind :=
      fun v mem => Series.kind_of_mem_offers mem
    refine ⟨(s.clear.fill items).1, (s.clear.fill items).2, rfl, ?_⟩
    rw [s.clear.fill_fst, s.kind_clear, Series.run, Series.call, s.clear.log_run_push kinds]
  · have kind := Scalar.kind_of_ofJson? read
    exact ⟨kind, by rw [Series.push_snd, kind, decide_eq_true rfl],
      Series.toList_push_of_kind kind⟩
  · have answer : ∀ v, ((s.run calls).1.push v).2 = true ↔ v.kind = s.kind := by
      intro v
      rw [Series.push_snd, s.kind_run, decide_eq_true_eq]
    refine ⟨?_, s.kind_run calls, answer, fun v other => ?_, s.toList_run calls⟩
    · rw [s.log_run, List.map_map]
      exact List.map_id calls
    · have same := Series.push_of_kind_ne (s := (s.run calls).1) (by rwa [s.kind_run])
      exact Prod.ext same (Bool.eq_false_iff.mpr fun taken => other ((answer v).mp taken))

/-- A series of byte strings that holds one. -/
def heldBytes : Series := ⟨.bytes, #[[1]]⟩

/-- Calls on it: a byte string, the end of all values, a text, and a byte string. -/
def heldCalls : List Series.Call :=
  [.push ⟨.bytes, [2]⟩, .clear, .push ⟨.string, "x"⟩, .push ⟨.bytes, [3]⟩]

/-- A text and an array without bytes are two values, and of the calls only the last one shows. -/
theorem fill_array_complete_heldBytes :
    (Buffer.array heldBytes).fill (.array [.string "ok", .array []]) =
      (.array ⟨.bytes, #[[111, 107], []]⟩, none) ∧
    Scalar.ofJson? .bytes (.array []) = some ⟨.bytes, []⟩ ∧
    (heldBytes.push ⟨.bytes, []⟩).2 = true ∧
    Kind.string ≠ Kind.bytes ∧
    (heldBytes.run heldCalls).1.push ⟨.string, "x"⟩ = ((heldBytes.run heldCalls).1, false) ∧
    (heldBytes.run heldCalls).1.toList = [⟨.bytes, [3]⟩] := by
  obtain ⟨fills, -, converts, calls⟩ := fill_array_complete heldBytes
  have text : Scalar.ofJson? .bytes (.string "ok") = some ⟨.bytes, [111, 107]⟩ := by
    decide +kernel
  have nothing : Scalar.ofJson? .bytes (.array []) = some ⟨.bytes, []⟩ := rfl
  have log : Series.taken (Series.sinceClear (heldBytes.run heldCalls).2) = [⟨.bytes, [3]⟩] := by
    decide +kernel
  obtain ⟨-, -, -, other, values⟩ := calls heldCalls
  refine ⟨?_, nothing, (converts _ _ nothing).2.1, by decide, other _ (by decide), ?_⟩
  · exact (fills _ _).mpr ⟨⟨.bytes, #[[111, 107], []]⟩, rfl, rfl,
      .cons text (.cons nothing .nil)⟩
  · rw [values, log]
    rfl

end Buffer

end TreeWire
