import TreeWire.Proofs.Codec
import TreeWire.Wire.Reader

/-!
# Reading what was written

A message is read field by field. What is known of one field carries over to the sequence of fields
of a message, and from there to the message as the payload of a field of another one. Both are
stated in front of whatever follows, because the reader of a message does not see its end: it is
told how many bytes are left when it has to stop.

* `TreeWire.Wire.Takes` – **what a run of fields does to a state**, with
  `TreeWire.Wire.Takes.append` for sequences and `TreeWire.Wire.Takes.of_key` for one field;
* `TreeWire.Wire.Takes.message`, `TreeWire.Wire.Takes.whole` – messages inside a field, and on
  their own;
* `TreeWire.Wire.Foreign` – fields that a message does not know, which change nothing;
* `TreeWire.Wire.Interleaved` – the parts of a message with such fields anywhere between them;
* `TreeWire.Wire.Interleaved.takes` – **what is interleaved does not matter**.

Numbers on the wire have at most 64 bits, and so has the length of an input. That the input is no
longer than that is all that is asked of it.
-/

namespace TreeWire.Wire

/-! ### Readers -/

/-- More bytes than an input can have. -/
abbrev beyondInput : Nat := 0x10000000000000000

section Readers

variable {α β : Type} {bs rest : Bytes} {a : α}

/-- A reader after another one goes on where that one stops. -/
theorem Reader.bind_of_ok {r : Reader α} {f : α → Reader β} (h : r bs = .ok (a, rest)) :
    (r >>= f) bs = f a rest := by
  change StateT.bind r f bs = f a rest
  rw [StateT.bind, h]
  rfl

/-- What is read in a field is what is read. -/
theorem inField_map {r : Reader α} {message field : String} (f : α → β) (h : r bs = .ok (a, rest)) :
    inField message field (do return f (← r)) bs = .ok (f a, rest) := by
  have read : (do return f (← r) : Reader β) bs = .ok (f a, rest) := Reader.bind_of_ok h
  simp only [inField, read]

/-- A number at the front is read in front of whatever follows. -/
theorem readGroups?_append {room n : Nat} (h : readGroups? room bs = some (n, rest))
    (more : Bytes) : readGroups? room (bs ++ more) = some (n, rest ++ more) := by
  induction room generalizing bs n rest with
  | zero => simp [readGroups?] at h
  | succ room ih =>
    cases bs with
    | nil => simp [readGroups?] at h
    | cons b bs =>
      rw [List.cons_append]
      rw [readGroups?] at h ⊢
      by_cases small : b.toNat < 128
      · rw [if_pos small] at h ⊢
        by_cases full : room = 0 ∧ 2 ≤ b.toNat
        · simp [full] at h
        · rw [if_neg full] at h ⊢
          obtain ⟨rfl, rfl⟩ := Prod.mk.inj (Option.some.inj h)
          rfl
      · rw [if_neg small] at h ⊢
        cases hr : readGroups? room bs with
        | none => simp [hr] at h
        | some r =>
          obtain ⟨m, behind⟩ := r
          rw [hr] at h
          obtain ⟨rfl, rfl⟩ := Prod.mk.inj (Option.some.inj h)
          rw [ih hr]

/-- **A number is read**, in whatever way it is spelled. -/
theorem number_append {n : Nat} (h : readVarint? bs = some (n, [])) (rest : Bytes) :
    number (bs ++ rest) = .ok (n, rest) := by
  have read : readVarint? (bs ++ rest) = some (n, rest) := readGroups?_append h rest
  rw [number, read]

theorem readVarint?_varint {n : Nat} (h : n < 0x10000000000000000) :
    readVarint? (varint n) = some (n, []) := by
  simpa using readVarint?_varint_append h []

/-- **The key of a field is read**, in whatever way it is spelled. -/
theorem readKey_append {n : Nat} {shape : Shape} (low : 1 ≤ n) (high : n ≤ largestFieldNumber)
    (h : readVarint? bs = some (8 * n + shape.code, [])) (rest : Bytes) :
    readKey (bs ++ rest) = .ok ((n, shape), rest) := by
  have code := shape.code_lt
  have top : largestFieldNumber = 0x1FFFFFFF := rfl
  rw [readKey, Reader.bind_of_ok (number_append h rest), if_neg (by omega),
    show (8 * n + shape.code) % 8 = shape.code by omega, Shape.ofCode?_code]
  simp only
  rw [if_neg (by omega), show (8 * n + shape.code) / 8 = n by omega]
  rfl

/-- The given number of bytes is read. -/
theorem take_append {n : Nat} (h : bs.length = n) (rest : Bytes) :
    take n (bs ++ rest) = .ok (bs, rest) := by
  rw [take, if_neg (by rw [List.length_append]; omega), List.take_left' h, List.drop_left' h]

theorem expect_self (shape : Shape) (bs : Bytes) : expect shape shape bs = .ok ((), bs) := by
  rw [expect, if_pos rfl]
  rfl

/-! ### Payloads -/

/-- **A text is read back.** -/
theorem text_delimited_append (s : String) (rest : Bytes)
    (fits : (delimited (utf8 s) ++ rest).length < beyondInput) :
    text .lengthDelimited (delimited (utf8 s) ++ rest) = .ok (s, rest) := by
  have short : (utf8 s).length < beyondInput := by
    simp only [delimited, List.length_append] at fits
    omega
  have block : bytes .lengthDelimited (delimited (utf8 s) ++ rest) = .ok (utf8 s, rest) := by
    rw [bytes, Reader.bind_of_ok (expect_self _ _), delimited, List.append_assoc,
      Reader.bind_of_ok (number_append (readVarint?_varint short) _), take_append rfl]
  rw [text, Reader.bind_of_ok block, ofUtf8?_utf8]
  rfl

/-- **A signed number is read back.** -/
theorem int32_signed64_append (n : Int32) (rest : Bytes) :
    int32 .varint (signed64 n.toInt ++ rest) = .ok (n, rest) := by
  have low := n.le_toInt
  have high := n.toInt_lt
  have spelled : readVarint? (signed64 n.toInt) = some (wrap64 n.toInt, []) :=
    readVarint?_varint (wrap64_lt (by omega) (by omega))
  rw [int32, Reader.bind_of_ok (expect_self _ _), Reader.bind_of_ok (number_append spelled _),
    int32_ofNat_wrap64]
  rfl

/-- **A truth value is read back.** -/
theorem bool_varint_append (b : Bool) (rest : Bytes) :
    bool .varint (varint b.toNat ++ rest) = .ok (b, rest) := by
  have small : b.toNat < 2 := b.toNat_lt
  rw [bool, Reader.bind_of_ok (expect_self _ _),
    Reader.bind_of_ok (number_append (readVarint?_varint (by omega)) _)]
  cases b <;> rfl

end Readers

/-! ### Fields one after the other -/

section Fields

variable {σ τ : Type} {field : Nat → Shape → σ → Reader σ} {bs cs : Bytes} {s s₁ s₂ : σ}

/-- **What a run of fields does to a state**: in front of whatever follows, reading goes on behind
these fields with the second state, and there are still enough steps for what follows. -/
def Takes (field : Nat → Shape → σ → Reader σ) (bs : Bytes) (s s' : σ) : Prop :=
  ∀ (rest : Bytes) (left steps : Nat), (bs ++ rest).length < beyondInput → left ≤ rest.length →
    (bs ++ rest).length ≤ steps → ∃ steps', rest.length ≤ steps' ∧
      fieldsWithin field left steps s (bs ++ rest) = fieldsWithin field left steps' s' rest

/-- No field changes nothing. -/
theorem Takes.nil : Takes field [] s s :=
  fun _ _ steps _ _ enough => ⟨steps, enough, rfl⟩

/-- **Fields one after the other** do what they do one after the other. -/
theorem Takes.append (first : Takes field bs s s₁) (later : Takes field cs s₁ s₂) :
    Takes field (bs ++ cs) s s₂ := by
  intro rest left steps fits stop enough
  simp only [List.length_append] at fits enough
  obtain ⟨steps₁, enough₁, here⟩ := first (cs ++ rest) left steps
    (by simp only [List.length_append]; omega) (by rw [List.length_append]; omega)
    (by simp only [List.length_append]; omega)
  obtain ⟨steps₂, enough₂, there⟩ := later rest left steps₁
    (by simp only [List.length_append]; omega) stop enough₁
  exact ⟨steps₂, enough₂, by rw [List.append_assoc, here, there]⟩

/-- **One field**: its key is read, and its payload changes the state. -/
theorem Takes.of_key {n : Nat} {shape : Shape} {front payload : Bytes} (low : 1 ≤ n)
    (high : n ≤ largestFieldNumber) (key : readVarint? front = some (8 * n + shape.code, []))
    (step : ∀ rest, (payload ++ rest).length < beyondInput →
      field n shape s (payload ++ rest) = .ok (s₁, rest)) :
    Takes field (front ++ payload) s s₁ := by
  intro rest left steps fits stop enough
  simp only [List.length_append] at fits enough
  -- the key takes a byte, and so the place to stop at has not been reached
  have present := length_of_readVarint? key
  obtain ⟨steps, rfl⟩ : ∃ m, steps = m + 1 := ⟨steps - 1, by simp at present; omega⟩
  refine ⟨steps, by simp at present; omega, ?_⟩
  have more : ¬ (front ++ payload ++ rest).length ≤ left := by
    simp only [List.length_append]
    simp at present
    omega
  have got : (get : Reader Bytes) (front ++ payload ++ rest) =
      .ok (front ++ payload ++ rest, front ++ payload ++ rest) := rfl
  rw [fieldsWithin, Reader.bind_of_ok got, if_neg more, List.append_assoc,
    Reader.bind_of_ok (readKey_append low high key _)]
  exact Reader.bind_of_ok (step rest (by simp only [List.length_append]; omega))

/-- A field with the key as it is written. -/
theorem Takes.of_field {id : UInt32} {shape : Shape} {payload : Bytes} (low : 1 ≤ id.toNat)
    (high : id.toNat ≤ largestFieldNumber)
    (step : ∀ rest, (payload ++ rest).length < beyondInput →
      field id.toNat shape s (payload ++ rest) = .ok (s₁, rest)) :
    Takes field (key id shape ++ payload) s s₁ := by
  have code := shape.code_lt
  have top : largestFieldNumber = 0x1FFFFFFF := rfl
  rw [key_of_lt (by omega)]
  exact Takes.of_key low high (readVarint?_varint (by omega)) step

/-- **A part that may be missing**: if it is there, its value is put in. -/
theorem Takes.optional {α : Type} {id : UInt32} {shape : Shape} {payload : α → Bytes} {r : Reader α}
    {message name : String} (put : Option α → σ) (low : 1 ≤ id.toNat)
    (high : id.toNat ≤ largestFieldNumber)
    (reads : ∀ v rest, (payload v ++ rest).length < beyondInput →
      r (payload v ++ rest) = .ok (v, rest))
    (step : field id.toNat shape (put none) = inField message name (do return put (some (← r))))
    (o : Option α) :
    Takes field (o.elim [] fun v => key id shape ++ payload v) (put none) (put o) := by
  cases o with
  | none => exact Takes.nil
  | some v =>
    refine Takes.of_field low high fun rest fits => ?_
    rw [step]
    exact inField_map (fun v => put (some v)) (reads v rest fits)

/-- The fields up to the place where what follows begins. -/
theorem Takes.fields {rest : Bytes} (h : Takes field bs s s₁)
    (fits : (bs ++ rest).length < beyondInput) :
    Wire.fields field rest.length s (bs ++ rest) = .ok (s₁, rest) := by
  obtain ⟨steps, -, run⟩ := h rest rest.length (bs ++ rest).length fits (Nat.le_refl _)
    (Nat.le_refl _)
  have stop : fieldsWithin field rest.length steps s₁ rest = .ok (s₁, rest) := by
    cases steps with
    | zero => rfl
    | succ steps =>
      have got : (get : Reader Bytes) rest = .ok (rest, rest) := rfl
      rw [fieldsWithin, Reader.bind_of_ok got, if_pos (Nat.le_refl _)]
      rfl
  have got : (get : Reader Bytes) (bs ++ rest) = .ok (bs ++ rest, bs ++ rest) := rfl
  rw [Wire.fields, Reader.bind_of_ok got, run, stop]

/-- **A message as a payload** is read to its end. -/
theorem Takes.message {inner : Nat → Nat → Shape → σ → Reader σ} {depth : Nat}
    (h : Takes (inner depth) bs s s₁) (rest : Bytes)
    (fits : (delimited bs ++ rest).length < beyondInput) :
    Wire.message (depth + 1) inner .lengthDelimited s (delimited bs ++ rest) = .ok (s₁, rest) := by
  simp only [delimited, List.length_append] at fits
  have number : Wire.number (varint bs.length ++ (bs ++ rest)) = .ok (bs.length, bs ++ rest) :=
    number_append (readVarint?_varint (show bs.length < beyondInput by omega)) _
  have got (l : Bytes) : (get : Reader Bytes) l = .ok (l, l) := rfl
  have left : (bs ++ rest).length - bs.length = rest.length := by simp
  rw [Wire.message, Reader.bind_of_ok (expect_self _ _), delimited, List.append_assoc]
  simp only
  rw [Reader.bind_of_ok number, Reader.bind_of_ok (got _), if_neg (by simp), left,
    Reader.bind_of_ok (h.fields (by rw [List.length_append]; omega)), Reader.bind_of_ok (got _),
    if_pos rfl]
  rfl

/-- **A field that holds a message**: what the message says is put in. -/
theorem Takes.messageField {inner : Nat → Nat → Shape → τ → Reader τ} {depth : Nat}
    {id : UInt32} {message name : String} {m m' : τ} (put : τ → σ) (low : 1 ≤ id.toNat)
    (high : id.toNat ≤ largestFieldNumber)
    (step : field id.toNat .lengthDelimited s =
      inField message name (do return put (← Wire.message (depth + 1) inner .lengthDelimited m)))
    (h : Takes (inner depth) bs m m') :
    Takes field (key id .lengthDelimited ++ delimited bs) s (put m') := by
  refine Takes.of_field low high fun rest fits => ?_
  rw [step]
  exact inField_map put (h.message rest fits)

/-- **A message on its own.** -/
theorem Takes.whole {inner : Nat → Nat → Shape → σ → Reader σ}
    (h : Takes (inner depthLimit) bs s s₁) (fits : bs.length < beyondInput) :
    Wire.whole inner s bs = .ok s₁ := by
  have read : Wire.fields (inner depthLimit) 0 s (bs ++ []) = .ok (s₁, []) :=
    h.fields (by simpa using fits)
  rw [List.append_nil] at read
  rw [Wire.whole]
  change (Wire.fields (inner depthLimit) 0 s bs >>= fun r => .ok r.1) = .ok s₁
  rw [read]
  rfl

end Fields

/-! ### Foreign fields -/

/-- **The payloads of a shape**, in whatever way their numbers are spelled. -/
inductive IsPayload : Shape → Bytes → Prop
  /-- A number. -/
  | varint {bs : Bytes} {n : Nat} : readVarint? bs = some (n, []) → IsPayload .varint bs
  /-- Eight bytes. -/
  | sixtyFourBit {bs : Bytes} : bs.length = 8 → IsPayload .sixtyFourBit bs
  /-- Four bytes. -/
  | thirtyTwoBit {bs : Bytes} : bs.length = 4 → IsPayload .thirtyTwoBit bs
  /-- A length and as many bytes. -/
  | lengthDelimited {front bs : Bytes} :
    readVarint? front = some (bs.length, []) → IsPayload .lengthDelimited (front ++ bs)

/-- **Foreign fields**: fields whose numbers a message does not know, one after the other. -/
inductive Foreign (known : List Nat) : Bytes → Prop
  /-- There is none. -/
  | nil : Foreign known []
  /-- There is one more in front. -/
  | cons {n : Nat} {shape : Shape} {front payload later : Bytes} :
    1 ≤ n → n ≤ largestFieldNumber → n ∉ known →
      readVarint? front = some (8 * n + shape.code, []) → IsPayload shape payload →
      Foreign known later → Foreign known (front ++ payload ++ later)

/-- One foreign field. -/
theorem Foreign.single {known : List Nat} {n : Nat} {shape : Shape} {front payload : Bytes}
    (low : 1 ≤ n) (high : n ≤ largestFieldNumber) (other : n ∉ known)
    (spelled : readVarint? front = some (8 * n + shape.code, []))
    (valid : IsPayload shape payload) : Foreign known (front ++ payload) := by
  simpa using Foreign.cons low high other spelled valid Foreign.nil

/-- **A payload is stepped over.** -/
theorem IsPayload.skip_append {shape : Shape} {bs : Bytes} (h : IsPayload shape bs)
    (depth id : Nat) (rest : Bytes) : skip (depth + 1) id shape (bs ++ rest) = .ok ((), rest) := by
  have got (l : Bytes) : (get : Reader Bytes) l = .ok (l, l) := rfl
  rw [skip, Reader.bind_of_ok (got _), skipWithin.eq_def]
  cases h with
  | varint spelled => exact Reader.bind_of_ok (number_append spelled rest)
  | sixtyFourBit length => exact Reader.bind_of_ok (take_append length rest)
  | thirtyTwoBit length => exact Reader.bind_of_ok (take_append length rest)
  | lengthDelimited spelled =>
    rw [List.append_assoc]
    exact (Reader.bind_of_ok (number_append spelled _)).trans
      (Reader.bind_of_ok (take_append rfl rest))

section Interleaved

variable {σ : Type} {field : Nat → Shape → σ → Reader σ} {known : List Nat} {bs : Bytes}
  {s s' : σ}

/-- **A reader that steps over** the fields that it does not know. -/
def StepsOver (field : Nat → Shape → σ → Reader σ) (known : List Nat) : Prop :=
  ∃ depth, ∀ n shape s, n ∉ known → field n shape s = do
    skip (depth + 1) n shape
    return s

/-- **Foreign fields change nothing.** -/
theorem Foreign.takes (unread : StepsOver field known) (h : Foreign known bs) (s : σ) :
    Takes field bs s s := by
  obtain ⟨depth, skips⟩ := unread
  induction h with
  | nil => exact Takes.nil
  | @cons n shape front payload later low high other spelled valid _ ih =>
    refine Takes.append (Takes.of_key low high spelled fun rest _ => ?_) ih
    rw [skips n shape s other]
    exact Reader.bind_of_ok (valid.skip_append depth n rest)

/-! ### Interleaving -/

/-- **The parts of a message with foreign fields interleaved**: before the first part, between any
two, and behind the last one. A part is given by what may stand for it. -/
inductive Interleaved (known : List Nat) : List (Bytes → Prop) → Bytes → Prop
  /-- No part is left. -/
  | nil {bs : Bytes} : Foreign known bs → Interleaved known [] bs
  /-- A part and the ones behind it. -/
  | cons {Part : Bytes → Prop} {Parts : List (Bytes → Prop)} {front part later : Bytes} :
    Foreign known front → Part part → Interleaved known Parts later →
      Interleaved known (Part :: Parts) (front ++ part ++ later)

/-- **What parts do to a state**, one after the other, whatever stands for each of them. -/
inductive Steps (field : Nat → Shape → σ → Reader σ) : σ → List (Bytes → Prop) → σ → Prop
  /-- No part is left. -/
  | nil {s : σ} : Steps field s [] s
  /-- A part and the ones behind it. -/
  | cons {Part : Bytes → Prop} {Parts : List (Bytes → Prop)} {s s₁ s₂ : σ} :
    (∀ part, Part part → Takes field part s s₁) → Steps field s₁ Parts s₂ →
      Steps field s (Part :: Parts) s₂

/-- **What is interleaved does not matter**: the parts do what they do by themselves. -/
theorem Interleaved.takes {Parts : List (Bytes → Prop)} (unread : StepsOver field known)
    (steps : Steps field s Parts s') (h : Interleaved known Parts bs) : Takes field bs s s' := by
  induction h generalizing s with
  | nil foreign =>
    cases steps
    exact foreign.takes unread _
  | cons foreign here _ ih =>
    cases steps with
    | cons first later => exact ((foreign.takes unread _).append (first _ here)).append (ih later)

end Interleaved

end TreeWire.Wire
