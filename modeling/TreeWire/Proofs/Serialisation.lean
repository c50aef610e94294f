import TreeWire.Descriptor.Decoder
import TreeWire.Descriptor.Encoder
import TreeWire.Proofs.Wire.Reader

/-!
# Serialisations of descriptor sets

The schema compiler writes much more into a descriptor set than a conversion reads: every message
has fields that are not declared here, and they may stand anywhere among the others. A serialisation
of a descriptor set is what `TreeWire.DescriptorSet.encode` writes, with any number of foreign
fields at the boundaries of the fields of every message – of the set itself, its files, their
messages, the fields of those, and the options. All of them are read as the same descriptor set.

* `TreeWire.DescriptorSet.Serialisation` and its four parts – **serialisations**;
* `TreeWire.DescriptorSet.serialisation_encode` – what is written is one;
* `TreeWire.Descriptor.Options.takes`, `TreeWire.Descriptor.Field.takes`,
  `TreeWire.Descriptor.Message.takes`, `TreeWire.Descriptor.File.takes` – what is read of a message,
  from the innermost one outwards;
* `TreeWire.DescriptorSet.decode_serialisation` – **the main statement**: every serialisation is
  read back.
-/

namespace TreeWire

open Wire

/-! ### Serialisations -/

/-- **A part that is written in one way.** -/
def Wire.Exactly (part bs : Bytes) : Prop := bs = part

/-- **A part that is a message**: a field with a serialisation of the message. -/
def Wire.Embedded (id : UInt32) (Form : Bytes → Prop) (bs : Bytes) : Prop :=
  ∃ payload, Form payload ∧ bs = messageField id payload

namespace Descriptor

/-- **The serialisations of options.** -/
def Options.Serialisation (o : Options) : Bytes → Prop :=
  Interleaved [2, branchOptionNumber]
    [Exactly (boolField 2 o.packed), Exactly (textField branchOptionNumber.toUInt32 o.sourceBranch)]

/-- **The serialisations of a field.** -/
def Field.Serialisation (f : Field) : Bytes → Prop :=
  Interleaved [1, 3, 4, 5, 8]
    (Exactly (textField 1 f.name) :: Exactly (int32Field 3 f.number) ::
      Exactly (int32Field 4 f.label) :: Exactly (int32Field 5 f.type) ::
      (f.options.map fun o => Embedded 8 o.Serialisation).toList)

/-- **The serialisations of a message.** -/
def Message.Serialisation (m : Message) : Bytes → Prop :=
  Interleaved [1, 2]
    (Exactly (textField 1 m.name) :: m.fields.map fun f => Embedded 2 f.Serialisation)

/-- **The serialisations of a file.** -/
def File.Serialisation (f : File) : Bytes → Prop :=
  Interleaved [1, 2, 4]
    (Exactly (textField 1 f.name) :: Exactly (textField 2 f.package) ::
      f.messages.map fun m => Embedded 4 m.Serialisation)

end Descriptor

/-- **The serialisations of a descriptor set.** -/
def DescriptorSet.Serialisation (s : DescriptorSet) : Bytes → Prop :=
  Interleaved [1] (s.files.map fun f => Embedded 1 f.Serialisation)

/-! ### What is written is a serialisation -/

section Written

variable {known : List Nat} {Parts : List (Bytes → Prop)} {bs : Bytes}

/-- A part that is written in one way, with nothing foreign in front of it. -/
theorem Wire.Interleaved.exactly (part : Bytes) (later : Interleaved known Parts bs) :
    Interleaved known (Exactly part :: Parts) (part ++ bs) := by
  have here : Exactly part part := rfl
  simpa using Interleaved.cons Foreign.nil here later

/-- Messages one after the other, if each of them can be written. -/
theorem Wire.Interleaved.flatMap_messageField {α : Type} {id : UInt32} {Form : α → Bytes → Prop}
    {write : α → Bytes} {xs : List α} (each : ∀ x ∈ xs, Form x (write x)) :
    Interleaved known (xs.map fun x => Embedded id (Form x))
      (xs.flatMap fun x => messageField id (write x)) := by
  induction xs with
  | nil => exact Interleaved.nil Foreign.nil
  | cons x xs ih =>
    have here : Embedded id (Form x) (messageField id (write x)) := ⟨_, each x (by simp), rfl⟩
    have later := ih fun y hy => each y (by simp [hy])
    simpa using Interleaved.cons Foreign.nil here later

namespace Descriptor

theorem Options.serialisation_encode (o : Options) : o.Serialisation o.encode := by
  have parts : o.Serialisation
      (boolField 2 o.packed ++ (textField branchOptionNumber.toUInt32 o.sourceBranch ++ [])) :=
    Interleaved.exactly _ (Interleaved.exactly _ (Interleaved.nil Foreign.nil))
  rwa [List.append_nil] at parts

theorem Field.serialisation_encode (f : Field) : f.Serialisation f.encode := by
  rw [encode, List.append_assoc, List.append_assoc, List.append_assoc]
  refine Interleaved.exactly _ <| Interleaved.exactly _ <| Interleaved.exactly _ <|
    Interleaved.exactly _ ?_
  cases f.options with
  | none => exact Interleaved.nil Foreign.nil
  | some o =>
    have here : Embedded 8 o.Serialisation (messageField 8 o.encode) :=
      ⟨_, o.serialisation_encode, rfl⟩
    simpa using Interleaved.cons Foreign.nil here (Interleaved.nil Foreign.nil)

theorem Message.serialisation_encode (m : Message) : m.Serialisation m.encode :=
  Interleaved.exactly _ (Interleaved.flatMap_messageField fun f _ => f.serialisation_encode)

theorem File.serialisation_encode (f : File) : f.Serialisation f.encode := by
  rw [encode, List.append_assoc]
  exact Interleaved.exactly _ (Interleaved.exactly _
    (Interleaved.flatMap_messageField fun m _ => m.serialisation_encode))

end Descriptor

/-- **What is written is a serialisation.** -/
theorem DescriptorSet.serialisation_encode (s : DescriptorSet) : s.Serialisation s.encode :=
  Interleaved.flatMap_messageField fun f _ => f.serialisation_encode

end Written

/-! ### What the parts do -/

section Parts

variable {σ τ : Type} {field : Nat → Shape → σ → Reader σ} {Parts : List (Bytes → Prop)}
  {id : UInt32} {message name : String} {s s₁ s₂ : σ} {bs : Bytes}

/-- A part that is written in one way. -/
theorem Wire.Steps.exactly (first : Takes field bs s s₁) (later : Steps field s₁ Parts s₂) :
    Steps field s (Exactly bs :: Parts) s₂ := by
  refine Steps.cons ?_ later
  rintro _ rfl
  exact first

theorem Wire.Takes.textField (put : Option String → σ) (low : 1 ≤ id.toNat)
    (high : id.toNat ≤ largestFieldNumber)
    (step : field id.toNat .lengthDelimited (put none) =
      inField message name (do return put (some (← text .lengthDelimited))))
    (o : Option String) : Takes field (textField id o) (put none) (put o) := by
  have part := Takes.optional put low high (fun v rest => text_delimited_append v rest) step o
  cases o <;> exact part

theorem Wire.Takes.int32Field (put : Option Int32 → σ) (low : 1 ≤ id.toNat)
    (high : id.toNat ≤ largestFieldNumber)
    (step : field id.toNat .varint (put none) =
      inField message name (do return put (some (← int32 .varint))))
    (o : Option Int32) : Takes field (int32Field id o) (put none) (put o) := by
  have part := Takes.optional put low high (fun v rest _ => int32_signed64_append v rest) step o
  cases o <;> exact part

theorem Wire.Takes.boolField (put : Option Bool → σ) (low : 1 ≤ id.toNat)
    (high : id.toNat ≤ largestFieldNumber)
    (step : field id.toNat .varint (put none) =
      inField message name (do return put (some (← bool .varint))))
    (o : Option Bool) : Takes field (boolField id o) (put none) (put o) := by
  have part := Takes.optional put low high (fun v rest _ => bool_varint_append v rest) step o
  cases o <;> exact part

/-- **Messages one after the other** make a list grow. -/
theorem Wire.Steps.repeated {α : Type} {Form : α → Bytes → Prop} (put : List α → σ)
    (each : ∀ done x payload, Form x payload →
      Takes field (messageField id payload) (put done) (put (done ++ [x])))
    (done xs : List α) :
    Steps field (put done) (xs.map fun x => Embedded id (Form x)) (put (done ++ xs)) := by
  induction xs generalizing done with
  | nil =>
    rw [List.append_nil]
    exact Steps.nil
  | cons x xs ih =>
    refine Steps.cons ?_ (by simpa using ih (done ++ [x]))
    rintro _ ⟨payload, form, rfl⟩
    exact each done x payload form

end Parts

/-! ### What is read -/

namespace Descriptor

/-- **Options are read.** -/
theorem Options.takes {o : Options} {bs : Bytes} (depth : Nat) (h : o.Serialisation bs) :
    Takes (Options.readField (depth + 1)) bs {} o := by
  have unread : StepsOver (Options.readField (depth + 1)) [2, branchOptionNumber] := by
    refine ⟨depth, fun n shape s other => ?_⟩
    simp only [List.mem_cons, List.not_mem_nil, or_false, not_or] at other
    rw [readField, if_neg other.1, if_neg other.2]
  have packed : Takes (Options.readField (depth + 1)) (boolField 2 o.packed) {}
      { packed := o.packed } :=
    Takes.boolField (fun packed => ({ packed } : Options)) (by decide) (by decide) rfl o.packed
  have branch : Takes (Options.readField (depth + 1))
      (textField branchOptionNumber.toUInt32 o.sourceBranch) { packed := o.packed } o :=
    Takes.textField (fun sourceBranch => ({ packed := o.packed, sourceBranch } : Options))
      (by decide) (by decide) rfl o.sourceBranch
  exact h.takes unread (.exactly packed (.exactly branch .nil))

/-- **A field is read.** -/
theorem Field.takes {f : Field} {bs : Bytes} (depth : Nat) (h : f.Serialisation bs) :
    Takes (Field.readField (depth + 2)) bs {} f := by
  have unread : StepsOver (Field.readField (depth + 2)) [1, 3, 4, 5, 8] := by
    refine ⟨depth + 1, fun n shape s other => ?_⟩
    simp only [List.mem_cons, List.not_mem_nil, or_false, not_or] at other
    obtain ⟨h1, h3, h4, h5, h8⟩ := other
    rw [readField, if_neg h1, if_neg h3, if_neg h4, if_neg h5, if_neg h8]
  have name : Takes (Field.readField (depth + 2)) (textField 1 f.name) {} { name := f.name } :=
    Takes.textField (fun name => ({ name } : Field)) (by decide) (by decide) rfl f.name
  have number : Takes (Field.readField (depth + 2)) (int32Field 3 f.number) { name := f.name }
      { name := f.name, number := f.number } :=
    Takes.int32Field (fun number => ({ name := f.name, number } : Field)) (by decide) (by decide)
      rfl f.number
  have label : Takes (Field.readField (depth + 2)) (int32Field 4 f.label)
      { name := f.name, number := f.number }
      { name := f.name, number := f.number, label := f.label } :=
    Takes.int32Field (fun label => ({ name := f.name, number := f.number, label } : Field))
      (by decide) (by decide) rfl f.label
  have type : Takes (Field.readField (depth + 2)) (int32Field 5 f.type)
      { name := f.name, number := f.number, label := f.label } { f with options := none } :=
    Takes.int32Field
      (fun type => ({ name := f.name, number := f.number, label := f.label, type } : Field))
      (by decide) (by decide) rfl f.type
  have options : Steps (Field.readField (depth + 2)) { f with options := none }
      (f.options.map fun o => Embedded 8 o.Serialisation).toList f := by
    cases ho : f.options with
    | none =>
      have whole : ({ f with options := none } : Field) = f := by rw [← ho]
      rw [whole]
      exact .nil
    | some o =>
      have whole : ({ f with options := some o } : Field) = f := by rw [← ho]
      refine .cons ?_ .nil
      rintro _ ⟨payload, form, rfl⟩
      have put : Takes (Field.readField (depth + 2)) (messageField 8 payload)
          { f with options := none } { f with options := some o } :=
        Takes.messageField (fun o => ({ f with options := some o } : Field)) (by decide)
          (by decide) rfl (Options.takes depth form)
      rwa [whole] at put
  exact h.takes unread (.exactly name (.exactly number (.exactly label (.exactly type options))))

/-- **A message is read.** -/
theorem Message.takes {m : Message} {bs : Bytes} (depth : Nat) (h : m.Serialisation bs) :
    Takes (Message.readField (depth + 3)) bs {} m := by
  have unread : StepsOver (Message.readField (depth + 3)) [1, 2] := by
    refine ⟨depth + 2, fun n shape s other => ?_⟩
    simp only [List.mem_cons, List.not_mem_nil, or_false, not_or] at other
    rw [readField, if_neg other.1, if_neg other.2]
  have name : Takes (Message.readField (depth + 3)) (textField 1 m.name) {} { name := m.name } :=
    Takes.textField (fun name => ({ name } : Message)) (by decide) (by decide) rfl m.name
  have fields : Steps (Message.readField (depth + 3)) { name := m.name }
      (m.fields.map fun f => Embedded 2 f.Serialisation) m := by
    refine Steps.repeated (fun fields => ({ name := m.name, fields } : Message)) ?_ [] m.fields
    intro done f payload form
    exact Takes.messageField (fun g => ({ name := m.name, fields := done ++ [g] } : Message))
      (by decide) (by decide) rfl (Field.takes depth form)
  exact h.takes unread (.exactly name fields)

/-- **A file is read.** -/
theorem File.takes {f : File} {bs : Bytes} (depth : Nat) (h : f.Serialisation bs) :
    Takes (File.readField (depth + 4)) bs {} f := by
  have unread : StepsOver (File.readField (depth + 4)) [1, 2, 4] := by
    refine ⟨depth + 3, fun n shape s other => ?_⟩
    simp only [List.mem_cons, List.not_mem_nil, or_false, not_or] at other
    obtain ⟨h1, h2, h4⟩ := other
    rw [readField, if_neg h1, if_neg h2, if_neg h4]
  have name : Takes (File.readField (depth + 4)) (textField 1 f.name) {} { name := f.name } :=
    Takes.textField (fun name => ({ name } : File)) (by decide) (by decide) rfl f.name
  have package : Takes (File.readField (depth + 4)) (textField 2 f.package) { name := f.name }
      { name := f.name, package := f.package } :=
    Takes.textField (fun package => ({ name := f.name, package } : File)) (by decide) (by decide)
      rfl f.package
  have messages : Steps (File.readField (depth + 4)) { name := f.name, package := f.package }
      (f.messages.map fun m => Embedded 4 m.Serialisation) f := by
    refine Steps.repeated
      (fun messages => ({ name := f.name, package := f.package, messages } : File)) ?_ []
      f.messages
    intro done m payload form
    exact Takes.messageField
      (fun g => ({ name := f.name, package := f.package, messages := done ++ [g] } : File))
      (by decide) (by decide) rfl (Message.takes depth form)
  exact h.takes unread (.exactly name (.exactly package messages))

end Descriptor

namespace DescriptorSet

/-- **A descriptor set is read.** -/
theorem takes {s : DescriptorSet} {bs : Bytes} (depth : Nat) (h : s.Serialisation bs) :
    Takes (readField (depth + 5)) bs {} s := by
  have unread : StepsOver (readField (depth + 5)) [1] := by
    refine ⟨depth + 4, fun n shape s other => ?_⟩
    rw [readField, if_neg (by simpa using other)]
  have files : Steps (readField (depth + 5)) {} (s.files.map fun f => Embedded 1 f.Serialisation)
      s := by
    refine Steps.repeated (fun files => ({ files } : DescriptorSet)) ?_ [] s.files
    intro done f payload form
    exact Takes.messageField (fun g => ({ files := done ++ [g] } : DescriptorSet)) (by decide)
      (by decide) rfl (Descriptor.File.takes depth form)
  exact h.takes unread files

/-- **Every serialisation is read back.** Whatever a descriptor set holds – any numbers of files,
messages and fields, any part of them there or missing, any texts and any numbers of 32 bits – and
whatever foreign fields stand at the boundaries of its fields, the bytes are read as exactly that
descriptor set; and what is written for it is such a serialisation. Inputs have fewer than
2 ^ 64 bytes. -/
theorem decode_serialisation (s : DescriptorSet) :
    s.Serialisation s.encode ∧
      ∀ bs : Bytes, bs.length < 0x10000000000000000 → s.Serialisation bs → decode bs = .ok s :=
  ⟨s.serialisation_encode, fun _ fits h => Takes.whole (takes 95 h) fits⟩

/-- A set with a field that has a negative number and names its branch. -/
def charged : DescriptorSet where
  files :=
    [{ package := some "p"
       messages :=
        [{ fields := [{ number := some (-1), options := some { sourceBranch := some "x" } }] }] }]

/-- Foreign fields stand in front of the options, behind them, behind the package, and in front of
the file, where the value is spelled with more bytes than it needs. -/
theorem decode_serialisation_charged :
    charged.Serialisation
      [0x78, 0x80, 0x00, 0x0A, 0x24, 0x12, 0x01, 0x70, 0x62, 0x01, 0x61, 0x22, 0x1C, 0x12, 0x1A,
        0x18, 0xFF, 0xFF, 0xFF, 0xFF, 0xFF, 0xFF, 0xFF, 0xFF, 0xFF, 0x01, 0x42, 0x0A, 0x0D, 0xFF,
        0x00, 0x00, 0x00, 0x92, 0xB5, 0x18, 0x01, 0x78, 0x12, 0x01, 0xAA] ∧
    decode
      [0x78, 0x80, 0x00, 0x0A, 0x24, 0x12, 0x01, 0x70, 0x62, 0x01, 0x61, 0x22, 0x1C, 0x12, 0x1A,
        0x18, 0xFF, 0xFF, 0xFF, 0xFF, 0xFF, 0xFF, 0xFF, 0xFF, 0xFF, 0x01, 0x42, 0x0A, 0x0D, 0xFF,
        0x00, 0x00, 0x00, 0x92, 0xB5, 0x18, 0x01, 0x78, 0x12, 0x01, 0xAA] = .ok charged := by
  have fixed : Foreign [2, branchOptionNumber] ([0x0D] ++ [0xFF, 0x00, 0x00, 0x00]) :=
    .single (by decide) (by decide) (by decide)
      (show readVarint? [0x0D] = some (8 * 1 + Shape.thirtyTwoBit.code, []) by decide)
      (.thirtyTwoBit rfl)
  have block : Foreign [1, 3, 4, 5, 8] ([0x12] ++ ([0x01] ++ [0xAA])) :=
    .single (by decide) (by decide) (by decide)
      (show readVarint? [0x12] = some (8 * 2 + Shape.lengthDelimited.code, []) by decide)
      (.lengthDelimited (by decide))
  have text : Foreign [1, 2, 4] ([0x62] ++ ([0x01] ++ [0x61])) :=
    .single (by decide) (by decide) (by decide)
      (show readVarint? [0x62] = some (8 * 12 + Shape.lengthDelimited.code, []) by decide)
      (.lengthDelimited (by decide))
  have zero : Foreign [1] ([0x78] ++ [0x80, 0x00]) :=
    .single (by decide) (by decide) (by decide)
      (show readVarint? [0x78] = some (8 * 15 + Shape.varint.code, []) by decide)
      (.varint (show readVarint? [0x80, 0x00] = some (0, []) by decide))
  -- every message is put together from its parts, the innermost one first
  have options : Descriptor.Options.Serialisation { sourceBranch := some "x" } _ :=
    .cons fixed rfl (.exactly _ (.nil .nil))
  have field : Descriptor.Field.Serialisation
      { number := some (-1), options := some { sourceBranch := some "x" } } _ :=
    .exactly _ (.exactly _ (.exactly _ (.exactly _ (.cons .nil ⟨_, options, rfl⟩ (.nil block)))))
  have message : Descriptor.Message.Serialisation { fields := [_] } _ :=
    .exactly _ (.cons .nil ⟨_, field, rfl⟩ (.nil .nil))
  have file : Descriptor.File.Serialisation { package := some "p", messages := [_] } _ :=
    .exactly _ (.exactly _ (.cons text ⟨_, message, rfl⟩ (.nil .nil)))
  have set : charged.Serialisation _ := .cons zero ⟨_, file, rfl⟩ (.nil .nil)
  have form : charged.Serialisation
      [0x78, 0x80, 0x00, 0x0A, 0x24, 0x12, 0x01, 0x70, 0x62, 0x01, 0x61, 0x22, 0x1C, 0x12, 0x1A,
        0x18, 0xFF, 0xFF, 0xFF, 0xFF, 0xFF, 0xFF, 0xFF, 0xFF, 0xFF, 0x01, 0x42, 0x0A, 0x0D, 0xFF,
        0x00, 0x00, 0x00, 0x92, 0xB5, 0x18, 0x01, 0x78, 0x12, 0x01, 0xAA] := by
    refine cast (congrArg charged.Serialisation ?_) set
    decide +kernel
  exact ⟨form, (decode_serialisation charged).2 _ (by decide) form⟩

end DescriptorSet

end TreeWire
