import TreeWire.Wire.Field

/-!
# Reading messages

A message is read field by field up to the place where it ends. The length of a payload is checked
against all that is left of the input, and not against the end of the message around it; that a
payload runs past that end is noticed when it has been read. A field with a number that is not
known is stepped over.

* `TreeWire.Wire.Flaw` – what is wrong with an input, and in which fields;
* `TreeWire.Wire.Reader` – readers: what was read and the rest of the input, or a flaw;
* `TreeWire.Wire.fields` – the fields up to a place;
* `TreeWire.Wire.skip` – stepping over a payload;
* `TreeWire.Wire.message` – a message as the payload of a field.
-/

namespace TreeWire.Wire

/-! ### Flaws -/

/-- **What can be wrong** at a place of an input. -/
inductive Cause where
  /-- A number is cut off, or has more than 64 bits. -/
  | varint
  /-- A key has more than 32 bits. -/
  | key (n : Nat)
  /-- A key has a shape that does not exist. -/
  | shape (code : Nat)
  /-- The number of a field is zero. -/
  | zeroNumber
  /-- A field has another shape than its type demands. -/
  | unexpectedShape (actual expected : Shape)
  /-- A payload is longer than the input. -/
  | underflow
  /-- A message runs past its end. -/
  | overrun
  /-- A group ends that has not been started. -/
  | endGroup
  /-- Messages and groups are nested too deep. -/
  | depth
  /-- A text is not encoded as such. -/
  | notText
  deriving DecidableEq

/-- The wording of a cause. -/
def Cause.message : Cause → String
  | varint => "invalid varint"
  | key n => "invalid key value: " ++ toString n
  | shape code => "invalid wire type value: " ++ toString code
  | zeroNumber => "invalid tag value: 0"
  | unexpectedShape actual expected =>
    "invalid wire type: " ++ actual.name ++ " (expected " ++ expected.name ++ ")"
  | underflow => "buffer underflow"
  | overrun => "delimited length exceeded"
  | endGroup => "unexpected end group tag"
  | depth => "recursion limit reached"
  | notText => "invalid string value: data is not UTF-8 encoded"

/-- A field of a message, as flaws name it. -/
structure Place where
  /-- The message. -/
  message : String
  /-- The field. -/
  field : String
  deriving DecidableEq

/-- **A flaw**: its cause and the fields around it, the innermost first. -/
structure Flaw where
  /-- The cause. -/
  cause : Cause
  /-- The fields. -/
  places : List Place := []
  deriving DecidableEq

/-- The wording of a flaw. -/
def Flaw.message (f : Flaw) : String :=
  String.join (f.places.map fun p => p.message ++ "." ++ p.field ++ ": ") ++ f.cause.message

/-! ### Readers -/

/-- **Readers**: what was read and the rest of the input, or a flaw. -/
abbrev Reader (α : Type) := StateT Bytes (Except Flaw) α

/-- A reader that finds a flaw. -/
def fail {α : Type} (cause : Cause) : Reader α := fun _ => .error ⟨cause, []⟩

/-- A reader whose flaws lie in a field. -/
def inField {α : Type} (message field : String) (r : Reader α) : Reader α := fun bs =>
  match r bs with
  | .ok result => .ok result
  | .error flaw => .error { flaw with places := flaw.places ++ [⟨message, field⟩] }

/-- A number of variable length. -/
def number : Reader Nat := fun bs =>
  match readVarint? bs with
  | some (n, rest) => .ok (n, rest)
  | none => .error ⟨.varint, []⟩

/-- **The key** of a field: its number and its shape. -/
def readKey : Reader (Nat × Shape) := do
  let n ← number
  if 0x100000000 ≤ n then fail (.key n)
  else
    match Shape.ofCode? (n % 8) with
    | none => fail (.shape (n % 8))
    | some shape => if n / 8 = 0 then fail .zeroNumber else pure (n / 8, shape)

/-- A check of the shape of a field. -/
def expect (expected actual : Shape) : Reader Unit :=
  if actual = expected then pure () else fail (.unexpectedShape actual expected)

/-- The given number of bytes. -/
def take (n : Nat) : Reader Bytes := fun bs =>
  if bs.length < n then .error ⟨.underflow, []⟩ else .ok (bs.take n, bs.drop n)

/-- The fields up to the place where so many bytes are left, in at most so many steps. -/
def fieldsWithin {σ : Type} (field : Nat → Shape → σ → Reader σ) (left : Nat) : Nat → σ → Reader σ
  | 0, s => pure s
  | steps + 1, s => do
    if (← get).length ≤ left then pure s
    else
      let (number, shape) ← readKey
      let s ← field number shape s
      fieldsWithin field left steps s

/-- **The fields up to the place** where so many bytes are left. There are no more fields than
bytes, since every key takes one. -/
def fields {σ : Type} (field : Nat → Shape → σ → Reader σ) (left : Nat) (s : σ) : Reader σ := do
  fieldsWithin field left (← get).length s

/-! ### Stepping over fields -/

/-- How deep messages and groups can be nested. -/
def depthLimit : Nat := 100

mutual

/-- **Stepping over a payload** of the field with a number, in at most so many steps, with so many
levels of nesting left. -/
def skipWithin : Nat → Nat → Nat → Shape → Reader Unit
  | 0, _, _, _ => fail .depth
  | _, 0, _, _ => fail .depth
  | steps + 1, depth + 1, id, shape =>
    match shape with
    | .varint => do let _ ← number
    | .thirtyTwoBit => do let _ ← take 4
    | .sixtyFourBit => do let _ ← take 8
    | .lengthDelimited => do
      let n ← number
      let _ ← take n
    | .startGroup => skipGroup steps depth id
    | .endGroup => fail .endGroup

/-- Stepping over the rest of a group, up to the end of the group with its number. -/
def skipGroup : Nat → Nat → Nat → Reader Unit
  | 0, _, _ => fail .depth
  | steps + 1, depth, id => do
    let (inner, shape) ← readKey
    if shape = .endGroup then
      if inner = id then pure () else fail .endGroup
    else do
      skipWithin steps depth inner shape
      skipGroup steps depth id

end

/-- **Stepping over a payload** of the field with a number, with so many levels of nesting left.
Every second step reads a key, so that there are enough of them for the bytes that are left. -/
def skip (depth id : Nat) (shape : Shape) : Reader Unit := do
  skipWithin (2 * (← get).length + 2) depth id shape

/-! ### Payloads -/

/-- A payload of bytes. -/
def bytes (shape : Shape) : Reader Bytes := do
  expect .lengthDelimited shape
  take (← number)

/-- A text. -/
def text (shape : Shape) : Reader String := do
  match ofUtf8? (← bytes shape) with
  | some s => pure s
  | none => fail .notText

/-- A signed number of 32 bits. Higher bits are dropped. -/
def int32 (shape : Shape) : Reader Int32 := do
  expect .varint shape
  return Int32.ofNat (← number)

/-- A truth value: every number but zero is true. -/
def bool (shape : Shape) : Reader Bool := do
  expect .varint shape
  return (← number) != 0

/-- **A message** as the payload of a field, with so many levels of nesting left, put over what has
been read of it before. -/
def message {σ : Type} (depth : Nat) (field : Nat → Nat → Shape → σ → Reader σ) (shape : Shape)
    (s : σ) : Reader σ := do
  expect .lengthDelimited shape
  match depth with
  | 0 => fail .depth
  | depth + 1 =>
    let n ← number
    let available := (← get).length
    if available < n then fail .underflow
    else
      let s ← fields (field depth) (available - n) s
      if (← get).length = available - n then pure s else fail .overrun

/-- **The message that a whole input holds.** -/
def whole {σ : Type} (field : Nat → Nat → Shape → σ → Reader σ) (s : σ) (input : Bytes) :
    Except Flaw σ := do
  let (s, _) ← fields (field depthLimit) 0 s input
  .ok s

end TreeWire.Wire
