import TreeWire.Bytes

/-!
# Compressed data

The decoder of the compressed data format that gzip members hold: blocks that are stored, or
coded with a fixed or a transmitted pair of prefix-free codes, whose symbols are bytes and
references to earlier output.

* `TreeWire.Inflate.CodeBook` – a canonical code, given by how many words there are of each length;
* `TreeWire.Inflate.Decoder` – what is still to be read and what has been written;
* `TreeWire.inflate` – the output, and whether the data were complete, broke off or are corrupt.
-/

namespace TreeWire.Inflate

/-- **The state of the decoder.** -/
structure Decoder where
  /-- The bytes that are still to be read. -/
  input : Bytes
  /-- The bits of the last byte read that are still to be used, lowest first. -/
  held : Nat
  /-- The number of those bits. -/
  heldCount : Nat
  /-- The output so far. -/
  output : Array UInt8

/-- **Why decoding stops** before the end of the data. -/
inductive Stop where
  /-- The input ended. -/
  | incomplete
  /-- The input breaks a rule of the format. -/
  | corrupt
  deriving DecidableEq, Repr

/-- A step of the decoder. What has been written stays when it stops. -/
abbrev Step (α : Type) := EStateM Stop Decoder α

/-! ### Bits and bytes -/

/-- The next bit. -/
def bit : Step Nat := do
  let d ← get
  if d.heldCount = 0 then
    match d.input with
    | [] => throw .incomplete
    | b :: rest =>
      set { d with input := rest, held := b.toNat / 2, heldCount := 7 }
      pure (b.toNat % 2)
  else
    set { d with held := d.held / 2, heldCount := d.heldCount - 1 }
    pure (d.held % 2)

/-- The number that the next bits spell, lowest first. -/
def bits : Nat → Step Nat
  | 0 => pure 0
  | n + 1 => do
    let low ← bit
    let high ← bits n
    pure (low + 2 * high)

/-- Gives up the bits that are left of the last byte read. -/
def alignToByte : Step Unit := modify fun d => { d with held := 0, heldCount := 0 }

/-- The next whole byte. -/
def byte : Step UInt8 := do
  let d ← get
  match d.input with
  | [] => throw .incomplete
  | b :: rest =>
    set { d with input := rest }
    pure b

/-- Writes a byte. -/
def write (b : UInt8) : Step Unit := modify fun d => { d with output := d.output.push b }

/-! ### Codes -/

/-- **A canonical prefix-free code**: words are numbered by length, and by symbol within a
length. -/
structure CodeBook where
  /-- The number of words of length one, two, … fifteen. -/
  counts : List Nat
  /-- The symbols in the order of their words. -/
  symbols : Array Nat

/-- The book in which symbol `i` has a word of the `i`-th length, a length of zero meaning none. -/
def CodeBook.ofLengths (lengths : List Nat) : CodeBook :=
  let sizes := (List.range 15).map (· + 1)
  { counts := sizes.map fun n => lengths.count n
    symbols := (sizes.flatMap fun n =>
      (lengths.zipIdx.filter (·.1 = n)).map (·.2)).toArray }

/-- The words of the greatest length that the counts leave unused, if they do not use more words
than there are. -/
def unused? : Nat → List Nat → Option Nat
  | left, [] => some left
  | left, n :: ns => if 2 * left < n then none else unused? (2 * left - n) ns

/-- Whether the code uses all words, or has no more than the given number of symbols and does not
use more words than there are. -/
def CodeBook.isUsable (c : CodeBook) (few : Nat) : Bool :=
  match unused? 1 c.counts with
  | none => false
  | some left => left = 0 || c.symbols.size ≤ few

/-- The symbol of the word that the next bits spell: `word` is the word so far, `first` the
smallest word of the current length, and `index` the number of shorter words. -/
def symbolFrom (symbols : Array Nat) : List Nat → Nat → Nat → Nat → Step Nat
  | [], _, _, _ => throw .corrupt
  | n :: ns, word, first, index => do
    let b ← bit
    let word := word + b
    if word < first + n then
      match symbols[index + (word - first)]? with
      | some s => pure s
      | none => throw .corrupt
    else symbolFrom symbols ns (2 * word) (2 * (first + n)) (index + n)

/-- The symbol of the word that the next bits spell. -/
def CodeBook.symbol (c : CodeBook) : Step Nat := symbolFrom c.symbols c.counts 0 0 0

/-! ### Blocks -/

/-- The least length of each length symbol, and the number of bits that are added to it. -/
def lengthTable : Array (Nat × Nat) :=
  #[(3, 0), (4, 0), (5, 0), (6, 0), (7, 0), (8, 0), (9, 0), (10, 0), (11, 1), (13, 1), (15, 1),
    (17, 1), (19, 2), (23, 2), (27, 2), (31, 2), (35, 3), (43, 3), (51, 3), (59, 3), (67, 4),
    (83, 4), (99, 4), (115, 4), (131, 5), (163, 5), (195, 5), (227, 5), (258, 0)]

/-- The least distance of each distance symbol, and the number of bits that are added to it. -/
def distanceTable : Array (Nat × Nat) :=
  #[(1, 0), (2, 0), (3, 0), (4, 0), (5, 1), (7, 1), (9, 2), (13, 2), (17, 3), (25, 3), (33, 4),
    (49, 4), (65, 5), (97, 5), (129, 6), (193, 6), (257, 7), (385, 7), (513, 8), (769, 8),
    (1025, 9), (1537, 9), (2049, 10), (3073, 10), (4097, 11), (6145, 11), (8193, 12),
    (12289, 12), (16385, 13), (24577, 13)]

/-- A value of a table with the bits that are added to it. -/
def extended (table : Array (Nat × Nat)) (i : Nat) : Step Nat :=
  match table[i]? with
  | none => throw .corrupt
  | some (least, extra) => do
    let n ← bits extra
    pure (least + n)

/-- Writes a number of bytes again that stand the given distance back. What would stand before
the start of the output is zero. -/
def copy : Nat → Nat → Step Unit
  | 0, _ => pure ()
  | n + 1, distance => do
    let d ← get
    let b := if distance ≤ d.output.size then d.output[d.output.size - distance]?.getD 0 else 0
    write b
    copy n distance

/-- The symbols of a coded block up to the one that ends it. The first argument bounds their
number. -/
def codedBlock (literals distances : CodeBook) : Nat → Step Unit
  | 0 => throw .incomplete
  | fuel + 1 => do
    let s ← literals.symbol
    if s < 256 then
      write s.toUInt8
      codedBlock literals distances fuel
    else if s = 256 then pure ()
    else
      let length ← extended lengthTable (s - 257)
      let t ← distances.symbol
      let distance ← extended distanceTable t
      copy length distance
      codedBlock literals distances fuel

/-- Writes a number of bytes as they stand. -/
def storedBytes : Nat → Step Unit
  | 0 => pure ()
  | n + 1 => do
    let b ← byte
    write b
    storedBytes n

/-- The number that the next two bytes spell, low byte first. -/
def twoBytes : Step Nat := do
  let low ← byte
  let high ← byte
  pure (low.toNat + 256 * high.toNat)

/-- A stored block: its length, the complement of its length, and its bytes. -/
def storedBlock : Step Unit := do
  alignToByte
  let length ← twoBytes
  let complement ← twoBytes
  if length + complement = 0xFFFF then storedBytes length else throw .corrupt

/-- The fixed code of bytes and lengths. -/
def fixedLiterals : CodeBook :=
  .ofLengths (List.replicate 144 8 ++ List.replicate 112 9 ++ List.replicate 24 7 ++
    List.replicate 8 8)

/-- The fixed code of distances. -/
def fixedDistances : CodeBook := .ofLengths (List.replicate 32 5)

/-- The order in which the lengths of the words for lengths are transmitted. -/
def lengthOrder : List Nat := [16, 17, 18, 0, 8, 7, 9, 6, 10, 5, 11, 4, 12, 3, 13, 2, 14, 1, 15]

/-- A number of values of three bits each. -/
def tripleBits : Nat → Step (List Nat)
  | 0 => pure []
  | n + 1 => do
    let b ← bits 3
    let rest ← tripleBits n
    pure (b :: rest)

/-- The lengths of words, of which `left` are still missing, after those already read, which stand
in reverse. The first argument bounds the number of steps. -/
def wordLengths (code : CodeBook) : Nat → Nat → List Nat → Step (List Nat)
  | 0, _, _ => throw .incomplete
  | fuel + 1, left, read => do
    if left = 0 then pure read.reverse
    else
      let s ← code.symbol
      if s < 16 then wordLengths code fuel (left - 1) (s :: read)
      else
        let (repeated, least, extra) ← match s, read with
          | 16, n :: _ => pure (n, 3, 2)
          | 16, [] => throw .corrupt
          | 17, _ => pure (0, 3, 3)
          | _, _ => pure (0, 11, 7)
        let more ← bits extra
        if left < least + more then throw .corrupt
        wordLengths code fuel (left - (least + more))
          (List.replicate (least + more) repeated ++ read)

/-- The transmitted codes of a block: bytes and lengths, and distances. -/
def transmittedCodes : Step (CodeBook × CodeBook) := do
  let literalCount := (← bits 5) + 257
  let distanceCount := (← bits 5) + 1
  let lengthCount := (← bits 4) + 4
  let sizes ← tripleBits lengthCount
  let placed := lengthOrder.zip sizes
  let lengthCode := CodeBook.ofLengths ((List.range 19).map fun i =>
    (placed.lookup i).getD 0)
  if !lengthCode.isUsable 0 then throw .corrupt
  let lengths ← wordLengths lengthCode (literalCount + distanceCount + 1)
    (literalCount + distanceCount) []
  let literals := CodeBook.ofLengths (lengths.take literalCount)
  let distances := CodeBook.ofLengths (lengths.drop literalCount)
  if !distances.isUsable 1 || !literals.isUsable 1 then throw .corrupt
  pure (literals, distances)

/-- Blocks up to the one that is marked as the last. The first argument bounds their number. -/
def blocks : Nat → Step Unit
  | 0 => throw .incomplete
  | fuel + 1 => do
    let last ← bit
    let symbols := 8 * (← get).input.length + 8
    match ← bits 2 with
    | 0 => storedBlock
    | 1 => codedBlock fixedLiterals fixedDistances symbols
    | 2 =>
      let (literals, distances) ← transmittedCodes
      codedBlock literals distances symbols
    | _ => throw .corrupt
    if last = 1 then pure () else blocks fuel

end TreeWire.Inflate

namespace TreeWire

/-- **Decoded data**: the output, and the input that follows the data or the reason to stop. -/
structure Inflated where
  /-- The output. -/
  output : Array UInt8
  /-- The bytes after the data, or why decoding stopped before their end. -/
  ending : Except Inflate.Stop Bytes
  /-- The number of bytes that were read. -/
  consumed : Nat

/-- **Decoding** of compressed data at the front of a byte string. -/
def inflate (bs : Bytes) : Inflated :=
  let fuel := 8 * bs.length + 8
  match Inflate.blocks fuel ⟨bs, 0, 0, #[]⟩ with
  | .ok _ d => ⟨d.output, .ok d.input, bs.length - d.input.length⟩
  | .error stop d => ⟨d.output, .error stop, bs.length - d.input.length⟩

end TreeWire
