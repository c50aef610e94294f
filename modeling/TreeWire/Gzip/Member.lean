import TreeWire.Gzip.Crc32
import TreeWire.Gzip.Inflate
import TreeWire.Json.Feed

/-!
# Gzip members

A compressed file is read as one member: a header, compressed data, and a trailer with the check
value and the length of the output. Whatever follows the member is not looked at. A file that is
damaged still feeds what stands before the damage, and breaks off there.

* `TreeWire.Gzip.Header.read` – the header and where the data start;
* `TreeWire.Gzip.unpack` – the feed of a compressed file.
-/

namespace TreeWire.Gzip

/-- **What can be wrong** with a compressed file. -/
inductive Damage where
  /-- The header is not that of a gzip member. -/
  | badHeader
  /-- A text in the header is too long. -/
  | longField
  /-- The file ends inside the header or the trailer. -/
  | endOfFile
  /-- The file ends inside the compressed data. -/
  | endOfData
  /-- The compressed data break a rule of their format. -/
  | corruptData
  /-- The check values differ. -/
  | checksum
  deriving DecidableEq, Repr

/-- The wording of a damage. -/
def Damage.message : Damage → String
  | badHeader => "invalid gzip header"
  | longField => "gzip header field too long"
  | endOfFile => "unexpected end of file"
  | endOfData => "incomplete deflate stream"
  | corruptData => "corrupt deflate stream"
  | checksum => "corrupt gzip stream does not have a matching checksum"

/-- The number that bytes spell, low byte first. -/
def littleEndian : Bytes → Nat
  | [] => 0
  | b :: bs => b.toNat + 256 * littleEndian bs

/-- The given number of bytes at the front, and the rest. -/
def split (n : Nat) (bs : Bytes) : Except Damage (Bytes × Bytes) :=
  if bs.length < n then .error .endOfFile else .ok (bs.take n, bs.drop n)

/-- The greatest length of a text in the header. -/
def longestField : Nat := 65535

/-- The bytes of a text up to the zero byte that ends it, that byte included, and the rest. -/
def untilZero : Nat → Bytes → Except Damage (Bytes × Bytes)
  | _, [] => .error .endOfFile
  | room, b :: bs =>
    if b = 0 then .ok ([b], bs)
    else match room with
      | 0 => .error .longField
      | room + 1 => do
        let (text, rest) ← untilZero room bs
        .ok (b :: text, rest)

/-- Whether a flag byte holds a bit. -/
def hasFlag (flags : UInt8) (mask : UInt8) : Bool := flags &&& mask != 0

/-- **The header** at the front of a file, and the bytes after it. The optional parts are an extra
field, a file name, a comment and a check value of the header. -/
def readHeader (bs : Bytes) : Except Damage (Bytes × Bytes) := do
  let (start, rest) ← split 10 bs
  match start with
  | 0x1F :: 0x8B :: 8 :: flags :: _ =>
    if hasFlag flags 0xE0 then throw .badHeader
    let (extra, rest) ←
      if hasFlag flags 0x04 then do
        let (size, rest) ← split 2 rest
        let (field, rest) ← split (littleEndian size) rest
        pure (size ++ field, rest)
      else pure ([], rest)
    let (name, rest) ← if hasFlag flags 0x08 then untilZero longestField rest else pure ([], rest)
    let (comment, rest) ← if hasFlag flags 0x10 then untilZero longestField rest
      else pure ([], rest)
    let header := start ++ extra ++ name ++ comment
    if hasFlag flags 0x02 then
      let (check, rest) ← split 2 rest
      if littleEndian check = (crc32 header).toNat % 65536 then pure (header ++ check, rest)
      else throw .checksum
    else pure (header, rest)
  | _ => throw .badHeader

/-- The size of the pieces in which a file is read. -/
def pieceSize : Nat := 8192

/-- The size of the window through which output is handed on. -/
def windowSize : Nat := 32768

/-- The output that is handed on before corrupt data are noticed. Output is handed on by windows
and whenever a piece of the file has been used up, so that of the piece and window in which the
damage lies nothing is seen. `header` is the size of the header and `consumed` the number of
bytes of data that were read up to the damage. -/
def handedOn (header consumed : Nat) (data : Bytes) (output : Array UInt8) : Bytes :=
  let windows := output.size / windowSize * windowSize
  let pieces := (header + consumed - 1) / pieceSize * pieceSize
  let usedUp := (inflate (data.take (pieces - header))).output.size
  (output.extract 0 (max windows usedUp)).toList

/-- **The feed of a compressed file.** -/
def unpack (bs : Bytes) : Feed :=
  match readHeader bs with
  | .error damage => .broken damage.message
  | .ok (header, data) =>
    let inflated := inflate data
    match inflated.ending with
    | .error .incomplete => .append inflated.output.toList (.broken Damage.endOfData.message)
    | .error .corrupt =>
      .append (handedOn header.length inflated.consumed data inflated.output)
        (.broken Damage.corruptData.message)
    | .ok rest =>
      let output := inflated.output.toList
      let ending : Feed :=
        match split 8 rest with
        | .error damage => .broken damage.message
        | .ok (trailer, _) =>
          if littleEndian (trailer.take 4) = (crc32 output).toNat ∧
              littleEndian (trailer.drop 4) = output.length % 0x100000000 then .done
          else .broken Damage.checksum.message
      .append output ending

end TreeWire.Gzip
