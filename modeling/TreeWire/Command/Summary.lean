import TreeWire.Command.Failure
import TreeWire.Conversion
import TreeWire.Digest

/-!
# Summaries of data files

What is printed about a data file that has been written: its size and checksum are those of the
file itself.

* `TreeWire.sizeText` – a number of bytes with a unit;
* `TreeWire.fileChecksum` – the checksum of a file;
* `TreeWire.Report.summary` – the lines of a summary.
-/

namespace TreeWire

/-! ### Sizes -/

/-- The units of sizes, each of which is 1024 times the one before it. -/
def sizeUnits : List String := ["KiB", "MiB", "GiB", "TiB", "PiB", "EiB", "ZiB", "YiB"]

/-- The largest unit of which a size holds at least one, and its number of bytes, among units of
which the first one has so many bytes. -/
def sizeUnit (n : Nat) : Nat → List String → Option (String × Nat)
  | _, [] => none
  | bytes, unit :: units =>
    if n < bytes then none else (sizeUnit n (1024 * bytes) units).or (some (unit, bytes))

/-- Two digits. -/
def twoDigits (n : Nat) : String := String.ofList [Nat.digitChar (n / 10), Nat.digitChar (n % 10)]

/-- **A number of bytes with a unit.** From 1024 bytes on there are two decimal places, and a half
goes to the even neighbour. -/
def sizeText (n : Nat) : String :=
  match sizeUnit n 1024 sizeUnits with
  | none => toString n ++ " B"
  | some (unit, bytes) =>
    let hundredths := Format.roundEven (100 * n) bytes
    toString (hundredths / 100) ++ "." ++ twoDigits (hundredths % 100) ++ " " ++ unit

example : sizeText 1023 = "1023 B" ∧ sizeText 1024 = "1.00 KiB" := by decide +kernel

example : sizeText 1048575 = "1024.00 KiB" ∧ sizeText 1048576 = "1.00 MiB" := by decide +kernel

/-! ### Checksums -/

/-- **The checksum of a file.** -/
def fileChecksum (s : Store) (workingDirectory path : String) : Except Fault String := do
  let bs ← (s.read workingDirectory path).mapError Fault.io
  .ok (hexText (sha256 bs))

/-! ### Summaries -/

/-- **The lines of a summary.** -/
def Report.summary (r : Report) (s : Store) (workingDirectory : String) :
    Except Fault (List String) := do
  let checksum ← fileChecksum s workingDirectory r.output
  let bs ← (s.read workingDirectory r.output).mapError Fault.io
  .ok ["Data file:",
    "  Path:     " ++ r.output,
    "  Message:  " ++ r.written.message,
    "  Entries:  " ++ toString r.written.entries,
    "  Size:     " ++ sizeText bs.length,
    "  SHA-256:  " ++ checksum]

/-- Printing a summary. -/
def Report.print (r : Report) (h : Host) : Task Command.Failure Unit := do
  let lines ← (Task.look fun s => r.summary s h.workingDirectory).mapFault Command.Failure.ofFault
  lines.forM Task.print

end TreeWire
