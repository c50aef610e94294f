import TreeWire.Bytes

/-!
# Feeds

The input of a reader that takes one byte at a time. A feed ends, or it breaks off with a reason:
the reader of a compressed file learns of a damaged file only when it asks for a byte that is not
there. So whatever a reader rejects before that byte is reported first.

* `TreeWire.Feed` – the bytes, and how they end;
* `TreeWire.Feed.ofBytes` – the feed of a byte string.
-/

namespace TreeWire

/-- **A feed of bytes**, which ends or breaks off. -/
inductive Feed where
  /-- The end. -/
  | done
  /-- The place where it breaks off, and why. -/
  | broken (reason : String)
  /-- One more byte. -/
  | byte (b : UInt8) (rest : Feed)
  deriving DecidableEq

namespace Feed

/-- A byte string in front of a feed. -/
def append : Bytes → Feed → Feed
  | [], f => f
  | b :: bs, f => byte b (append bs f)

/-- The feed of a byte string, which ends after it. -/
def ofBytes (bs : Bytes) : Feed := append bs done

/-- The number of bytes. -/
def size : Feed → Nat
  | done => 0
  | broken _ => 0
  | byte _ rest => rest.size + 1

/-- The four bytes that separate tokens: space, tab, line feed and carriage return. -/
def isSeparator (b : UInt8) : Bool := b == 0x20 || b == 0x09 || b == 0x0A || b == 0x0D

/-- Whether a byte is a decimal digit. -/
def isDigit (b : UInt8) : Bool := 0x30 ≤ b && b ≤ 0x39

end Feed

end TreeWire
