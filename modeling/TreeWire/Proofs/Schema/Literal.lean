import TreeWire.Proofs.Listing
import TreeWire.Schema.Printer
import TreeWire.Text.Items

/-!
# String literals of schema text

The language of schemas has more escape sequences than a schema that is written here makes use of:
a backslash stands in front of a letter or a mark, of up to three octal digits, of an `x` with one
or two hexadecimal digits, or of a `u` or `U` with four or eight. All other characters of a literal
stand for themselves, but for three: a zero character and a line feed are not allowed at all, and a
quote ends the literal. What a literal stands for is a byte string, since the digits name bytes.

Branch names are any texts. What is written for one stands for its encoding, and ends where the
closing quote is put, whatever the name holds and whatever follows – as long as there is no zero
character in the name, which is written as it is.

* `TreeWire.Schema.escape?` – the escape sequence behind a backslash;
* `TreeWire.Schema.ReadsLiteral` – **what a literal stands for**, up to the quote that closes it;
* `TreeWire.Schema.readsLiteral_escapeLiteralChar_append_iff` – one character of a name;
* `TreeWire.Schema.readsLiteral_escapeLiteral_iff` – **the literal of a branch name.**
-/

namespace TreeWire

namespace Schema

/-! ### Escape sequences -/

/-- What a letter or a mark behind a backslash stands for. -/
def letterEscapes : List (Char × Char) :=
  [('a', '\x07'), ('b', '\x08'), ('f', '\x0c'), ('n', '\n'), ('r', '\r'), ('t', '\t'),
    ('v', '\x0b'), ('\\', '\\'), ('\x27', '\x27'), ('"', '"'), ('?', '?')]

/-- The value of a digit in a base, which is sixteen at most. -/
def digit? (base : Nat) (c : Char) : Option Nat :=
  let value :=
    if c.isDigit then c.toNat - '0'.toNat
    else if 'a' ≤ c ∧ c ≤ 'f' then c.toNat - 'a'.toNat + 10
    else if 'A' ≤ c ∧ c ≤ 'F' then c.toNat - 'A'.toNat + 10
    else base
  if value < base then some value else none

/-- The digits at the front of a text, of which no more than a number are taken, and the rest. -/
def digits (base : Nat) : Nat → List Char → List Nat × List Char
  | 0, cs => ([], cs)
  | _ + 1, [] => ([], [])
  | atMost + 1, c :: cs =>
    match digit? base c with
    | some d => (d :: (digits base atMost cs).1, (digits base atMost cs).2)
    | none => ([], c :: cs)

/-- The number that digits spell. -/
def number (base : Nat) (ds : List Nat) : Nat := ds.foldl (fun n d => base * n + d) 0

/-- A byte by its digits, of which there is at least one. -/
def byteEscape? (base atMost : Nat) : Taker Bytes := fun cs =>
  match digits base atMost cs with
  | ([], _) => none
  | (ds, rest) => some ([UInt8.ofNat (number base ds)], rest)

/-- A character by its code point, in just so many digits. -/
def codePointEscape? (count : Nat) : Taker Bytes := fun cs =>
  let (ds, rest) := digits 16 count cs
  if ds.length = count ∧ (number 16 ds).isValidChar then
    some (utf8 (String.singleton (Char.ofNat (number 16 ds))), rest)
  else none

/-- **The escape sequence behind a backslash**: the bytes that it stands for, and the rest. -/
def escape? : Taker Bytes
  | [] => none
  | c :: cs =>
    match letterEscapes.lookup c with
    | some d => some (utf8 (String.singleton d), cs)
    | none =>
      if c = 'x' ∨ c = 'X' then byteEscape? 16 2 cs
      else if c = 'u' then codePointEscape? 4 cs
      else if c = 'U' then codePointEscape? 8 cs
      else byteEscape? 8 3 (c :: cs)

example : escape? "n1".toList = some ([10], ['1']) ∧ escape? "x4g".toList = some ([4], ['g']) ∧
    escape? "1018".toList = some ([65], ['8']) ∧ escape? "u00e9".toList = some ([0xC3, 0xA9], []) ∧
    escape? "u00e".toList = none ∧ escape? "q".toList = none := by
  decide

/-! ### Literals -/

/-- **What a literal stands for.** The text begins behind the quote that opens the literal; the rest
is what follows the quote that closes it. -/
inductive ReadsLiteral : List Char → Bytes → List Char → Prop
  /-- A quote ends the literal. -/
  | close (rest : List Char) : ReadsLiteral ('"' :: rest) [] rest
  /-- A character that stands for itself. -/
  | plain {c : Char} {cs rest : List Char} {value : Bytes} (noZero : c ≠ '\x00')
    (noFeed : c ≠ '\n') (noQuote : c ≠ '"') (noBackslash : c ≠ '\\')
    (later : ReadsLiteral cs value rest) :
    ReadsLiteral (c :: cs) (utf8 (String.singleton c) ++ value) rest
  /-- An escape sequence. -/
  | escape {cs more rest : List Char} {meaning value : Bytes}
    (here : escape? cs = some (meaning, more)) (later : ReadsLiteral more value rest) :
    ReadsLiteral ('\\' :: cs) (meaning ++ value) rest

section Literals

variable {c d : Char} {cs rest : List Char} {value : Bytes}

theorem readsLiteral_close_iff :
    ReadsLiteral ('"' :: cs) value rest ↔ value = [] ∧ rest = cs := by
  constructor
  · rintro (_ | ⟨_, _, noQuote, _, _⟩)
    · exact ⟨rfl, rfl⟩
    · exact absurd rfl noQuote
  · rintro ⟨rfl, rfl⟩
    exact .close _

/-- A character that is not escaped stands for itself, if it may stand there. -/
theorem readsLiteral_cons_iff (noQuote : c ≠ '"') (noBackslash : c ≠ '\\') :
    ReadsLiteral (c :: cs) value rest ↔ (c ≠ '\x00' ∧ c ≠ '\n') ∧
      ∃ more, ReadsLiteral cs more rest ∧ value = utf8 (String.singleton c) ++ more := by
  constructor
  · rintro (_ | ⟨noZero, noFeed, _, _, later⟩ | ⟨_, _⟩)
    · exact absurd rfl noQuote
    · exact ⟨⟨noZero, noFeed⟩, _, later, rfl⟩
    · exact absurd rfl noBackslash
  · rintro ⟨⟨noZero, noFeed⟩, more, later, rfl⟩
    exact .plain noZero noFeed noQuote noBackslash later

/-- A letter or a mark behind a backslash stands for another one. -/
theorem readsLiteral_escape_iff (known : letterEscapes.lookup d = some c) :
    ReadsLiteral ('\\' :: d :: cs) value rest ↔
      ∃ more, ReadsLiteral cs more rest ∧ value = utf8 (String.singleton c) ++ more := by
  have taken : escape? (d :: cs) = some (utf8 (String.singleton c), cs) := by
    rw [escape?, known]
  constructor
  · rintro (_ | ⟨_, _, _, noBackslash, _⟩ | ⟨here, later⟩)
    · exact absurd rfl noBackslash
    · obtain ⟨rfl, rfl⟩ := Prod.mk.inj (Option.some.inj (taken.symm.trans here))
      exact ⟨_, later, rfl⟩
  · rintro ⟨more, later, rfl⟩
    exact .escape taken later

/-- **One character of a branch name** is read back, whatever follows it, if it is no zero
character. -/
theorem readsLiteral_escapeLiteralChar_append_iff :
    ReadsLiteral (escapeLiteralChar c ++ cs) value rest ↔ c ≠ '\x00' ∧
      ∃ more, ReadsLiteral cs more rest ∧ value = utf8 (String.singleton c) ++ more := by
  unfold escapeLiteralChar
  by_cases quote : c = '"'
  · subst quote
    rw [if_pos rfl]
    exact (readsLiteral_escape_iff rfl).trans (iff_and_self.mpr fun _ => by decide)
  rw [if_neg quote]
  by_cases backslash : c = '\\'
  · subst backslash
    rw [if_pos rfl]
    exact (readsLiteral_escape_iff rfl).trans (iff_and_self.mpr fun _ => by decide)
  rw [if_neg backslash]
  by_cases feed : c = '\n'
  · subst feed
    rw [if_pos rfl]
    exact (readsLiteral_escape_iff rfl).trans (iff_and_self.mpr fun _ => by decide)
  rw [if_neg feed]
  refine (readsLiteral_cons_iff quote backslash).trans (and_congr_left fun _ => ?_)
  exact and_iff_left feed

end Literals

/-- The encoding of a text goes character by character. -/
theorem utf8_ofList_cons (c : Char) (cs : List Char) :
    utf8 (String.ofList (c :: cs)) = utf8 (String.singleton c) ++ utf8 (String.ofList cs) := by
  have split : String.ofList (c :: cs) = String.singleton c ++ String.ofList cs := by
    rw [← String.toList_inj, String.toList_append]
    simp
  rw [split]
  simp [utf8, String.toByteArray_append, ByteArray.data_append]

/-- **The literal of a branch name.** Whatever the name is and whatever follows, what stands between
the quotes is a literal if and only if there is no zero character in the name; then the literal
stands for the encoding of the name, and it ends at the quote that is put behind it. -/
theorem readsLiteral_escapeLiteral_iff (branch : String) (behind rest : List Char)
    (value : Bytes) :
    ReadsLiteral (escapeLiteral branch.toList ++ '"' :: behind) value rest ↔
      '\x00' ∉ branch.toList ∧ value = utf8 branch ∧ rest = behind := by
  obtain ⟨cs, rfl⟩ : ∃ cs, branch = String.ofList cs := ⟨_, (String.ofList_toList).symm⟩
  rw [String.toList_ofList]
  induction cs generalizing value with
  | nil => exact readsLiteral_close_iff.trans (by simp [utf8])
  | cons c cs ih =>
    rw [escapeLiteral, List.flatMap_cons, List.append_assoc, ← escapeLiteral,
      readsLiteral_escapeLiteralChar_append_iff, utf8_ofList_cons, List.mem_cons, not_or]
    simp only [ih]
    constructor
    · rintro ⟨noZero, _, ⟨others, rfl, rfl⟩, rfl⟩
      exact ⟨⟨noZero.symm, others⟩, rfl, rfl⟩
    · rintro ⟨⟨noZero, others⟩, rfl, rfl⟩
      exact ⟨Ne.symm noZero, _, ⟨others, rfl, rfl⟩, rfl⟩

/-- A store with a dump whose only branch has a name of one zero character. -/
def zeroStore : Store :=
  ⟨[(["d.json"], .file (utf8 ("[[[\"t\",[\x7b\"name\":\"\\u0000\"," ++
    "\"leaf_type\":\"Int_t\",\"values\":[1]\x7d]]]]")))]⟩

/-- The document of its tree. -/
def zeroDocument : Document where
  package := "zeros"
  message := "Zeros"
  fields := [⟨"_", .scalar .int32, 1, "\x00", false⟩]
  isPackage_package := by decide
  isIdentifier_message := by decide
  message_ne := by decide

/-- **A zero character** in the name of a branch is written as it is, and no literal holds one. -/
theorem readsLiteral_misses_zero :
    Source.emission zeroStore "/" "d.json" "t" (.parse "") .start = .ok zeroDocument.fields ∧
    zeroDocument.fields.map (fun f => String.ofList f.line) =
      ["  optional int32 _ = 1 [(source_branch) = \"\x00\"];"] ∧
    ∀ behind rest value,
      ¬ ReadsLiteral (escapeLiteral "\x00".toList ++ '"' :: behind) value rest := by
  refine ⟨by decide +kernel, by decide +kernel, fun behind rest value read => ?_⟩
  exact (readsLiteral_escapeLiteralChar_append_iff.mp read).1 rfl

end Schema

end TreeWire
