import TreeWire.Json.Numeral

/-!
# Reading JSON

A reader takes what it needs from the front of a feed, or refuses it for the first flaw in the
order of the text. Arrays and objects are read by running a reader for one item or member again and
again, so a reader for values of a known shape reports a value of another shape where it stands,
before anything that comes later.

A flaw of the syntax is found at a place. What is made of the text can be refused as well: a member
is missing, or there are two of it. Such a refusal, and a feed that breaks off, has no place of its
own. It gets the one that the reader of the value around it has come to when it gives up, and that
reader first looks for its closing bracket.

* `TreeWire.Json.Reader` – readers;
* `TreeWire.Json.Reader.fail`, `TreeWire.Json.Reader.refuse`, `TreeWire.Json.Reader.located` –
  refusals with a place, without one, and with the place of the value around them;
* `TreeWire.Json.Reader.items`, `TreeWire.Json.Reader.members` – the insides of arrays and objects,
  given a reader for one item and for the value of one member;
* `TreeWire.Json.Reader.endOfList`, `TreeWire.Json.Reader.endOfObject` – the closing brackets;
* `TreeWire.Json.Reader.value` – any value, nested less deeply than a given limit;
* `TreeWire.Json.Reader.ignored` – a value that is only skipped: its syntax is checked, but not that
  its strings encode texts and its numbers are in range, and it may be nested as deeply as it likes.
-/

namespace TreeWire.Json

/-- **A reader** of values of type `α`. The cursor survives a refusal. -/
abbrev Reader (α : Type) := EStateM Refusal Cursor α

namespace Reader

/-! ### Refusals -/

/-- A refusal at the place that the reader has come to. -/
def fail {α : Type} (flaw : Flaw) : Reader α := fun c => .error ⟨flaw, some c.place⟩ c

/-- A refusal without a place. -/
def refuse {α : Type} (flaw : Flaw) : Reader α := throw ⟨flaw, none⟩

/-- A reader whose refusals have a place: where one has none, it gets the place that the reader has
come to. -/
def located {α : Type} (r : Reader α) : Reader α := fun c =>
  match r c with
  | .ok a c => .ok a c
  | .error e c => .error { e with place := e.place <|> some c.place } c

/-! ### Bytes and tokens -/

/-- The byte at the front, which stays there. -/
def peek : Reader (Option UInt8) := fun c =>
  match c.ahead with
  | some b => .ok (some b) c
  | none =>
    match c.rest with
    | .done => .ok none c
    | .broken reason => .error ⟨.broken reason, none⟩ c
    | .byte b rest => .ok (some b) ⟨c.place.behind b, some b, rest⟩

/-- Takes the byte that has been seen. -/
def advance : Reader Unit := modify fun c => { c with ahead := none }

/-- The byte at the front, which is taken. -/
def next : Reader (Option UInt8) := do
  let b ← peek
  advance
  pure b

/-- The first byte of the next token, which stays there. -/
def peekToken : Reader (Option UInt8) := do
  modify Cursor.dropSeparators
  peek

/-- The first byte of a value, which stays there. -/
def peekValue : Reader UInt8 := do
  match ← peekToken with
  | some b => pure b
  | none => fail .endInValue

/-- The code of an ASCII character. -/
abbrev code (c : Char) : UInt8 := c.toNat.toUInt8

/-- Takes the bytes of a known word. -/
def word : List Char → Reader Unit
  | [] => pure ()
  | c :: cs => do
    match ← next with
    | none => fail .endInValue
    | some b => if b = code c then word cs else fail .expectedIdent

/-! ### Strings -/

/-- The next byte of a string. -/
def nextInString : Reader UInt8 := do
  match ← next with
  | some b => pure b
  | none => fail .endInString

/-- The value of a hexadecimal digit. -/
def hexValue? (b : UInt8) : Option Nat :=
  if code '0' ≤ b ∧ b ≤ code '9' then some (b.toNat - '0'.toNat)
  else if code 'a' ≤ b ∧ b ≤ code 'f' then some (b.toNat - 'a'.toNat + 10)
  else if code 'A' ≤ b ∧ b ≤ code 'F' then some (b.toNat - 'A'.toNat + 10)
  else none

/-- The four hexadecimal digits of an escape. -/
def hexEscape : Reader Nat := do
  let a ← nextInString
  let b ← nextInString
  let c ← nextInString
  let d ← nextInString
  match hexValue? a, hexValue? b, hexValue? c, hexValue? d with
  | some a, some b, some c, some d => pure (((a * 16 + b) * 16 + c) * 16 + d)
  | _, _, _, _ => fail .invalidEscape

/-- Takes the given byte, which has to follow a leading surrogate. -/
def afterSurrogate (c : Char) : Reader Unit := do
  match ← peek with
  | none => fail .endInString
  | some b =>
    advance
    if b = code c then pure () else fail .unexpectedEndOfHexEscape

/-- The character of an escape by code unit; two escapes spell a character that takes two units. -/
def unicodeEscape : Reader Char := do
  let n ← hexEscape
  if 0xDC00 ≤ n ∧ n ≤ 0xDFFF then fail .loneSurrogate
  else if n < 0xD800 ∨ 0xDBFF < n then pure (Char.ofNat n)
  else
    afterSurrogate '\\'
    afterSurrogate 'u'
    let m ← hexEscape
    if m < 0xDC00 ∨ 0xDFFF < m then fail .loneSurrogate
    else pure (Char.ofNat (0x10000 + (n - 0xD800) * 0x400 + (m - 0xDC00)))

/-- The character of an escape by letter. -/
def letterEscape? (b : UInt8) : Option Char :=
  if b = code '"' then some '"'
  else if b = code '\\' then some '\\'
  else if b = code '/' then some '/'
  else if b = code 'b' then some '\x08'
  else if b = code 'f' then some '\x0c'
  else if b = code 'n' then some '\n'
  else if b = code 'r' then some '\r'
  else if b = code 't' then some '\t'
  else none

/-- The character that the bytes after a backslash stand for. -/
def escape : Reader Char := do
  let b ← nextInString
  if b = code 'u' then unicodeEscape
  else
    match letterEscape? b with
    | some c => pure c
    | none => fail .invalidEscape

/-- The bytes of a string up to its closing quote, in front of those already read, which stand in
reverse. What has not been taken at the start of the string bounds the number of steps, since each
one takes a byte. -/
def stringBytes : Feed → Bytes → Reader Bytes
  | .byte _ steps, read => do
    let b ← nextInString
    if b = code '"' then pure read.reverse
    else if b = code '\\' then
      let c ← escape
      stringBytes steps ((utf8 (String.singleton c)).reverse ++ read)
    else if b < 0x20 then fail .controlCharacter
    else stringBytes steps (b :: read)
  | _, _ => do
    let _ ← nextInString
    fail .endInString

/-- The text of a string whose opening quote is already taken. -/
def text : Reader String := do
  let bs ← stringBytes (← get).feed []
  match ofUtf8? bs with
  | some s => pure s
  | none => fail .invalidUnicode

/-- Takes a string whose opening quote is already taken, without looking at what it encodes. What
has not been taken at its start bounds the number of steps. -/
def ignoredText : Feed → Reader Unit
  | .byte _ steps => do
    let b ← nextInString
    if b = code '"' then pure ()
    else if b = code '\\' then
      let e ← nextInString
      if e = code 'u' then
        let _ ← hexEscape
        ignoredText steps
      else
        match letterEscape? e with
        | some _ => ignoredText steps
        | none => fail .invalidEscape
    else if b < 0x20 then fail .controlCharacter
    else ignoredText steps
  | _ => do
    let _ ← nextInString
    fail .endInString

/-! ### Numbers -/

/-- The value of a decimal digit. -/
def digitValue (b : UInt8) : Nat := b.toNat - '0'.toNat

/-- Digits from the front, for as long as the number that they spell behind the digits of another
one stays below a bound, if there is one. What has not been taken bounds the number of steps. -/
def digitsWithin (bound : Option Nat) : Feed → Nat → Reader (List Nat)
  | .byte _ steps, n => do
    match ← peek with
    | some b =>
      if Feed.isDigit b then
        advance
        let n := 10 * n + digitValue b
        if bound.any (· ≤ n) then fail .numberOutOfRange
        else
          let ds ← digitsWithin bound steps n
          pure (digitValue b :: ds)
      else pure []
    | none => pure []
  | _, _ => do
    let _ ← peek
    pure []

/-- The decimal digits at the front. The byte behind them is seen. -/
def digits : Reader (List Nat) := do
  digitsWithin none (← get).feed 0

/-- The digits before the point: a zero, or digits that start with another one. -/
def wholeDigits : Reader (List Nat) := do
  match ← next with
  | none => fail .endInValue
  | some b =>
    if b = code '0' then
      match ← peek with
      | some d => if Feed.isDigit d then fail .invalidNumber else pure [0]
      | none => pure [0]
    else if Feed.isDigit b then
      let ds ← digits
      pure (digitValue b :: ds)
    else fail .invalidNumber

/-- The fraction, if a point is at the front. -/
def fractionDigits : Reader (Option (List Nat)) := do
  match ← peek with
  | some b =>
    if b = code '.' then
      advance
      let ds ← digits
      match ← peek with
      | some _ => if ds = [] then fail .invalidNumber else pure (some ds)
      | none => if ds = [] then fail .endInValue else pure (some ds)
    else pure none
  | none => pure none

/-- The sign at the front of an exponent. -/
def exponentSign : Reader Bool := do
  match ← peek with
  | some b =>
    if b = code '+' then do advance; pure false
    else if b = code '-' then do advance; pure true
    else pure false
  | none => pure false

/-- The exponent, if its mark is at the front. One that is not negative may be bounded. -/
def exponentDigits (bound : Option Nat) : Reader (Option (Bool × List Nat)) := do
  match ← peek with
  | some b =>
    if b = code 'e' ∨ b = code 'E' then
      advance
      let negative ← exponentSign
      match ← next with
      | none => fail .endInValue
      | some d =>
        if Feed.isDigit d then
          let ds ← digitsWithin (if negative then none else bound) (← get).feed (digitValue d)
          pure (some (negative, digitValue d :: ds))
        else fail .invalidNumber
    else pure none
  | none => pure none

/-- A number whose sign, if any, is already taken. With digits that do not all vanish, an exponent
that does not fit 32 bits is refused at the digit that is too much. -/
def number (negative : Bool) : Reader Number := do
  let whole ← wholeDigits
  let fraction ← fractionDigits
  let vanishes := (Numeral.significand ⟨negative, whole, fraction, none⟩).1 = 0
  let exponent ← exponentDigits (if vanishes then none else some 0x80000000)
  match Numeral.value ⟨negative, whole, fraction, exponent⟩ with
  | .ok n => pure n
  | .error flaw => fail flaw

/-- Takes a number whose sign, if any, is already taken, without computing its value. Where digits
are missing at the end of the text the number counts as malformed. -/
def ignoredNumber : Reader Unit := do
  let parts : Reader Unit := do
    let _ ← wholeDigits
    let _ ← fractionDigits
    let _ ← exponentDigits none
  fun c =>
    match parts c with
    | .error ⟨.endInValue, place⟩ c => .error ⟨.invalidNumber, place⟩ c
    | outcome => outcome

/-! ### Arrays and objects -/

/-- Whether another item of an array follows, whose first byte is then seen. -/
def hasItem (first : Bool) : Reader Bool := do
  match ← peekToken with
  | none => fail .endInList
  | some b =>
    if b = code ']' then pure false
    else if first then pure true
    else if b = code ',' then
      advance
      match ← peekToken with
      | none => fail .endInValue
      | some b => if b = code ']' then fail .trailingComma else pure true
    else fail .expectedListCommaOrEnd

/-- The items of an array up to its closing bracket, after those already read, which stand in
reverse. What has not been taken at the start of the array bounds the number of steps, since each
one takes a byte. -/
def itemsLoop {α : Type} (item : Reader α) : Feed → Bool → List α → Reader (List α)
  | .byte _ steps, first, read => do
    if ← hasItem first then
      let a ← item
      itemsLoop item steps false (a :: read)
    else pure read.reverse
  | _, first, _ => do
    let _ ← hasItem first
    fail .endInList

/-- **The items of an array** whose opening bracket is already taken, each read by `item`. The
closing bracket is left. -/
def items {α : Type} (item : Reader α) : Reader (List α) := do
  itemsLoop item (← get).feed true []

/-- **The closing bracket of an array.** -/
def endOfList : Reader Unit := do
  match ← peekToken with
  | none => fail .endInList
  | some b =>
    if b = code ']' then advance
    else if b = code ',' then
      advance
      -- a feed that breaks off behind the comma is no reason of its own
      fun c => match peekToken c with
        | .ok (some b) c =>
          fail (if b = code ']' then .trailingComma else .trailingCharacters) c
        | .ok none c => fail .trailingCharacters c
        | .error _ c => fail .trailingCharacters c
    else fail .trailingCharacters

/-- Whether another member of an object follows, whose opening quote is then taken. -/
def hasMember (first : Bool) : Reader Bool := do
  match ← peekToken with
  | none => fail .endInObject
  | some b =>
    if b = code '\x7d' then pure false
    else if first then
      if b = code '"' then do advance; pure true else fail .keyMustBeString
    else if b = code ',' then
      advance
      match ← peekToken with
      | none => fail .endInValue
      | some b =>
        if b = code '"' then do advance; pure true
        else if b = code '\x7d' then fail .trailingComma
        else fail .keyMustBeString
    else fail .expectedObjectCommaOrEnd

/-- Takes the colon after a key. -/
def colon : Reader Unit := do
  match ← peekToken with
  | none => fail .endInObject
  | some b => if b = code ':' then advance else fail .expectedColon

/-- The members of an object up to its closing brace, each taken into the state by `member`. What
has not been taken at the start of the object bounds the number of steps. -/
def membersLoop {σ : Type} (member : String → σ → Reader σ) : Feed → Bool → σ → Reader σ
  | .byte _ steps, first, s => do
    if ← hasMember first then
      let key ← text
      let s ← member key s
      membersLoop member steps false s
    else pure s
  | _, first, _ => do
    let _ ← hasMember first
    fail .endInObject

/-- **The members of an object** whose opening brace is already taken, each taken into the state by
`member`, which starts at the colon. The closing brace is left. -/
def members {σ : Type} (member : String → σ → Reader σ) (s : σ) : Reader σ := do
  membersLoop member (← get).feed true s

/-- **The closing brace of an object.** -/
def endOfObject : Reader Unit := do
  match ← peekToken with
  | none => fail .endInObject
  | some b =>
    if b = code '\x7d' then advance
    else if b = code ',' then fail .trailingComma
    else fail .trailingCharacters

/-- What stands inside brackets, and the closing bracket. This is looked for even if what is inside
is refused, and then only moves the cursor. -/
def closedBy {α : Type} (close : Reader Unit) (inside : Reader α) : Reader α := fun c =>
  match inside c with
  | .ok a c =>
    match close c with
    | .ok () c => .ok a c
    | .error e c => .error e c
  | .error e c =>
    match close c with
    | .ok () c => .error e c
    | .error _ c => .error e c

/-- A reader for what stands inside brackets, of which the opening one is seen, given the nesting
that is left outside. -/
def nested {α : Type} (depth : Nat) (close : Reader Unit) (inside : Nat → Reader α) : Reader α :=
  match depth - 1 with
  | 0 => fail .recursionLimit
  | d + 1 => do
    advance
    closedBy close (inside (d + 1))

/-! ### Values -/

/-- A value that is neither array nor object, by its first byte. -/
def scalar? (b : UInt8) : Option (Reader Json) :=
  if b = code 'n' then some do advance; word "ull".toList; pure .null
  else if b = code 't' then some do advance; word "rue".toList; pure (.bool true)
  else if b = code 'f' then some do advance; word "alse".toList; pure (.bool false)
  else if b = code '-' then some do advance; .number <$> number true
  else if Feed.isDigit b then some (.number <$> number false)
  else if b = code '"' then some do advance; .string <$> text
  else none

/-- **Any value**; arrays and objects may be nested less deeply than `depth`. -/
def value : Nat → Reader Json
  | 0 => fail .recursionLimit
  | depth + 1 => do
    let b ← peekValue
    located <|
      match scalar? b with
      | some r => r
      | none =>
        if b = code '[' then
          if depth = 0 then fail .recursionLimit
          else do
            advance
            .array <$> closedBy endOfList (items (value depth))
        else if b = code '\x7b' then
          if depth = 0 then fail .recursionLimit
          else do
            advance
            let read ← closedBy endOfObject (members (fun key read => do
              colon
              let v ← value depth
              pure ((key, v) :: read)) [])
            pure (Json.ofMembers read.reverse)
        else fail .expectedValue

/-- Reports the value at the front as one of another shape than expected. A value that breaks a
rule of the syntax is reported for that; of arrays and objects only the bracket is looked at. -/
def wrongType {α : Type} (expected : String) : Reader α := do
  let b ← peekValue
  match scalar? b with
  | some r =>
    let j ← r
    fail (.invalidType j.found expected)
  | none =>
    if b = code '[' then fail (.invalidType .sequence expected)
    else if b = code '\x7b' then fail (.invalidType .map expected)
    else fail .expectedValue

/-- A string. -/
def stringValue : Reader String := do
  let b ← peekValue
  located (if b = code '"' then do advance; text else wrongType "a string")

/-- An array whose items are read by `item`, which is given the nesting that is left. -/
def listValue {α : Type} (depth : Nat) (item : Nat → Reader α) : Reader (List α) := do
  let b ← peekValue
  located <|
    if b = code '[' then nested depth endOfList fun d => items (item d)
    else wrongType "a sequence"

/-! ### Skipped values -/

/-- The brackets around a skipped value. -/
inductive Bracket where
  /-- An array. -/
  | square
  /-- An object. -/
  | brace
  deriving DecidableEq

/-- Takes the key and the colon of a member that is skipped. -/
def ignoredKey : Reader Unit := do
  match ← peekToken with
  | none => fail .endInObject
  | some b =>
    if b = code '"' then
      advance
      ignoredText (← get).feed
      colon
    else fail .keyMustBeString

mutual

/-- Takes a value that is skipped, and the rest of what is open around it. The first argument
bounds the number of steps. -/
def ignoredValue : Nat → List Bracket → Reader Unit
  | 0, _ => fail .endInValue
  | fuel + 1, enclosing => do
    let b ← peekValue
    if b = code '[' then do advance; ignoredRest fuel true .square enclosing
    else if b = code '\x7b' then do advance; ignoredRest fuel true .brace enclosing
    else
      if b = code 'n' then do advance; word "ull".toList
      else if b = code 't' then do advance; word "rue".toList
      else if b = code 'f' then do advance; word "alse".toList
      else if b = code '-' then do advance; ignoredNumber
      else if Feed.isDigit b then ignoredNumber
      else if b = code '"' then
        advance
        ignoredText (← get).feed
      else fail .expectedValue
      match enclosing with
      | [] => pure ()
      | bracket :: enclosing => ignoredRest fuel false bracket enclosing

/-- Takes the rest of an array or object that is skipped: at its start, or after one of its items
or members. -/
def ignoredRest : Nat → Bool → Bracket → List Bracket → Reader Unit
  | 0, _, _, _ => fail .endInValue
  | fuel + 1, atStart, bracket, enclosing => do
    let close := match bracket with
      | .square => code ']'
      | .brace => code '\x7d'
    match ← peekToken with
    | none => fail (match bracket with
      | .square => .endInList
      | .brace => .endInObject)
    | some b =>
      if b = close then
        advance
        match enclosing with
        | [] => pure ()
        | outer :: enclosing => ignoredRest fuel false outer enclosing
      else
        if atStart then pure ()
        else if b = code ',' then advance
        else fail (match bracket with
          | .square => .expectedListCommaOrEnd
          | .brace => .expectedObjectCommaOrEnd)
        if bracket = .brace then ignoredKey
        ignoredValue fuel (bracket :: enclosing)

end

/-- **A value that is only skipped.** -/
def ignored : Reader Unit := do
  let c ← get
  ignoredValue (2 * c.feed.size + 2) []

/-! ### Whole texts -/

/-- The nesting that a document may have, itself included, stays below this number. -/
def depthLimit : Nat := 128

/-- What a reader makes of a whole feed, in which nothing but separators may follow. -/
def readAll {α : Type} (r : Reader α) (f : Feed) : Except Refusal α :=
  let whole : Reader α := do
    let a ← r
    match ← peekToken with
    | none => pure a
    | some _ => fail .trailingCharacters
  match whole (.start f) with
  | .ok a _ => .ok a
  | .error e _ => .error e

end Reader

end TreeWire.Json
