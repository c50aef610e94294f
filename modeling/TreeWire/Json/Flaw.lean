import TreeWire.Json.Cursor
import TreeWire.Json.Printer
import TreeWire.Text.Quoted

/-!
# Flaws of JSON input

What can be wrong with a JSON text that is to hold a value of a known shape: it breaks a rule of
the syntax, it holds a value of another shape, or it cannot be read to its end. A refusal names the
cause and the place that a reader had come to, except where the text cannot be read in front of its
value or behind it.

* `TreeWire.Json.Flaw` – the causes, with `TreeWire.Json.Flaw.message` for their wording;
* `TreeWire.Json.Refusal` – a cause with a place, with `TreeWire.Json.Refusal.message`.
-/

namespace TreeWire.Json

/-- **What was found** where a value of another shape was expected. -/
inductive Found where
  /-- The null value. -/
  | null
  /-- A truth value. -/
  | bool (b : Bool)
  /-- A number. -/
  | number (n : Number)
  /-- A string. -/
  | string (s : String)
  /-- An array. -/
  | sequence
  /-- An object. -/
  | map

/-- What a value is found to be. -/
def found : Json → Found
  | .null => .null
  | .bool b => .bool b
  | .number n => .number n
  | .string s => .string s
  | .array _ => .sequence
  | .object _ => .map

/-- The wording of what was found. -/
def Found.text : Found → String
  | null => "null"
  | bool b => "boolean `" ++ (if b then "true" else "false") ++ "`"
  | number (.integer n _) => "integer `" ++ toString n ++ "`"
  | number (.real x) => "floating point `" ++ x.jsonText ++ "`"
  | string s => "string " ++ quoteForMessage s
  | sequence => "sequence"
  | map => "map"

/-- **The causes** for which a JSON text is refused. -/
inductive Flaw where
  /-- The feed broke off. -/
  | broken (reason : String)
  /-- The text ended where a value was expected or begun. -/
  | endInValue
  /-- The text ended inside an array. -/
  | endInList
  /-- The text ended inside an object. -/
  | endInObject
  /-- The text ended inside a string. -/
  | endInString
  /-- No value starts here. -/
  | expectedValue
  /-- A word begun as one of the three known ones goes on differently. -/
  | expectedIdent
  /-- A key without a colon. -/
  | expectedColon
  /-- An item of an array followed by something else than a comma or the end. -/
  | expectedListCommaOrEnd
  /-- A member of an object followed by something else than a comma or the end. -/
  | expectedObjectCommaOrEnd
  /-- A comma before the end of an array or object. -/
  | trailingComma
  /-- Something after the end. -/
  | trailingCharacters
  /-- A key that is no string. -/
  | keyMustBeString
  /-- A numeral against the rules. -/
  | invalidNumber
  /-- A numeral beyond the largest finite value. -/
  | numberOutOfRange
  /-- An unknown escape, or one without its hexadecimal digits. -/
  | invalidEscape
  /-- A leading surrogate that no second escape follows. -/
  | unexpectedEndOfHexEscape
  /-- A surrogate without its partner. -/
  | loneSurrogate
  /-- A string whose bytes encode no text. -/
  | invalidUnicode
  /-- A control character inside a string. -/
  | controlCharacter
  /-- Arrays and objects nested too deeply. -/
  | recursionLimit
  /-- A value of another shape than the expected one. -/
  | invalidType (found : Found) (expected : String)
  /-- Too few items. -/
  | invalidLength (length : Nat) (expected : String)
  /-- A member that has to be there is not. -/
  | missingField (name : String)
  /-- A member is given twice. -/
  | duplicateField (name : String)

/-- **The wording** of a cause. -/
def Flaw.message : Flaw → String
  | broken reason => reason
  | endInValue => "EOF while parsing a value"
  | endInList => "EOF while parsing a list"
  | endInObject => "EOF while parsing an object"
  | endInString => "EOF while parsing a string"
  | expectedValue => "expected value"
  | expectedIdent => "expected ident"
  | expectedColon => "expected `:`"
  | expectedListCommaOrEnd => "expected `,` or `]`"
  | expectedObjectCommaOrEnd => "expected `,` or `\x7d`"
  | trailingComma => "trailing comma"
  | trailingCharacters => "trailing characters"
  | keyMustBeString => "key must be a string"
  | invalidNumber => "invalid number"
  | numberOutOfRange => "number out of range"
  | invalidEscape => "invalid escape"
  | unexpectedEndOfHexEscape => "unexpected end of hex escape"
  | loneSurrogate => "lone leading surrogate in hex escape"
  | invalidUnicode => "invalid unicode code point"
  | controlCharacter => "control character (\\u0000-\\u001F) found while parsing a string"
  | recursionLimit => "recursion limit exceeded"
  | invalidType found expected => "invalid type: " ++ found.text ++ ", expected " ++ expected
  | invalidLength length expected =>
    "invalid length " ++ toString length ++ ", expected " ++ expected
  | missingField name => "missing field `" ++ name ++ "`"
  | duplicateField name => "duplicate field `" ++ name ++ "`"

/-- **Why a text is refused**, and where. -/
structure Refusal where
  /-- The cause. -/
  flaw : Flaw
  /-- The place, if one is known. -/
  place : Option Place := none

/-- **The wording** of a refusal. The place follows the cause. -/
def Refusal.message (r : Refusal) : String :=
  match r.place with
  | some p => r.flaw.message ++ " at " ++ p.text
  | none => r.flaw.message

end TreeWire.Json
