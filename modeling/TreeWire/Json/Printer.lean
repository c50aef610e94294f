import TreeWire.Bytes
import TreeWire.Json.Value
import TreeWire.Number.Decimal

/-!
# Printing JSON

The compact text of a value, as it is quoted in messages, and the indented layout of listings.

* `TreeWire.Binary64.jsonText` – floating-point numbers by the fewest digits that read back, plain
  for decimal exponents from -5 to 15 and with an exponent beyond;
* `TreeWire.Json.quoted` – strings: quotes, backslashes and control characters are escaped, all
  other characters stand for themselves;
* `TreeWire.Json.compact` – values without any blanks.
-/

namespace TreeWire

/-! ### Numbers -/

/-- The digits of a plain numeral whose last digit stands at `10 ^ e`, with at least one digit on
each side of the point. -/
def plainNumeral (digits : List Char) (e : Int) : List Char :=
  match e with
  | .ofNat k => digits ++ List.replicate k '0' ++ ['.', '0']
  | .negSucc k =>
    let places := k + 1
    if places < digits.length then
      digits.take (digits.length - places) ++ '.' :: digits.drop (digits.length - places)
    else '0' :: '.' :: List.replicate (places - digits.length) '0' ++ digits

/-- The digits of a numeral with an exponent: one digit before the point, the others after it. -/
def scientificNumeral (digits : List Char) (scientific : Int) : List Char :=
  let fraction := match digits.drop 1 with
    | [] => []
    | ds => '.' :: ds
  let sign := if scientific < 0 then '-' else '+'
  digits.take 1 ++ fraction ++ 'e' :: sign :: Nat.toDigits 10 scientific.natAbs

/-- The text of a finite value: the fewest digits that read back, plain for decimal exponents from
-5 to 15 and with an exponent beyond. Values that are not finite have no numeral. -/
def Binary64.jsonText (x : Binary64) : String :=
  if !x.isFinite then "null"
  else
    let sign := if x.isNegative then ['-'] else []
    if x.isZero then String.ofList (sign ++ "0.0".toList)
    else
      let (n, e) := x.shortest
      let digits := Nat.toDigits 10 n
      let scientific := e + digits.length - 1
      let numeral :=
        if -5 ≤ scientific ∧ scientific ≤ 15 then plainNumeral digits e
        else scientificNumeral digits scientific
      String.ofList (sign ++ numeral)

example : (Binary64.ofDecimal false 1 2).jsonText = "100.0" := by decide +kernel

example : (Binary64.ofDecimal false 5 (-5)).jsonText = "0.00005" := by decide +kernel

example : (Binary64.ofDecimal true 15 (-8)).jsonText = "-1.5e-7" := by decide +kernel

example : (Binary64.ofDecimal false 1 20).jsonText = "1e+20" := by decide +kernel

/-- The text of a number. -/
def Json.Number.text : Json.Number → String
  | .integer n _ => toString n
  | .real x => x.jsonText

/-! ### Strings -/

/-- The characters that stand for a character between quotes. -/
def Json.escapeChar (c : Char) : List Char :=
  if c = '"' then ['\\', '"']
  else if c = '\\' then ['\\', '\\']
  else if c = '\n' then ['\\', 'n']
  else if c = '\r' then ['\\', 'r']
  else if c = '\t' then ['\\', 't']
  else if c = '\x08' then ['\\', 'b']
  else if c = '\x0c' then ['\\', 'f']
  else if c.toNat < 0x20 then
    ['\\', 'u', '0', '0', hexDigit (c.toNat / 16), hexDigit (c.toNat % 16)]
  else [c]

/-- A string between quotes. -/
def Json.quoted (s : String) : String :=
  String.ofList ('"' :: s.toList.flatMap Json.escapeChar ++ ['"'])

/-! ### Values -/

mutual

/-- **The compact text** of a value. -/
def Json.compact : Json → String
  | .null => "null"
  | .bool b => if b then "true" else "false"
  | .number n => n.text
  | .string s => Json.quoted s
  | .array items => "[" ++ ",".intercalate (compactItems items) ++ "]"
  | .object members => "\x7b" ++ ",".intercalate (compactMembers members) ++ "\x7d"

/-- The compact texts of the items of an array. -/
def Json.compactItems : List Json → List String
  | [] => []
  | j :: js => Json.compact j :: Json.compactItems js

/-- The compact texts of the members of an object. -/
def Json.compactMembers : List (String × Json) → List String
  | [] => []
  | (k, j) :: ms => (Json.quoted k ++ ":" ++ Json.compact j) :: Json.compactMembers ms

end

end TreeWire
