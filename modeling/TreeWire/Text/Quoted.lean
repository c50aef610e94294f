import TreeWire.Text.Printable

/-!
# Texts quoted in messages

A text inside a message stands between quotes; quotes, backslashes and characters that do not show
by themselves are escaped in it.

* `TreeWire.quoteForMessage` – the quoted text.
-/

namespace TreeWire

/-- The hexadecimal digits of a code point, lower case, without leading zeros. -/
def codePointDigits (n : Nat) : List Char := Nat.toDigits 16 n

/-- The characters that stand for a character of a quoted text. -/
def quoteChar (c : Char) : List Char :=
  if c = '"' then ['\\', '"']
  else if c = '\\' then ['\\', '\\']
  else if c = '\n' then ['\\', 'n']
  else if c = '\r' then ['\\', 'r']
  else if c = '\t' then ['\\', 't']
  else if c = '\x00' then ['\\', '0']
  else if isPrintable c then [c]
  else '\\' :: 'u' :: '\x7b' :: codePointDigits c.toNat ++ ['\x7d']

/-- **A text between quotes**, as messages show it. -/
def quoteForMessage (s : String) : String :=
  String.ofList ('"' :: s.toList.flatMap quoteChar ++ ['"'])

end TreeWire
