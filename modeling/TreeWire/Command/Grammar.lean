import TreeWire.Text.Split

/-!
# Command lines

A command line is a list of words. Options have long names after two dashes, and some have a letter
after a single one; letters of flags can stand together. A value follows its option as the next
word, or in the same word, after an equals sign or directly after a letter. The next word is a value
only if it does not start with a dash.

* `TreeWire.Command.OptionSpec` – the options of a command;
* `TreeWire.Command.Given` – the options that were given;
* `TreeWire.Command.scan` – the options in front of the first other word, and the words from there
  on.

A command line is read from the left, and the first word that decides ends the reading: one that
breaks a rule, or one that asks for help.
-/

namespace TreeWire.Command

/-! ### Options -/

/-- **Why a command line is not carried out.** -/
inductive Stop where
  /-- It breaks a rule. -/
  | refused
  /-- It asks for help. -/
  | help
  /-- It asks for the version. -/
  | version
  deriving DecidableEq, Repr

/-- What an option does. -/
inductive Effect where
  /-- It has a value and can be given once. -/
  | value
  /-- It has a value and can be given more than once. -/
  | values
  /-- It has no value and can be given once. -/
  | flag
  /-- It ends the reading. -/
  | stop (reason : Stop)
  deriving DecidableEq, Repr

/-- Whether an option has a value. -/
def Effect.hasValue : Effect → Bool
  | value | values => true
  | _ => false

/-- **An option.** -/
structure OptionSpec where
  /-- The long name, without dashes. -/
  name : String
  /-- The letter. -/
  letter : Option Char := none
  /-- What it does. -/
  effect : Effect := .value
  /-- Whether negative numbers are values although they start with a dash. -/
  negative : Bool := false
  /-- Whether a text is one of its values. -/
  accepts : String → Bool := fun _ => true

/-- **The options that were given**, with their values, in order. A flag has an empty value. -/
structure Given where
  /-- The names and values. -/
  values : List (String × String) := []
  deriving DecidableEq

namespace Given

/-- Whether an option was given. -/
def has (g : Given) (name : String) : Bool := g.values.any (·.1 == name)

/-- The value of an option. -/
def value? (g : Given) (name : String) : Option String := g.values.lookup name

/-- All values of an option. -/
def allValues (g : Given) (name : String) : List String :=
  (g.values.filter (·.1 == name)).map (·.2)

/-- One more option. A value has to be acceptable, and most options can be given only once. -/
def add (g : Given) (o : OptionSpec) (value : String) : Except Stop Given :=
  match o.effect with
  | .stop reason => .error reason
  | .values => if o.accepts value then .ok ⟨g.values ++ [(o.name, value)]⟩ else .error .refused
  | _ =>
    if g.has o.name ∨ !o.accepts value then .error .refused
    else .ok ⟨g.values ++ [(o.name, value)]⟩

end Given

/-! ### Words -/

/-- Whether the text after a dash is a number: digits, perhaps with a point, perhaps with an
exponent. -/
def isNumber (cs : List Char) : Bool :=
  let head := cs.takeWhile (· != 'e')
  let tail := cs.dropWhile (· != 'e')
  let inExponent := tail.drop 1
  let fraction := head.dropWhile Char.isDigit
  let wholeMantissa := fraction = [] ||
    (fraction.head? == some '.' && head.head? != some '.' && (fraction.drop 1).all Char.isDigit)
  wholeMantissa && inExponent.all Char.isDigit &&
    (tail = [] || (head != [] && inExponent != []))

/-- Whether the next word is a value of an option. A single dash is one. -/
def OptionSpec.takes (o : OptionSpec) (word : String) : Bool :=
  match word.toList with
  | '-' :: '-' :: _ => false
  | ['-'] => true
  | '-' :: cs => o.negative && isNumber cs
  | _ => true

/-- A long name, and the value after an equals sign. -/
def splitEquals (cs : List Char) : String × Option String :=
  let name := String.ofList (cs.takeWhile (· != '='))
  match cs.dropWhile (· != '=') with
  | [] => (name, none)
  | _ :: value => (name, some (String.ofList value))

/-- The letters of a word after its dash: the options that were given, and the last one if its value
is still to come. -/
def scanLetters (options : List OptionSpec) (g : Given) :
    List Char → Except Stop (Given × Option OptionSpec)
  | [] => .ok (g, none)
  | c :: cs =>
    match options.find? (·.letter == some c) with
    | none => .error .refused
    | some o =>
      if o.effect.hasValue then
        match cs with
        | [] => .ok (g, some o)
        | '=' :: value => do return (← g.add o (String.ofList value), none)
        | value => do return (← g.add o (String.ofList value), none)
      else do
        let g ← g.add o ""
        scanLetters options g cs

/-- A word with a long name, given what follows its dashes: the options that were given, and the
last one if its value is still to come. -/
def scanLong (options : List OptionSpec) (g : Given) (cs : List Char) :
    Except Stop (Given × Option OptionSpec) :=
  let (name, value) := splitEquals cs
  match options.find? (·.name == name) with
  | none => .error .refused
  | some o =>
    match o.effect.hasValue, value with
    | true, none => .ok (g, some o)
    | true, some value => do return (← g.add o value, none)
    | false, none => do return (← g.add o "", none)
    | false, some _ => .error .refused

/-- **The options in front of the first other word**, and the words from there on. `pending` is an
option whose value has to be the next word. After two dashes there can be no more words. -/
def scan (options : List OptionSpec) :
    Option OptionSpec → Given → List String → Except Stop (Given × List String)
  | none, g, [] => .ok (g, [])
  | some _, _, [] => .error .refused
  | some o, g, word :: words =>
    if o.takes word then do scan options none (← g.add o word) words else .error .refused
  | none, g, word :: words =>
    match word.toList with
    | ['-', '-'] => if words = [] then .ok (g, []) else .error .refused
    | '-' :: '-' :: cs => do
      let (g, pending) ← scanLong options g cs
      scan options pending g words
    | ['-'] => .ok (g, word :: words)
    | '-' :: cs => do
      let (g, pending) ← scanLetters options g cs
      scan options pending g words
    | _ => .ok (g, word :: words)

end TreeWire.Command
