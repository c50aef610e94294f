import TreeWire.Number.Binary

/-!
# JSON values

* `TreeWire.Json.Number` – an integer within the range that 64 bits cover, signed or unsigned, or
  a floating-point value;
* `TreeWire.Json` – values; the members of an object are kept in the order of their keys, with one
  member a key (`TreeWire.Json.object`'s lists are built by `TreeWire.Json.insertMember`).
-/

namespace TreeWire

/-- **A number**: an integer of at most 64 bits, signed when it is negative and unsigned when it
is not, or a floating-point value. -/
inductive Json.Number where
  /-- An integer in range. -/
  | integer (n : Int) (inRange : -0x8000000000000000 ≤ n ∧ n < 0x10000000000000000)
  /-- A floating-point value. -/
  | real (x : Binary64)
  deriving DecidableEq, Repr

/-- **A JSON value.** -/
inductive Json where
  /-- The null value. -/
  | null
  /-- A truth value. -/
  | bool (b : Bool)
  /-- A number. -/
  | number (n : Json.Number)
  /-- A string. -/
  | string (s : String)
  /-- An array. -/
  | array (items : List Json)
  /-- An object. -/
  | object (members : List (String × Json))
  deriving Repr, Inhabited

namespace Json

/-- The members with one more put in at its place; a member of the same key is replaced. -/
def insertMember (key : String) (value : Json) : List (String × Json) → List (String × Json)
  | [] => [(key, value)]
  | (k, v) :: rest =>
    if key = k then (key, value) :: rest
    else if key < k then (key, value) :: (k, v) :: rest
    else (k, v) :: insertMember key value rest

/-- The object of a list of members in the order in which they were read: a later member takes
the place of an earlier one of the same key. -/
def ofMembers (members : List (String × Json)) : Json :=
  object (members.foldl (fun sorted m => insertMember m.1 m.2 sorted) [])

namespace Number

/-- The integer that a number is, if it is one. -/
def toInt? : Number → Option Int
  | integer n _ => some n
  | real _ => none

/-- The floating-point value nearest to a number. -/
def toBinary64 : Number → Binary64
  | integer n _ => .ofRatio (n < 0) n.natAbs 1
  | real x => x

end Number

/-- The integer that a value is, if it is an integer number. -/
def toInt? : Json → Option Int
  | number n => n.toInt?
  | _ => none

end Json

end TreeWire
