/-!
# Blank characters

The white space of Unicode, and the text that is left when blank characters are cut from both
ends. Native type names, selection entries and log settings are compared after this cut.

* `TreeWire.isBlank` – the characters with the property `White_Space`;
* `TreeWire.trimChars` – the cut on lists of characters, with `TreeWire.trim` for strings.
-/

namespace TreeWire

/-- **Blank characters**: the code points that Unicode gives the property `White_Space`. -/
def isBlank (c : Char) : Bool :=
  let n := c.toNat
  (0x09 ≤ n && n ≤ 0x0D) || n == 0x20 || n == 0x85 || n == 0xA0 || n == 0x1680 ||
    (0x2000 ≤ n && n ≤ 0x200A) || n == 0x2028 || n == 0x2029 || n == 0x202F || n == 0x205F ||
    n == 0x3000

/-- The characters that are left when blank ones are cut from both ends. -/
def trimChars (cs : List Char) : List Char :=
  ((cs.dropWhile isBlank).reverse.dropWhile isBlank).reverse

/-- The text that is left when blank characters are cut from both ends. -/
def trim (s : String) : String :=
  String.ofList (trimChars s.toList)

@[simp] theorem toList_trim (s : String) : (trim s).toList = trimChars s.toList := by
  simp [trim]

/-- A text that begins and ends with characters that are not blank is left as it is. -/
theorem trimChars_eq_self {cs : List Char} (first : ∀ c ∈ cs.head?, isBlank c = false)
    (last : ∀ c ∈ cs.getLast?, isBlank c = false) : trimChars cs = cs := by
  have drop_self : ∀ {l : List Char}, (∀ c ∈ l.head?, isBlank c = false) →
      l.dropWhile isBlank = l := by
    intro l h
    cases l with
    | nil => rfl
    | cons c r => simp [h c (by simp)]
  unfold trimChars
  rw [drop_self first, drop_self (by simpa using last), List.reverse_reverse]

end TreeWire
