import TreeWire.Schema.Printer
import TreeWire.Text.Items

/-!
# Tokens of schema text

A line of schema text is read as a sequence of tokens: words, string literals, and marks, with
blanks and comments between them. Inside a literal a backslash stands in front of a quote, of a
backslash, or of the letter of a line feed; every other character stands for itself. So a literal
goes up to the first quote that has no backslash of its own in front, whatever looks like the end of
an option, of a field or of a line inside it.

* `TreeWire.Schema.Token` – tokens, with `TreeWire.Schema.Token.spell`, their text;
* `TreeWire.Schema.token?` – the token at the front of a text;
* `TreeWire.Schema.tokens?` – the tokens of a text;
* `TreeWire.Schema.literal?_escapeLiteral_append` – **a literal is read back**, whatever it holds;
* `TreeWire.Schema.areApart` – tokens that do not run into each other, as two words do that touch;
* `TreeWire.Schema.tokens?_flatMap_spell` – **such tokens are read back**.
-/

namespace TreeWire

namespace Schema

/-! ### Tokens -/

/-- **Tokens.** -/
inductive Token where
  /-- A blank. -/
  | blank
  /-- A comment, up to the end of the line. -/
  | comment (text : String)
  /-- A word: a name with or without dots, a keyword, or a number. -/
  | word (text : String)
  /-- A string literal, given by what it stands for. -/
  | literal (text : String)
  /-- Any other character. -/
  | mark (c : Char)
  deriving DecidableEq

/-- Whether a token says anything. -/
def Token.isSignificant : Token → Bool
  | .blank | .comment _ => false
  | _ => true

/-- Whether a character may stand in a word. -/
def isWordPart (c : Char) : Bool := isWordChar c || c == '.'

/-- The character that an escaped one stands for. -/
def unescaped? (c : Char) : Option Char :=
  if c = '"' then some '"'
  else if c = '\\' then some '\\'
  else if c = 'n' then some '\n'
  else none

/-- **What a literal stands for**, and the rest behind its end. The text begins behind the quote
that opens the literal. -/
def literal? : Taker (List Char)
  | [] => none
  | '\\' :: c :: cs => do
    let d ← unescaped? c
    let (inside, rest) ← literal? cs
    some (d :: inside, rest)
  | c :: cs =>
    if c = '"' then some ([], cs)
    else do
      let (inside, rest) ← literal? cs
      some (c :: inside, rest)

/-- **The token at the front** of a text. -/
def token? : Taker Token
  | [] => none
  | ' ' :: cs => some (.blank, cs)
  | '/' :: '/' :: cs => some (.comment (String.ofList cs), [])
  | '"' :: cs => (literal? cs).map fun r => (.literal (String.ofList r.1), r.2)
  | c :: cs =>
    if isWordPart c then
      some (.word (String.ofList (c :: cs.takeWhile isWordPart)), cs.dropWhile isWordPart)
    else some (.mark c, cs)

/-- **The tokens of a text.** -/
def tokens? (cs : List Char) : Option (List Token) := allItems? token? cs.length cs

example : tokens? "a = \"\\\"];\"; // b".toList = some
    [.word "a", .blank, .mark '=', .blank, .literal "\"];", .mark ';', .blank, .comment " b"] := by
  decide

/-! ### Literals -/

/-- **A literal is read back**, whatever it holds and whatever follows it. -/
theorem literal?_escapeLiteral_append (cs rest : List Char) :
    literal? (escapeLiteral cs ++ '"' :: rest) = some (cs, rest) := by
  induction cs with
  | nil => rfl
  | cons c cs ih =>
    rw [escapeLiteral, List.flatMap_cons, List.append_assoc, ← escapeLiteral, escapeLiteralChar]
    -- an escaped character takes two steps of the reader, so it cannot be taken for the end
    by_cases quote : c = '"'
    · subst quote
      simp [literal?, unescaped?, ih]
    · rw [if_neg quote]
      by_cases backslash : c = '\\'
      · subst backslash
        simp [literal?, unescaped?, ih]
      · rw [if_neg backslash]
        by_cases feed : c = '\n'
        · subst feed
          simp [literal?, unescaped?, ih]
        · rw [if_neg feed]
          simp [literal?, quote, backslash, ih]

/-! ### Sequences of tokens -/

/-- **The text of a token.** -/
def Token.spell : Token → List Char
  | .blank => [' ']
  | .comment text => '/' :: '/' :: text.toList
  | .word text => text.toList
  | .literal text => '"' :: escapeLiteral text.toList ++ ['"']
  | .mark c => [c]

/-- Whether a token is a word. -/
def Token.isWord : Token → Bool
  | .word _ => true
  | _ => false

/-- **Words**: at least one character, and only characters that may stand in a word. -/
def isWord (text : String) : Bool := !text.toList.isEmpty && text.toList.all isWordPart

/-- **Marks**: characters that begin no other token and end no line. -/
def isMark (c : Char) : Bool :=
  c != ' ' && c != '/' && c != '"' && c != '\n' && !isWordPart c

/-- **Whether a token is told apart** from the tokens behind it: no word follows a word, and nothing
follows a comment. -/
def Token.isApart : Token → List Token → Bool
  | .blank, _ => true
  | .comment text, later => !text.toList.contains '\n' && later.isEmpty
  | .word text, later => Schema.isWord text && !later.head?.any Token.isWord
  | .literal _, _ => true
  | .mark c, _ => isMark c

/-- **Whether all tokens are told apart** from those behind them. -/
def areApart : List Token → Bool
  | [] => true
  | t :: later => t.isApart later && areApart later

theorem isWord_iff {text : String} :
    isWord text = true ↔ text.toList ≠ [] ∧ ∀ c ∈ text.toList, isWordPart c = true := by
  simp [isWord]

theorem Token.spell_ne_nil {t : Token} {later : List Token} (h : t.isApart later = true) :
    t.spell ≠ [] := by
  cases t with
  | word text =>
    rw [isApart, Bool.and_eq_true] at h
    exact (isWord_iff.mp h.1).1
  | _ => simp [spell]

/-- Behind a word there is no character that may stand in it. -/
theorem isWordPart_head?_flatMap_spell {later : List Token} (h : areApart later = true)
    (other : later.head?.any Token.isWord = false) :
    ∀ c ∈ (later.flatMap Token.spell).head?, isWordPart c = false := by
  intro c first
  cases later with
  | nil => simp at first
  | cons t later =>
    cases t with
    | word text => simp [Token.isWord] at other
    | mark d =>
      obtain rfl : d = c := by simpa [Token.spell] using first
      simp only [areApart, Token.isApart, isMark, Bool.and_eq_true, Bool.not_eq_true'] at h
      exact h.1.2
    | blank =>
      obtain rfl : ' ' = c := by simpa [Token.spell] using first
      rfl
    | comment text =>
      obtain rfl : '/' = c := by simpa [Token.spell] using first
      rfl
    | literal text =>
      obtain rfl : '"' = c := by simpa [Token.spell] using first
      rfl

/-- What all satisfies a condition is cut off in front of what begins otherwise. -/
theorem takeWhile_append_of_stop {α : Type} {p : α → Bool} {front rest : List α}
    (all : ∀ a ∈ front, p a = true) (stop : ∀ a ∈ rest.head?, p a = false) :
    (front ++ rest).takeWhile p = front ∧ (front ++ rest).dropWhile p = rest := by
  rw [List.takeWhile_append_of_pos all, List.dropWhile_append_of_pos all]
  cases rest with
  | nil => simp
  | cons a rest =>
    have out : p a = false := stop a rfl
    simp [out]

/-- **A token is read back** in front of those that it is told apart from. -/
theorem token?_spell_append {t : Token} {later : List Token} (h : areApart (t :: later) = true) :
    token? (t.spell ++ later.flatMap Token.spell) = some (t, later.flatMap Token.spell) := by
  rw [areApart, Bool.and_eq_true] at h
  obtain ⟨apart, others⟩ := h
  cases t with
  | blank => rfl
  | comment text =>
    obtain rfl : later = [] := by simp_all [Token.isApart]
    simp [Token.spell, token?]
  | literal text =>
    have read := literal?_escapeLiteral_append text.toList (later.flatMap Token.spell)
    simp [Token.spell, token?, read]
  | mark c =>
    simp only [Token.isApart, isMark, Bool.and_eq_true, bne_iff_ne, Bool.not_eq_true'] at apart
    obtain ⟨⟨⟨⟨blank, slash⟩, quote⟩, -⟩, single⟩ := apart
    simp [Token.spell, token?, slash, single]
  | word text =>
    rw [Token.isApart, Bool.and_eq_true, isWord_iff, Bool.not_eq_true'] at apart
    obtain ⟨⟨present, parts⟩, other⟩ := apart
    have stop := isWordPart_head?_flatMap_spell others other
    obtain ⟨c, cs, letters⟩ := List.exists_cons_of_ne_nil present
    rw [letters, List.forall_mem_cons] at parts
    have blank : c ≠ ' ' := by rintro rfl; exact absurd parts.1 (by decide)
    have slash : c ≠ '/' := by rintro rfl; exact absurd parts.1 (by decide)
    have quote : c ≠ '"' := by rintro rfl; exact absurd parts.1 (by decide)
    obtain ⟨word, rest⟩ := takeWhile_append_of_stop parts.2 stop
    have whole : String.ofList (c :: cs) = text := by rw [← letters, String.ofList_toList]
    simp [Token.spell, letters, token?, slash, parts.1, word, rest, whole]

/-- **Tokens are read back**, if they are told apart. -/
theorem tokens?_flatMap_spell {ts : List Token} (h : areApart ts = true) :
    tokens? (ts.flatMap Token.spell) = some ts := by
  -- a token takes one step and at least one character, so the bound need not be exact
  have reads : ∀ bound, (ts.flatMap Token.spell).length ≤ bound →
      allItems? token? bound (ts.flatMap Token.spell) = some ts := by
    induction ts with
    | nil =>
      intro bound _
      cases bound <;> rfl
    | cons t later ih =>
      intro bound enough
      have taken := token?_spell_append h
      rw [areApart, Bool.and_eq_true] at h
      obtain ⟨c, cs, text⟩ := List.exists_cons_of_ne_nil (Token.spell_ne_nil h.1)
      rw [List.flatMap_cons, text, List.cons_append] at enough ⊢
      rw [text, List.cons_append] at taken
      obtain ⟨bound, rfl⟩ : ∃ n, bound = n + 1 := ⟨bound - 1, by simp at enough; omega⟩
      simp only [List.length_cons, List.length_append] at enough
      have others := ih h.2 bound (by omega)
      simp [allItems?, taken, others]
  exact reads _ (Nat.le_refl _)

/-- A literal does not end a line. -/
theorem lineFeed_notMem_escapeLiteral (cs : List Char) : '\n' ∉ escapeLiteral cs := by
  intro mem
  obtain ⟨c, -, here⟩ := List.mem_flatMap.mp mem
  unfold escapeLiteralChar at here
  split at here
  · simp at here
  · split at here
    · simp at here
    · split at here
      · simp at here
      · rename_i feed
        exact feed (List.mem_singleton.mp here).symm

/-- **Tokens do not end a line.** -/
theorem lineFeed_notMem_flatMap_spell {ts : List Token} (h : areApart ts = true) :
    '\n' ∉ ts.flatMap Token.spell := by
  induction ts with
  | nil => simp
  | cons t later ih =>
    rw [areApart, Bool.and_eq_true] at h
    obtain ⟨apart, others⟩ := h
    rw [List.flatMap_cons, List.mem_append, not_or]
    refine ⟨?_, ih others⟩
    cases t with
    | blank => simp [Token.spell]
    | comment text => simp_all [Token.isApart, Token.spell]
    | literal text => simpa [Token.spell] using lineFeed_notMem_escapeLiteral text.toList
    | mark c =>
      simp only [Token.isApart, isMark, Bool.and_eq_true, bne_iff_ne, Bool.not_eq_true'] at apart
      simpa [Token.spell] using apart.1.2.symm
    | word text =>
      rw [Token.isApart, Bool.and_eq_true, isWord_iff] at apart
      intro mem
      exact absurd (apart.1.2 _ mem) (by decide)

end Schema

end TreeWire
