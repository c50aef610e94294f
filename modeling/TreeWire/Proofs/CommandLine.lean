import Mathlib.Data.List.TakeWhile
import TreeWire.Command.Perform
import TreeWire.Proofs.Integer
import TreeWire.Proofs.Lists

/-!
# Command lines that are read back

A conversion that runs in a process of its own is handed over as a command line. This file says what
the process makes of it. Every option is given by its long name with its value as the next word, and
so a value is taken unless it looks like an option. Reading gives back every value that is taken,
and refuses the command line if there is one that is not.

What is read is not yet what is carried out: the references in the paths and in the name of the tree
are replaced first. A conversion comes back as it was exactly if its values can be words and have
nothing to replace.

* `TreeWire.Command.scan_wordsOf` – options with their values;
* `TreeWire.Command.parse_arguments` – **the command line of a conversion**;
* `TreeWire.Command.restored_iff` – **the conversions that come back** as they were.
-/

namespace TreeWire

namespace Command

/-! ### Words -/

/-- **A word that looks like an option**: a dash and something after it. -/
def LooksLikeOption (word : String) : Prop := ∃ c cs, word.toList = '-' :: c :: cs

/-- **A value is taken** unless it looks like an option. -/
theorem takes_iff {o : OptionSpec} (noNumbers : o.negative = false) {word : String} :
    o.takes word = true ↔ ¬ LooksLikeOption word := by
  rw [OptionSpec.takes]
  split
  next cs text => simp [LooksLikeOption, text]
  next text => simp [LooksLikeOption, text]
  next tail _ dash text =>
    obtain ⟨c, cs, rfl⟩ := List.exists_cons_of_ne_nil fun empty : tail = [] => dash empty
    simp [LooksLikeOption, text, noNumbers]
  next noDash =>
    have plain : ¬ LooksLikeOption word := fun ⟨c, cs, text⟩ => noDash (c :: cs) text
    simp [plain]

/-- Digits are a number. -/
theorem isNumber_of_isDigit {cs : List Char} (digits : ∀ c ∈ cs, c.isDigit = true) :
    isNumber cs = true := by
  have noExponent : ∀ c ∈ cs, (c != 'e') = true := by
    intro c mem
    have other : c ≠ 'e' := by rintro rfl; exact absurd (digits _ mem) (by decide)
    simpa using other
  have head : cs.takeWhile (· != 'e') = cs := List.takeWhile_eq_self_iff.mpr noExponent
  have tail : cs.dropWhile (· != 'e') = [] := List.dropWhile_eq_nil_iff.mpr noExponent
  have fraction : cs.dropWhile Char.isDigit = [] := List.dropWhile_eq_nil_iff.mpr digits
  simp [isNumber, head, tail, fraction]

/-- Whole numbers are values of an option that takes negative ones. -/
theorem takes_toString {o : OptionSpec} (numbers : o.negative = true) (n : Int) :
    o.takes (toString n) = true := by
  rw [OptionSpec.takes]
  cases n with
  | ofNat n =>
    obtain ⟨c, cs, digits, first⟩ := exists_toDigits_eq_cons n
    have minus : c ≠ '-' := by rintro rfl; exact absurd first (by decide)
    have text : (toString (Int.ofNat n)).toList = c :: cs := digits ▸ toList_toString_ofNat n
    rw [text]
    simp [minus]
  | negSucc n =>
    have all : ∀ c ∈ Nat.toDigits 10 (n + 1), c.isDigit = true := fun c mem =>
      Nat.isDigit_of_mem_toDigits (by decide) (by decide) mem
    obtain ⟨c, cs, digits, first⟩ := exists_toDigits_eq_cons (n + 1)
    have minus : c ≠ '-' := by rintro rfl; exact absurd first (by decide)
    rw [digits] at all
    rw [toList_toString_negSucc, digits]
    simp [minus, numbers, isNumber_of_isDigit all]

/-! ### Options with their values -/

/-- The words that give options by their long names, each with its value as the next word. -/
def wordsOf (given : List (OptionSpec × String)) : List String :=
  given.flatMap fun p => ["--" ++ p.1.name, p.2]

/-- **An option of a command that has one value**, and a name that can be written out. -/
structure Known (options : List OptionSpec) (o : OptionSpec) : Prop where
  /-- It is found by its name. -/
  found : options.find? (·.name == o.name) = some o
  /-- It has a value and can be given once. -/
  effect : o.effect = .value
  /-- It has a name. -/
  named : o.name ≠ ""
  /-- The name does not end before its end. -/
  noEquals : '=' ∉ o.name.toList

/-- A long name alone waits for its value. -/
theorem scanLong_known {options : List OptionSpec} {o : OptionSpec} (known : Known options o)
    (g : Given) : scanLong options g o.name.toList = .ok (g, some o) := by
  have whole : ∀ c ∈ o.name.toList, (c != '=') = true := by
    intro c mem
    have other : c ≠ '=' := by rintro rfl; exact known.noEquals mem
    simpa using other
  have split : splitEquals o.name.toList = (o.name, none) := by
    rw [splitEquals, List.takeWhile_eq_self_iff.mpr whole, List.dropWhile_eq_nil_iff.mpr whole,
      String.ofList_toList]
  rw [scanLong, split]
  simp [known.found, known.effect, Effect.hasValue]

/-- **An option and its value** are read in one go. -/
theorem scan_known {options : List OptionSpec} {o : OptionSpec} (known : Known options o)
    (g : Given) (value : String) (words : List String) :
    scan options none g (("--" ++ o.name) :: value :: words) =
      if o.takes value then do scan options none (← g.add o value) words else .error .refused := by
  have text : ("--" ++ o.name).toList = '-' :: '-' :: o.name.toList := String.toList_append
  have present : o.name.toList ≠ [] := by simpa using known.named
  obtain ⟨c, cs, name⟩ := List.exists_cons_of_ne_nil present
  have read := scanLong_known known g
  rw [name] at text read
  rw [scan, text]
  simp only [read, bind, Except.bind]
  rw [scan]
  rfl

/-- One more option that has not been given yet. -/
theorem add_known {options : List OptionSpec} {o : OptionSpec} (known : Known options o) {g : Given}
    (new : g.has o.name = false) (value : String) :
    g.add o value =
      if o.accepts value then .ok ⟨g.values ++ [(o.name, value)]⟩ else .error .refused := by
  simp only [Given.add, known.effect, new]
  cases o.accepts value <;> rfl

/-- **Options with their values** are all read back, or the words are refused. -/
theorem scan_wordsOf {options : List OptionSpec} {given : List (OptionSpec × String)}
    (known : ∀ p ∈ given, Known options p.1) (distinct : (given.map (·.1.name)).Nodup) {g : Given}
    (new : ∀ p ∈ given, g.has p.1.name = false) :
    scan options none g (wordsOf given) =
      if ∀ p ∈ given, p.1.takes p.2 = true ∧ p.1.accepts p.2 = true then
        .ok (⟨g.values ++ given.map fun p => (p.1.name, p.2)⟩, [])
      else .error .refused := by
  induction given generalizing g with
  | nil => simp [wordsOf, scan]
  | cons p given ih =>
    obtain ⟨first, others⟩ := List.forall_mem_cons.mp known
    obtain ⟨once, apart⟩ := List.nodup_cons.mp distinct
    obtain ⟨fresh, later⟩ := List.forall_mem_cons.mp new
    have words : wordsOf (p :: given) = ("--" ++ p.1.name) :: p.2 :: wordsOf given := rfl
    rw [words, scan_known first, add_known first fresh]
    by_cases taken : p.1.takes p.2 = true
    · by_cases accepted : p.1.accepts p.2 = true
      · have stillNew : ∀ q ∈ given,
            (⟨g.values ++ [(p.1.name, p.2)]⟩ : Given).has q.1.name = false := by
          intro q mem
          have other : p.1.name ≠ q.1.name := fun same =>
            once (List.mem_map.mpr ⟨q, mem, same.symm⟩)
          have before := later q mem
          simp only [Given.has] at before ⊢
          simp [before, other]
        rw [if_pos taken, if_pos accepted]
        simp only [bind, Except.bind]
        rw [ih others apart stillNew, List.append_assoc]
        refine if_congr ?_ rfl rfl
        rw [List.forall_mem_cons, and_iff_right ⟨taken, accepted⟩]
      · rw [if_pos taken, if_neg accepted, if_neg fun all => accepted (all p (by simp)).2]
        rfl
    · rw [if_neg taken, if_neg fun all => taken (all p (by simp)).1]

/-! ### The command line of a conversion -/

/-- The option for the descriptor set. -/
def descriptorOption : OptionSpec := { name := "descriptor", letter := some 'd' }

/-- The options of a conversion with their values. -/
def given (c : Conversion) : List (OptionSpec × String) :=
  [(descriptorOption, c.descriptor), (fileOption, c.source), (treeOption, c.tree),
    (limitOption, toString c.limit), (outputOption, c.output), (framingOption, c.framing.name)] ++
    c.message.toList.map fun message => (messageOption, message)

/-- What the command line of a conversion is read as. -/
def optionsOf (c : Conversion) : ConvertOptions :=
  { descriptor := c.descriptor
    file := some c.source
    tree := some c.tree
    message := c.message
    limit := c.limit
    output := some c.output
    framing := c.framing }

/-- **A conversion whose values can be words**: none of them looks like an option. -/
structure Plain (c : Conversion) : Prop where
  /-- The descriptor set. -/
  descriptor : ¬ LooksLikeOption c.descriptor
  /-- The data file. -/
  source : ¬ LooksLikeOption c.source
  /-- The tree. -/
  tree : ¬ LooksLikeOption c.tree
  /-- The output file. -/
  output : ¬ LooksLikeOption c.output
  /-- The data message, if it is named. -/
  message : ∀ message ∈ c.message, ¬ LooksLikeOption message

theorem arguments_eq (c : Conversion) : c.arguments = "convert" :: wordsOf (given c) := by
  cases message : c.message <;> simp [Conversion.arguments, wordsOf, given, message] <;> decide

theorem known_of_mem_given {c : Conversion} {p : OptionSpec × String} (mem : p ∈ given c) :
    Known convertOptions p.1 := by
  have one : p.1 = descriptorOption ∨ p.1 = fileOption ∨ p.1 = treeOption ∨ p.1 = limitOption ∨
      p.1 = outputOption ∨ p.1 = framingOption ∨ p.1 = messageOption := by
    rcases List.mem_append.mp mem with mem | mem
    · simp only [List.mem_cons, List.not_mem_nil, or_false] at mem
      rcases mem with rfl | rfl | rfl | rfl | rfl | rfl <;> simp
    · obtain ⟨message, -, rfl⟩ := List.mem_map.mp mem
      simp
  rcases one with one | one | one | one | one | one | one <;> rw [one] <;>
    exact ⟨rfl, rfl, by decide, by decide⟩

/-- No option is given twice. -/
theorem nodup_given (c : Conversion) : ((given c).map (·.1.name)).Nodup := by
  cases message : c.message <;> simp [given, message] <;> decide

theorem limitOf?_toString {n : Int} (bits : -0x8000000000000000 ≤ n ∧ n < 0x8000000000000000) :
    limitOf? (toString n) = some n := by
  rw [limitOf?, integerOf?_toString]
  simp [Option.filter, bits]

theorem forall_given_iff {c : Conversion}
    (bits : -0x8000000000000000 ≤ c.limit ∧ c.limit < 0x8000000000000000) :
    (∀ p ∈ given c, p.1.takes p.2 = true ∧ p.1.accepts p.2 = true) ↔ Plain c := by
  have limit : limitOption.takes (toString c.limit) = true ∧
      limitOption.accepts (toString c.limit) = true := by
    refine ⟨takes_toString rfl c.limit, ?_⟩
    exact congrArg Option.isSome (limitOf?_toString bits)
  have framing : framingOption.takes c.framing.name = true ∧
      framingOption.accepts c.framing.name = true := by
    cases c.framing <;> decide
  -- the other options take all words that do not look like one
  have taken : ∀ {o : OptionSpec} {word : String}, o.negative = false →
      (∀ word, o.accepts word = true) →
      ((o.takes word = true ∧ o.accepts word = true) ↔ ¬ LooksLikeOption word) := by
    intro o word noNumbers all
    rw [takes_iff noNumbers, and_iff_left (all word)]
  rw [given, List.forall_mem_append]
  simp only [List.forall_mem_cons, List.forall_mem_map, Option.mem_toList,
    taken (o := descriptorOption) rfl fun _ => rfl, taken (o := fileOption) rfl fun _ => rfl,
    taken (o := treeOption) rfl fun _ => rfl, taken (o := outputOption) rfl fun _ => rfl,
    taken (o := messageOption) rfl fun _ => rfl, limit, framing]
  constructor
  · rintro ⟨⟨descriptor, source, tree, -, output, -⟩, message⟩
    exact ⟨descriptor, source, tree, output, message⟩
  · rintro ⟨descriptor, source, tree, output, message⟩
    exact ⟨⟨descriptor, source, tree, ⟨trivial, trivial⟩, output, ⟨trivial, trivial⟩, nofun⟩,
      message⟩

/-- What is read of the options of a conversion. -/
theorem convertRequest_given {c : Conversion}
    (bits : -0x8000000000000000 ≤ c.limit ∧ c.limit < 0x8000000000000000) :
    convertRequest ⟨(given c).map fun p => (p.1.name, p.2)⟩ = .ok (.convert (optionsOf c)) := by
  have framing : framingOf? c.framing.name = some c.framing := by cases c.framing <;> decide
  have limit := limitOf?_toString bits
  rw [given]
  generalize toString c.limit = text at limit ⊢
  cases message : c.message <;>
    simp [convertRequest, message, optionsOf, Given.value?, Given.limit, Given.framing,
      List.lookup_cons, descriptorOption, fileOption, treeOption, outputOption, framingOption,
      limitOption, messageOption, framing, limit]

/-- A command line that starts with `convert` is read as this command. -/
theorem parse_convert (words : List String) :
    parse ("convert" :: words) = commandOptions convertOptions words >>= convertRequest := by
  have first : scan leadingOptions none {} ("convert" :: words) = .ok ({}, "convert" :: words) := by
    rw [scan]
    rfl
  have command : parseCommand "convert" words =
      commandOptions convertOptions words >>= convertRequest := by
    unfold parseCommand
    rw [if_neg (by decide), if_neg (by decide), if_pos rfl]
  rw [← command, parse, first]
  change (parseCommand "convert" words >>= fun request =>
    .ok (if ({} : Given).has "markdown-help" = true then .manual else request)) = _
  cases parseCommand "convert" words <;> rfl

/-- **The command line of a conversion** is read as its options, or it is refused. -/
theorem parse_arguments {c : Conversion}
    (bits : -0x8000000000000000 ≤ c.limit ∧ c.limit < 0x8000000000000000) :
    (Plain c → parse c.arguments = .ok (.convert (optionsOf c))) ∧
      (¬ Plain c → parse c.arguments = .error .refused) := by
  have new : ∀ p ∈ given c, ({} : Given).has p.1.name = false := fun _ _ => rfl
  have read := scan_wordsOf (fun _ => known_of_mem_given) (nodup_given c) new
  simp only [arguments_eq, parse_convert, commandOptions, read]
  constructor
  · intro plain
    rw [if_pos ((forall_given_iff bits).mpr plain)]
    exact convertRequest_given bits
  · intro notPlain
    rw [if_neg fun all => notPlain ((forall_given_iff bits).mp all)]
    rfl

/-! ### References -/

/-- A text without dollar signs has no references. -/
theorem expand_eq_self {text : String} (noDollar : '$' ∉ text.toList) (lookup : Lookup) :
    expand lookup text = text := by
  have chars : ∀ cs : List Char, '$' ∉ cs → Reference.expandChars lookup cs = cs := by
    intro cs
    induction cs with
    | nil => intro _; rw [Reference.expandChars]
    | cons c cs ih =>
      intro notMem
      obtain ⟨other, later⟩ := not_or.mp (mt List.mem_cons.mpr notMem)
      rw [Reference.expandChars_of_ne lookup (Ne.symm other), ih later]
  rw [expand, chars _ noDollar, String.ofList_toList]

/-- **A conversion with nothing to replace**, whose data file and tree have names. -/
structure Settled (lookup : Lookup) (c : Conversion) : Prop where
  /-- There is a data file. -/
  source_ne : c.source ≠ ""
  /-- There is a tree. -/
  tree_ne : c.tree ≠ ""
  /-- The data file. -/
  source : expand lookup c.source = c.source
  /-- The tree. -/
  tree : expand lookup c.tree = c.tree
  /-- The descriptor set. -/
  descriptor : expand lookup c.descriptor = c.descriptor
  /-- The output file. -/
  output : expand lookup c.output = c.output

/-- A value that is needed and there. -/
theorem require_of_ne {h : Host} {option value : String} (present : value ≠ "") :
    require h option (some value) = .ok (expand h.environment value) := by
  simp [require, present]

/-- **What is carried out** of the options of a conversion is the conversion itself exactly if there
is nothing to replace. -/
theorem conversion_optionsOf_iff {h : Host} {c : Conversion} :
    (optionsOf c).conversion h = .ok c ↔ Settled h.environment c := by
  have file : (optionsOf c).file = some c.source := rfl
  have name : (optionsOf c).tree = some c.tree := rfl
  rw [ConvertOptions.conversion, file, name]
  by_cases source : c.source = ""
  · have missing : require h "--file" (some c.source) = .error (.missingArgument "--file") := by
      simp [require, source]
    rw [missing]
    exact ⟨nofun, fun settled => absurd source settled.source_ne⟩
  rw [require_of_ne source]
  by_cases tree : c.tree = ""
  · have missing : require h "--tree" (some c.tree) = .error (.missingArgument "--tree") := by
      simp [require, tree]
    rw [missing]
    exact ⟨nofun, fun settled => absurd tree settled.tree_ne⟩
  rw [require_of_ne tree]
  have carried : Except.ok (ε := Failure)
      { c with
        source := expand h.environment c.source
        tree := expand h.environment c.tree
        descriptor := expand h.environment c.descriptor
        output := expand h.environment c.output } = .ok c ↔ Settled h.environment c := by
    obtain ⟨path, name, descriptor, message, limit, output, framing⟩ := c
    simp only [Except.ok.injEq, Conversion.mk.injEq, true_and, and_true]
    exact ⟨fun ⟨hs, ht, hd, ho⟩ => ⟨source, tree, hs, ht, hd, ho⟩, fun settled =>
      ⟨settled.source, settled.tree, settled.descriptor, settled.output⟩⟩
  exact carried

/-- **The conversions that come back as they were**: those whose values can be words and have
nothing to replace. -/
theorem restored_iff {h : Host} {c : Conversion}
    (bits : -0x8000000000000000 ≤ c.limit ∧ c.limit < 0x8000000000000000) :
    (∃ o, parse c.arguments = .ok (.convert o) ∧ o.conversion h = .ok c) ↔
      Plain c ∧ Settled h.environment c := by
  obtain ⟨read, refused⟩ := parse_arguments bits
  constructor
  · rintro ⟨o, parsed, carried⟩
    by_cases plain : Plain c
    · rw [read plain] at parsed
      obtain rfl : optionsOf c = o := by
        simpa only [Except.ok.injEq, Request.convert.injEq] using parsed
      exact ⟨plain, conversion_optionsOf_iff.mp carried⟩
    · rw [refused plain] at parsed
      cases parsed
  · rintro ⟨plain, settled⟩
    exact ⟨optionsOf c, read plain, conversion_optionsOf_iff.mpr settled⟩

end Command

end TreeWire
