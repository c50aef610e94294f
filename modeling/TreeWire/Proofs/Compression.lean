import TreeWire.Proofs.Store
import TreeWire.Source

/-!
# Compressed dumps

A data file is taken for a compressed dump if its name ends in `.json.gz` in any case, but it is
unpacked only if `.gz` stands in its name as it is written. So a compressed dump is read like the
dump that it holds under a name with a small `.gz`. Under another name its first byte, which no
JSON text starts with, is refused where it stands, in the first line and its first column.

* `TreeWire.Source.SameOutcome` – the same trees, or a flaw for the same reason, under two names;
* `TreeWire.Source.isCompressed_iff_endsIn` – what decides whether a dump is unpacked;
* `TreeWire.Source.open_compressed_iff` – when a compressed dump is opened like a plain one.
-/

namespace TreeWire

/-! ### Extensions -/

namespace Path

/-- A name is split at its last dot, unless that is its first character. -/
theorem splitDot_append {extension : List Char} (front : List Char) (last : '.' ∉ extension) :
    splitDot (front ++ '.' :: extension) =
      if front = [] then (front ++ '.' :: extension, none) else (front, some extension) := by
  have others : ∀ c ∈ extension.reverse, (c != '.') = true := by
    intro c mem
    rw [bne_iff_ne]
    rintro rfl
    exact last (List.mem_reverse.mp mem)
  have reversed : (front ++ '.' :: extension).reverse =
      extension.reverse ++ '.' :: front.reverse := by
    rw [List.reverse_append, List.reverse_cons, List.append_assoc, List.singleton_append]
  have after : (front ++ '.' :: extension).reverse.takeWhile (· != '.') = extension.reverse := by
    rw [reversed, List.takeWhile_append_of_pos others]
    simp
  have before :
      (front ++ '.' :: extension).reverse.dropWhile (· != '.') = '.' :: front.reverse := by
    rw [reversed, List.dropWhile_append_of_pos others]
    simp
  rw [splitDot, after, before, List.reverse_cons, List.dropLast_concat, List.reverse_reverse,
    List.reverse_reverse]

/-- A name without a dot is not split. -/
theorem splitDot_of_notMem {name : List Char} (free : '.' ∉ name) :
    splitDot name = (name, none) := by
  have none_left : name.reverse.dropWhile (· != '.') = [] := by
    rw [List.dropWhile_eq_nil_iff]
    intro c mem
    rw [bne_iff_ne]
    rintro rfl
    exact free (List.mem_reverse.mp mem)
  rw [splitDot, none_left]
  rfl

/-- **The extension** of a name follows its last dot, which is not its first character. -/
theorem splitDot_snd_eq_some_iff {name extension : List Char} :
    (splitDot name).2 = some extension ↔
      '.' ∉ extension ∧ ∃ front, front ≠ [] ∧ name = front ++ '.' :: extension := by
  constructor
  · intro h
    by_cases mem : '.' ∈ name
    · obtain ⟨after, before, split, last⟩ :=
        List.eq_append_cons_of_mem (List.mem_reverse.mpr mem)
      have last : '.' ∉ after.reverse := fun mem => last (List.mem_reverse.mp mem)
      have whole : name = before.reverse ++ '.' :: after.reverse := by
        rw [← List.reverse_reverse name, split, List.reverse_append, List.reverse_cons,
          List.append_assoc, List.singleton_append]
      rw [whole, splitDot_append before.reverse last] at h
      split at h
      · cases h
      · next present =>
        obtain rfl := Option.some.inj h
        exact ⟨last, before.reverse, present, whole⟩
    · rw [splitDot_of_notMem mem] at h
      cases h
  · rintro ⟨last, front, present, rfl⟩
    rw [splitDot_append front last, if_neg present]

end Path

/-! ### The first byte of a compressed file -/

namespace Gzip

/-- **A header** starts with its magic number. -/
theorem exists_readHeader_eq_error {contents : Bytes} (other : contents.head? ≠ some 0x1F) :
    ∃ damage, readHeader contents = .error damage := by
  by_cases short : contents.length < 10
  · exact ⟨.endOfFile, by rw [readHeader, split, if_pos short]; rfl⟩
  · refine ⟨.badHeader, ?_⟩
    cases contents with
    | nil => exact absurd (Nat.zero_lt_succ 9) short
    | cons b rest =>
      have wrong : b ≠ 0x1F := fun same => other (congrArg some same)
      rw [readHeader, split, if_neg short, List.take_succ_cons]
      simp only [bind, Except.bind]
      split
      · next start =>
        exact absurd (List.cons.inj start).1 wrong
      · rfl

/-- **A file that can be unpacked** starts with the first byte of a header. -/
theorem exists_of_unpack_eq {contents data : Bytes} (unpacked : unpack contents = .ofBytes data) :
    ∃ rest, contents = 0x1F :: rest := by
  by_cases first : contents.head? = some 0x1F
  · exact ⟨contents.tail, (List.cons_head?_tail first).symm⟩
  · obtain ⟨damage, failed⟩ := exists_readHeader_eq_error first
    rw [unpack, failed] at unpacked
    cases data <;> cases unpacked

end Gzip

/-- No dump starts with the first byte of a compressed file. -/
theorem Dump.read_compressed (rest : Bytes) :
    Dump.read (.ofBytes (0x1F :: rest)) = .error (.text ⟨.expectedValue, some ⟨1, 1⟩⟩) := rfl

/-- The refusal of such a byte. -/
theorem Json.message_first_byte :
    Json.Refusal.message ⟨.expectedValue, some ⟨1, 1⟩⟩ = "expected value at line 1 column 1" := by
  decide +kernel

namespace Source

/-! ### File names -/

/-- **The file name ends in a text** as it is written. -/
def EndsIn (ending path : String) : Prop :=
  ∃ name, Path.fileName? path = some name ∧ ending.toList <:+ name.toList

variable {path plain : String}

/-- A file name that ends in a text in any case. -/
theorem exists_name_of_suffix {ending : List Char} (present : ending ≠ [])
    (ends : ending <:+ lowerName path) :
    ∃ name front back, Path.fileName? path = some name ∧ name.toList = front ++ back ∧
      back.map Char.toLower = ending := by
  rw [lowerName] at ends
  cases named : Path.fileName? path with
  | none =>
    rw [named] at ends
    exact absurd (List.suffix_nil.mp ends) present
  | some name =>
    rw [named] at ends
    obtain ⟨start, whole⟩ := ends
    obtain ⟨front, back, split, -, lower⟩ := List.map_eq_append_iff.mp whole.symm
    exact ⟨name, front, back, rfl, split, lower⟩

/-- **What is unpacked**: files whose name ends in `.gz`, with something in front of that. -/
theorem isCompressed_iff : isCompressed path = true ↔
    ∃ name front, Path.fileName? path = some name ∧ front ≠ [] ∧
      name.toList = front ++ ".gz".toList := by
  have extension : isCompressed path = true ↔ Path.extension? path = some "gz" := beq_iff_eq
  rw [extension, Path.extension?]
  constructor
  · intro h
    split at h
    · next name named =>
      obtain ⟨ext, split, same⟩ := Option.map_eq_some_iff.mp h
      obtain rfl : ext = "gz".toList := by rw [← same, String.toList_ofList]
      obtain ⟨-, front, present, whole⟩ := Path.splitDot_snd_eq_some_iff.mp split
      exact ⟨name, front, named, present, whole⟩
    · cases h
  · rintro ⟨name, front, named, present, whole⟩
    have split : (Path.splitDot name.toList).2 = some "gz".toList :=
      Path.splitDot_snd_eq_some_iff.mpr ⟨by decide, front, present, whole⟩
    simp only [named, split, Option.map_some, String.ofList_toList]

/-- **A compressed dump is unpacked** if its name ends in `.gz` as it is written. -/
theorem isCompressed_iff_endsIn (compressed : ".json.gz".toList <:+ lowerName path) :
    isCompressed path = true ↔ EndsIn ".gz" path := by
  rw [isCompressed_iff]
  constructor
  · rintro ⟨name, front, named, -, whole⟩
    exact ⟨name, named, front, whole.symm⟩
  · rintro ⟨name, named, front, whole⟩
    refine ⟨name, front, named, ?_, whole.symm⟩
    rintro rfl
    -- three characters are too few for the longer ending
    obtain ⟨other, start, back, named', split, lower⟩ :=
      exists_name_of_suffix (by decide) compressed
    obtain rfl := Option.some.inj (named.symm.trans named')
    have long : back.length = 8 := by simpa using congrArg List.length lower
    have short : name.toList.length = 3 := by rw [← whole]; rfl
    rw [split, List.length_append, long] at short
    omega

/-- A dump with the plain ending is not unpacked. -/
theorem not_isCompressed (dump : ".json".toList <:+ lowerName plain) :
    ¬ isCompressed plain = true := by
  intro compressed
  obtain ⟨name, front, named, -, whole⟩ := isCompressed_iff.mp compressed
  obtain ⟨start, lower⟩ := dump
  have last : (start ++ ".json".toList).getLast? = (name.toList.map Char.toLower).getLast? := by
    rw [lower, lowerName, named]
  rw [whole, List.map_append, List.getLast?_append, List.getLast?_append] at last
  have differ : some 'n' = some 'z' := last
  exact absurd differ (by decide)

/-! ### Opening a dump -/

/-- **The same outcome** of opening a file under two names: the same trees, or a text that is
refused for the same reason. -/
inductive SameOutcome (path other : String) : Except Fault Source → Except Fault Source → Prop
  /-- Both are opened. -/
  | trees (trees : List Tree) : SameOutcome path other (.ok ⟨path, trees⟩) (.ok ⟨other, trees⟩)
  /-- Both are refused. -/
  | refused (reason : String) :
    SameOutcome path other (.error (.sourceFormat (path ++ ": " ++ reason)))
      (.error (.sourceFormat (other ++ ": " ++ reason)))

/-- What a dump is opened as under a name, by its feed. -/
def ofFeed (path : String) (f : Feed) : Except Fault Source :=
  match Dump.read f with
  | .ok trees => .ok ⟨path, trees⟩
  | .error flaw => .error (.sourceFormat (path ++ ": " ++ flaw.message))

theorem ofFeed_of_error {path : String} {f : Feed} {flaw : Dump.Flaw}
    (refused : Dump.read f = .error flaw) :
    ofFeed path f = .error (.sourceFormat (path ++ ": " ++ flaw.message)) := by
  simp only [ofFeed, refused]

/-- One feed under two names. -/
theorem sameOutcome_ofFeed (path other : String) (f : Feed) :
    SameOutcome path other (ofFeed path f) (ofFeed other f) := by
  rw [ofFeed, ofFeed]
  cases Dump.read f with
  | ok trees => exact .trees trees
  | error flaw => exact .refused flaw.message

/-- A text that is refused under one name has to be refused under the other. -/
theorem sameOutcome_refused_iff {other reason : String} {r : Except Fault Source} :
    SameOutcome path other (.error (.sourceFormat (path ++ ": " ++ reason))) r ↔
      r = .error (.sourceFormat (other ++ ": " ++ reason)) := by
  constructor
  · generalize wording : path ++ ": " ++ reason = text
    intro same
    cases same with
    | refused other_reason =>
      rw [(String.append_right_inj _).mp wording]
  · rintro rfl
    exact .refused reason

/-- **A dump that can be read** is opened by its feed. -/
theorem open_of_read {s : Store} {workingDirectory : String} {contents : Bytes}
    (dump : isDump path = true) (read : s.read workingDirectory path = .ok contents) :
    Source.open s workingDirectory path = ofFeed path (feed path (.file contents)) := by
  obtain ⟨l, located, file⟩ := Store.read_eq_ok_iff.mp read
  have node : s.node workingDirectory path = .ok (.file contents) := by
    simp only [Store.node, located, bind, Except.bind, file]
  rw [Source.open, if_pos dump, ofDump, node]
  rfl

variable {s t : Store} {workingDirectory directory : String} {contents data : Bytes}

/-- **Compressed dumps.** Under a name that ends in `.json.gz` in any case, a file that can be
unpacked is opened like a plain dump that holds what was packed if `.gz` is written small, or if
that text is refused at its first byte too; else it is refused at its own first byte. A text that is
refused for the same cause at another place is not the same outcome. -/
theorem open_compressed_iff (compressed : ".json.gz".toList <:+ lowerName path)
    (dump : ".json".toList <:+ lowerName plain)
    (read : s.read workingDirectory path = .ok contents)
    (unpacked : Gzip.unpack contents = .ofBytes data)
    (held : t.read directory plain = .ok data) :
    (SameOutcome path plain (Source.open s workingDirectory path) (Source.open t directory plain) ↔
      EndsIn ".gz" path ∨
        Source.open t directory plain =
          .error (.sourceFormat (plain ++ ": " ++ "expected value at line 1 column 1"))) ∧
    (¬ EndsIn ".gz" path → Source.open s workingDirectory path =
      .error (.sourceFormat (path ++ ": " ++ "expected value at line 1 column 1"))) := by
  have openPath : Source.open s workingDirectory path = ofFeed path (feed path (.file contents)) :=
    open_of_read (Bool.or_eq_true_iff.mpr (.inr (List.isSuffixOf_iff_suffix.mpr compressed))) read
  have openPlain : Source.open t directory plain = ofFeed plain (.ofBytes data) := by
    rw [open_of_read (Bool.or_eq_true_iff.mpr (.inl (List.isSuffixOf_iff_suffix.mpr dump))) held,
      feed, if_neg (not_isCompressed dump)]
  -- without a small ending, the reader sees the first byte of the header
  have raw : ¬ EndsIn ".gz" path → Source.open s workingDirectory path =
      .error (.sourceFormat (path ++ ": " ++ "expected value at line 1 column 1")) := by
    intro capital
    obtain ⟨rest, rfl⟩ := Gzip.exists_of_unpack_eq unpacked
    have asItIs : feed path (.file (0x1F :: rest)) = .ofBytes (0x1F :: rest) :=
      if_neg (mt (isCompressed_iff_endsIn compressed).mp capital)
    rw [openPath, asItIs, ofFeed_of_error (Dump.read_compressed rest), Dump.Flaw.message,
      Json.message_first_byte]
  refine ⟨?_, raw⟩
  by_cases small : EndsIn ".gz" path
  · have sameFeed : feed path (.file contents) = .ofBytes data := by
      rw [feed, if_pos ((isCompressed_iff_endsIn compressed).mpr small), unpacked]
    rw [openPath, openPlain, sameFeed]
    exact iff_of_true (sameOutcome_ofFeed path plain _) (.inl small)
  · rw [raw small, sameOutcome_refused_iff, or_iff_right small]

/-! ### A small dump, packed -/

/-- The text of a dump with one tree, which has no branches. -/
def smallDump : Bytes := utf8 "[[[\"t\"]]]"

/-- A compressed file that stores the text as it is. -/
def smallPacked : Bytes :=
  [0x1F, 0x8B, 8, 0, 0, 0, 0, 0, 0, 0xFF, 1, 9, 0, 0xF6, 0xFF] ++ smallDump ++
    [0xEC, 0xAF, 0x36, 0x0D, 9, 0, 0, 0]

/-- The text, and the compressed file under two names. -/
def smallStore : Store :=
  ⟨[(["d.json"], .file smallDump), (["d.json.gz"], .file smallPacked),
    (["D.JSON.GZ"], .file smallPacked)]⟩

/-- The tree of the text. -/
def smallTree : Tree := ⟨"t", [], 0, List.forall_mem_nil _, fun _ => rfl⟩

/-- A small `.gz`: the compressed file is opened like the text. -/
theorem open_compressed_iff_small :
    SameOutcome "d.json.gz" "d.json" (Source.open smallStore "/" "d.json.gz")
      (Source.open smallStore "/" "d.json") := by
  have unpacked : Gzip.unpack smallPacked = .ofBytes smallDump := by decide +kernel
  have compressed : ".json.gz".toList <:+ lowerName "d.json.gz" := by decide +kernel
  have dump : ".json".toList <:+ lowerName "d.json" := by decide +kernel
  have ends : EndsIn ".gz" "d.json.gz" := ⟨"d.json.gz", by decide +kernel, by decide +kernel⟩
  exact (open_compressed_iff compressed dump rfl unpacked rfl).1.mpr (.inl ends)

/-- **Capital letters**: the same compressed file is refused under a name that ends in `.GZ`, though
it is taken for a compressed dump by its name and the text that it holds is opened. -/
theorem open_misses_capitals :
    ".json.gz".toList <:+ lowerName "D.JSON.GZ" ∧
    smallStore.read "/" "D.JSON.GZ" = .ok smallPacked ∧
    Gzip.unpack smallPacked = .ofBytes smallDump ∧
    smallStore.read "/" "d.json" = .ok smallDump ∧
    Source.open smallStore "/" "d.json" = .ok ⟨"d.json", [smallTree]⟩ ∧
    Source.open smallStore "/" "D.JSON.GZ" =
      .error (.sourceFormat "D.JSON.GZ: expected value at line 1 column 1") := by
  refine ⟨by decide +kernel, rfl, by decide +kernel, rfl, ?_, ?_⟩
  · rfl
  · rfl

end Source

end TreeWire
