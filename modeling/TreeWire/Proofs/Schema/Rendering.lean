import TreeWire.Proofs.Integer
import TreeWire.Proofs.Lists
import TreeWire.Proofs.Path
import TreeWire.Proofs.Schema.Reader

/-!
# Schema text that is read back

The text of a document is made of lines, and every line of tokens that are told apart. So the reader
finds the statement of each line, and the statements of all lines make up the items of the document:
whatever the branches are called, their names stay inside their literals.

* `TreeWire.Schema.Means` – lines that are made of tokens with a meaning;
* `TreeWire.Schema.read?_of_means` – the text of such lines;
* `TreeWire.Field.means_line` – the line of a field;
* `TreeWire.Document.read?_render` – the items of a document;
* `TreeWire.Document.render_determines` – **the text of a document determines it.**
-/

namespace TreeWire

namespace Schema

/-! ### Words -/

theorem isWordPart_of_mem {cs : List Char} (h : isIdentifierChars cs = true) {c : Char}
    (mem : c ∈ cs) : isWordPart c = true := by
  simp [isWordPart, isWordChar_of_mem h mem]

theorem isWord_of_isIdentifier {name : String} (h : isIdentifier name = true) :
    isWord name = true := by
  refine isWord_iff.mpr ⟨?_, fun c mem => isWordPart_of_mem h mem⟩
  intro empty
  rw [isIdentifier, empty] at h
  cases h

/-- The dots of a package belong to the word. -/
theorem isWord_of_isPackage {package : String} (h : isPackage package = true) :
    isWord package = true := by
  refine isWord_iff.mpr ⟨?_, fun c mem => ?_⟩
  · intro empty
    rw [isPackage, empty] at h
    cases h
  · by_cases dot : c = '.'
    · subst dot
      rfl
    · obtain ⟨piece, here, mem⟩ := (exists_mem_splitAtChar_iff dot).mpr mem
      exact isWordPart_of_mem (List.all_eq_true.mp h piece here) mem

theorem isWord_toString (n : Nat) : isWord (toString n) = true := by
  have digits : (toString n).toList = Nat.toDigits 10 n := Nat.toList_repr
  refine isWord_iff.mpr ⟨by rw [digits]; exact Nat.toDigits_ne_nil, fun c mem => ?_⟩
  rw [digits] at mem
  have digit : c.isDigit = true := Nat.isDigit_of_mem_toDigits (by decide) (by decide) mem
  simp [isWordPart, isWordChar, Char.isAlphanum, digit]

theorem isWord_keyword (kind : Kind) : isWord kind.keyword = true := by
  cases kind <;> decide

/-! ### Lines -/

/-- **A line means** some statements if it is made of tokens that do, told apart. -/
def Means (line : List Char) (ss : List Statement) : Prop :=
  ∃ ts, areApart ts = true ∧ ts.flatMap Token.spell = line ∧ statements? ts = some ss

section Lines

variable {line : List Char} {ss : List Statement}

theorem Means.lineStatements? (h : Means line ss) : lineStatements? line = some ss := by
  obtain ⟨ts, apart, rfl, meaning⟩ := h
  rw [Schema.lineStatements?, tokens?_flatMap_spell apart]
  exact meaning

theorem Means.lineFeed_notMem (h : Means line ss) : '\n' ∉ line := by
  obtain ⟨ts, apart, rfl, -⟩ := h
  exact lineFeed_notMem_flatMap_spell apart

/-- The lines of a text, with nothing after the last one. -/
theorem splitAtChar_flatMap_append {lines : List (List Char)} (free : ∀ line ∈ lines, '\n' ∉ line) :
    splitAtChar '\n' (lines.flatMap (· ++ ['\n'])) = lines ++ [[]] := by
  induction lines with
  | nil => rfl
  | cons line lines ih =>
    rw [List.forall_mem_cons] at free
    rw [List.flatMap_cons, List.append_assoc, List.singleton_append, splitAtChar_append_cons,
      splitAtChar_of_notMem free.1, ih free.2]
    rfl

/-- **The items of a text** are those of what its lines say. -/
theorem read?_of_means {lines : List (List Char)} {sss : List (List Statement)}
    (h : List.Forall₂ Means lines sss) :
    read? (String.ofList (lines.flatMap (· ++ ['\n']))) = items? none sss.flatten := by
  have free : ∀ line ∈ lines, '\n' ∉ line := by
    intro line mem
    obtain ⟨k, get⟩ := List.mem_iff_getElem?.mp mem
    obtain ⟨ss, -, meaning⟩ := exists_getElem?_of_forall₂ h get
    exact meaning.lineFeed_notMem
  -- behind the last line feed there is one more line, which is empty
  have all : List.Forall₂ (fun line ss => Schema.lineStatements? line = some ss)
      (lines ++ [[]]) (sss ++ [[]]) :=
    List.rel_append (h.imp fun _ _ meaning => meaning.lineStatements?)
      (.cons rfl .nil)
  rw [read?, String.toList_ofList, splitAtChar_flatMap_append free, mapM_eq_some_iff.mpr all]
  simp

/-- Three words in a row begin a declaration. -/
theorem statements?_of_declaration? {ts later : List Token} {label type name : String}
    {d : Declaration}
    (words : ts.filter Token.isSignificant = .word label :: .word type :: .word name :: later)
    (declares : declaration? (.word label :: .word type :: .word name :: later) = some d) :
    statements? ts = some [.declaration d] := by
  have meaning : statement? (.word label :: .word type :: .word name :: later) =
      some (.declaration d) := congrArg (Option.map Statement.declaration) declares
  rw [statements?, words]
  exact congrArg (Option.map ([·])) meaning

end Lines

end Schema

/-! ### Fields -/

namespace Field

open Schema

variable {f : Field}

/-- The field as it is declared. -/
def declaration (f : Field) : Declaration :=
  ⟨f.modifier, f.type.text, f.name, f.id,
    ⟨branchOption, true, .literal f.branch⟩ ::
      if f.packed then [⟨"packed", false, .word "true"⟩] else []⟩

/-- The tokens of the line of a field. -/
def tokens (f : Field) : List Token :=
  [.blank, .blank, .word f.modifier, .blank, .word f.type.text, .blank, .word f.name, .blank,
      .mark '=', .blank, .word (toString f.id), .blank, .mark '[', .mark '(', .word branchOption,
      .mark ')', .blank, .mark '=', .blank, .literal f.branch] ++
    (if f.packed then
      [.mark ',', .blank, .word "packed", .blank, .mark '=', .blank, .word "true"]
    else []) ++
    [.mark ']', .mark ';']

theorem flatMap_spell_tokens (f : Field) : f.tokens.flatMap Token.spell = f.line := by
  unfold line
  cases packed : f.packed <;> simp [tokens, packed, Token.spell]

theorem areApart_tokens {kind : Kind} (name : isIdentifier f.name = true)
    (type : f.type = .scalar kind) : areApart f.tokens = true := by
  have modifier : isWord f.modifier = true := by
    rw [Field.modifier]
    cases f.repeated <;> rfl
  have text : isWord f.type.text = true := by
    rw [type]
    exact isWord_keyword kind
  have number : isWord f.id.repr = true := isWord_toString f.id
  have option : isWord branchOption = true := by decide
  have setting : isWord "packed" = true ∧ isWord "true" = true := by decide
  have marks : ['=', '[', '(', ')', ',', ']', ';'].all isMark = true := by decide
  simp only [List.all_cons, List.all_nil, Bool.and_eq_true] at marks
  cases packed : f.packed <;>
    simp [tokens, packed, areApart, Token.isApart, Token.isWord, isWord_of_isIdentifier name,
      modifier, text, number, option, setting, marks]

theorem declaration?_tokens (f : Field) :
    declaration? (f.tokens.filter Token.isSignificant) = some f.declaration := by
  have label : f.modifier ∈ ["optional", "required", "repeated"] := by
    rw [Field.modifier]
    cases f.repeated <;> decide
  cases packed : f.packed <;>
    simp [tokens, packed, List.filter, Token.isSignificant, declaration?, label,
      naturalOf?_toDigits, settings?, declaration]

/-- **The line of a field** declares it. -/
theorem means_line {kind : Kind} (name : isIdentifier f.name = true)
    (type : f.type = .scalar kind) : Means f.line [.declaration f.declaration] := by
  have words : ∃ later, f.tokens.filter Token.isSignificant =
      .word f.modifier :: .word f.type.text :: .word f.name :: later := ⟨_, rfl⟩
  obtain ⟨later, words⟩ := words
  have declares := f.declaration?_tokens
  rw [words] at declares
  exact ⟨f.tokens, areApart_tokens name type, f.flatMap_spell_tokens,
    statements?_of_declaration? words declares⟩

/-- **A field is what its declaration stands for.** -/
theorem field?_declaration {kind : Kind} (type : f.type = .scalar kind) :
    f.declaration.field? = some f := by
  obtain ⟨name, type', id, branch, list⟩ := f
  obtain rfl : type' = .scalar kind := type
  cases list <;>
    simp [Declaration.field?, Declaration.branch?, declaration, modifier, FieldType.text]

theorem packed_declaration (f : Field) : f.declaration.packed = f.packed := by
  cases packed : f.packed <;> simp [Declaration.packed, declaration, packed]

end Field

/-! ### Documents -/

namespace Document

open Schema

theorem means_nil : Means [] [] := ⟨[], rfl, rfl, rfl⟩

theorem means_end : Means "\x7d".toList [.closing] := ⟨[.mark '\x7d'], rfl, rfl, rfl⟩

theorem means_message {name : String} (h : isWord name = true) :
    Means ("message ".toList ++ name.toList ++ " \x7b".toList) [.opening .message name] := by
  refine ⟨[.word "message", .blank, .word name, .blank, .mark '\x7b'], ?_, ?_, rfl⟩
  · have constant : isWord "message" = true ∧ isMark '\x7b' = true := by decide
    simp [areApart, Token.isApart, Token.isWord, h, constant]
  · simp [Token.spell]

theorem means_package {name : String} (h : isWord name = true) :
    Means ("package ".toList ++ name.toList ++ [';']) [.item (.package name)] := by
  refine ⟨[.word "package", .blank, .word name, .mark ';'], ?_, ?_, rfl⟩
  · have constant : isWord "package" = true ∧ isMark ';' = true := by decide
    simp [areApart, Token.isApart, Token.isWord, h, constant]
  · simp [Token.spell]

/-- The option that names the branch of a field, as it is declared. -/
def branchDeclaration : Declaration :=
  ⟨"optional", "string", branchOption, branchOptionNumber, []⟩

/-- The field of the header, as it is declared. -/
def entriesDeclaration : Declaration := ⟨"required", "uint64", "entries", 1, []⟩

/-- The lines in front of the fields. -/
theorem means_opening (doc : Document) :
    List.Forall₂ Means doc.opening
      [[.item (.edition "proto2")], [], [.item (.package doc.package)], [],
        [.item (.dependency "google/protobuf/descriptor.proto")], [],
        [.opening .extension "google.protobuf.FieldOptions"], [.declaration branchDeclaration],
        [.closing], [], [.opening .message doc.message]] := by
  unfold opening
  refine .cons ?edition <| .cons means_nil <|
    .cons (means_package (isWord_of_isPackage doc.isPackage_package)) <| .cons means_nil <|
    .cons ?dependency <| .cons means_nil <| .cons ?extension <| .cons ?option <|
    .cons means_end <| .cons means_nil <|
    .cons (means_message (isWord_of_isIdentifier doc.isIdentifier_message)) .nil
  case edition =>
    exact ⟨[.word "syntax", .blank, .mark '=', .blank, .literal "proto2", .mark ';'], by decide,
      by decide, rfl⟩
  case dependency =>
    exact ⟨[.word "import", .blank, .literal "google/protobuf/descriptor.proto", .mark ';'],
      by decide, by decide, rfl⟩
  case extension =>
    exact ⟨[.word "extend", .blank, .word "google.protobuf.FieldOptions", .blank, .mark '\x7b'],
      by decide, by decide, rfl⟩
  case option =>
    exact ⟨[.blank, .blank, .word "optional", .blank, .word "string", .blank, .word branchOption,
      .blank, .mark '=', .blank, .word "50002", .mark ';'], by decide, by decide, by decide⟩

/-- The lines after the fields. -/
theorem means_closing :
    List.Forall₂ Means closing
      [[.closing], [], [.opening .message headerMessage], [], [.declaration entriesDeclaration],
        [.closing]] := by
  refine .cons means_end <| .cons means_nil <| .cons (means_message (by decide)) <|
    .cons ?comment <| .cons ?entries <| .cons means_end .nil
  case comment =>
    exact ⟨[.blank, .blank, .comment " number of data records following this header"], by decide,
      by decide, rfl⟩
  case entries =>
    exact ⟨[.blank, .blank, .word "required", .blank, .word "uint64", .blank, .word "entries",
      .blank, .mark '=', .blank, .word "1", .mark ';'], by decide, by decide, by decide⟩

/-- **Plain documents**: the names of the fields are identifiers, and their types have a kind. -/
def IsPlain (doc : Document) : Prop :=
  ∀ f ∈ doc.fields, isIdentifier f.name = true ∧ ∃ kind, f.type = .scalar kind

/-- The items of a document. -/
def items (doc : Document) : List Item :=
  [.edition "proto2", .package doc.package, .dependency "google/protobuf/descriptor.proto",
    .block ⟨.extension, "google.protobuf.FieldOptions", [branchDeclaration]⟩,
    .block ⟨.message, doc.message, doc.fields.map Field.declaration⟩,
    .block ⟨.message, headerMessage, [entriesDeclaration]⟩]

variable {doc : Document}

/-- **The text of a document declares its items.** -/
theorem read?_render (plain : doc.IsPlain) : read? doc.render = some doc.items := by
  have fields : List.Forall₂ Means (doc.fields.map Field.line)
      (doc.fields.map fun f => [.declaration f.declaration]) := by
    rw [List.forall₂_map_left_iff, List.forall₂_map_right_iff, List.forall₂_same]
    intro f mem
    obtain ⟨name, kind, type⟩ := plain f mem
    exact Field.means_line name type
  have flat : (doc.fields.map fun f => [Statement.declaration f.declaration]).flatten =
      (doc.fields.map Field.declaration).map .declaration := by
    rw [← List.flatMap_def, ← List.map_eq_flatMap, List.map_map]
    rfl
  have all := List.rel_append (List.rel_append doc.means_opening fields) means_closing
  rw [render, renderChars, lines, read?_of_means all]
  simp only [List.flatten_append, flat]
  simp [items?, items, items?_declarations, -List.map_map]

/-- The fields of a document are what its declarations stand for. -/
theorem mapM_field?_map_declaration (plain : doc.IsPlain) :
    (doc.fields.map Field.declaration).mapM Declaration.field? = some doc.fields := by
  refine mapM_eq_some_iff.mpr ?_
  rw [List.forall₂_map_left_iff, List.forall₂_same]
  intro f mem
  obtain ⟨-, kind, type⟩ := plain f mem
  exact Field.field?_declaration type

/-- The packed fields are the repeated ones of a packable kind. -/
theorem map_packed_map_declaration (plain : doc.IsPlain) :
    (doc.fields.map Field.declaration).map Declaration.packed =
      doc.fields.map fun f => f.repeated && f.type.kind?.any Kind.packable := by
  rw [List.map_map]
  refine List.map_congr_left fun f mem => ?_
  obtain ⟨-, kind, type⟩ := plain f mem
  rw [Function.comp_apply, Field.packed_declaration, Field.packed, type]
  rfl

/-- No two plain documents have the same text. -/
theorem eq_of_render_eq {other : Document} (plain : doc.IsPlain) (plain' : other.IsPlain)
    (same : other.render = doc.render) : other = doc := by
  have agree : some other.items = some doc.items := by
    rw [← read?_render plain', ← read?_render plain, same]
  simp only [items, Option.some.injEq, List.cons.injEq, Item.package.injEq, Item.block.injEq,
    Block.mk.injEq] at agree
  obtain ⟨-, package, -, -, ⟨-, message, declarations⟩, -⟩ := agree
  -- declarations are compared by the fields that they stand for
  have fields : some other.fields = some doc.fields := by
    rw [← mapM_field?_map_declaration plain', ← mapM_field?_map_declaration plain, declarations]
  cases other
  cases doc
  rw [mk.injEq]
  exact ⟨package, message, Option.some.inj fields⟩

/-- **The text of a document determines it.** Read back, the text of a plain document gives its
package, the name of its data message, and its fields in order, whatever their branches are called;
the packed fields are the repeated ones of a packable kind. Besides the data message there is the
header only, and the option that names branches is declared once. So no two plain documents have the
same text. -/
theorem render_determines (plain : doc.IsPlain) :
    (∃ items data header,
      read? doc.render = some items ∧
        packages items = [doc.package] ∧
        blocks .message items = [data, header] ∧
        data.name = doc.message ∧
        data.declarations.mapM Declaration.field? = some doc.fields ∧
        data.declarations.map Declaration.packed =
          doc.fields.map (fun f => f.repeated && f.type.kind?.any Kind.packable) ∧
        header = ⟨.message, headerMessage, [entriesDeclaration]⟩ ∧
        (blocks .message items).countP (·.name == headerMessage) = 1 ∧
        blocks .extension items =
          [⟨.extension, "google.protobuf.FieldOptions", [branchDeclaration]⟩]) ∧
      ∀ other : Document, other.IsPlain → other.render = doc.render → other = doc := by
  refine ⟨⟨doc.items, _, _, read?_render plain, rfl, rfl, rfl, mapM_field?_map_declaration plain,
    map_packed_map_declaration plain, rfl, ?_, rfl⟩, fun _ => eq_of_render_eq plain⟩
  have data : (doc.message == headerMessage) = false := beq_false_of_ne doc.message_ne
  simp [items, blocks, data]

/-- A document with branches that look like the end of a literal, of a message and of an escape. -/
def quoted : Document where
  package := "raw.v1"
  message := "Hits"
  fields :=
    [⟨"a", .scalar .float, 7, "\"];\n\x7d\nmessage DataHeader \x7b", true⟩,
      ⟨"b", .scalar .string, 1, "\\\", packed = true // \\n\\", true⟩,
      ⟨"c", .scalar .bool, 2, "", false⟩]
  isPackage_package := by decide
  isIdentifier_message := by decide
  message_ne := by decide

/-- What is quoted stays quoted. -/
theorem render_determines_quoted :
    quoted.IsPlain ∧
      ∃ items data, read? quoted.render = some items ∧
        packages items = ["raw.v1"] ∧
        (blocks .message items).map Block.name = ["Hits", "DataHeader"] ∧
        data ∈ blocks .message items ∧
        data.declarations.mapM Declaration.field? = some quoted.fields ∧
        data.declarations.map Declaration.packed = [true, false, false] := by
  have plain : quoted.IsPlain := by
    simp only [IsPlain, quoted, List.forall_mem_cons]
    exact ⟨⟨by decide, _, rfl⟩, ⟨by decide, _, rfl⟩, ⟨by decide, _, rfl⟩, nofun⟩
  obtain ⟨⟨items, data, header, read, package, messages, name, fields, packed, rfl, -, -⟩, -⟩ :=
    render_determines plain
  refine ⟨plain, items, data, read, package, ?_, ?_, fields, packed⟩
  · rw [messages, List.map_cons, name]
    rfl
  · simp [messages]

end Document

end TreeWire
