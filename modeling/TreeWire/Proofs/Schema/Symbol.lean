import TreeWire.Proofs.FieldName
import TreeWire.Proofs.Schema.Rendering

/-!
# Symbols of a schema

A schema declares its data message with the fields, the header with its field, and the option that
names branches. Messages and options are declared in the package, and a field is declared in its
message. A name in the line of a field is looked up in the message first and then in the package. So
the option is known to the fields by its own name, unless one of them has that name, and it is
declared once, unless the data message has that name.

The name of the option is reserved nowhere: a message may be given it, and a field gets it from the
first selected branch whose name is brought into this form. No other field has it, since what is put
at the end of a name that is taken ends with a digit.

* `TreeWire.Schema.symbols` – **the symbols that a text declares**;
* `TreeWire.Schema.resolve` – what a name in a message refers to;
* `TreeWire.exists_field_named_iff` – **the fields of a given name**, if that does not end with a
  digit;
* `TreeWire.Document.symbolsNamed_items` – the symbols that are called like the option;
* `TreeWire.Document.symbolsNamed_branchOption_iff` – **the main statement.**
-/

namespace TreeWire

/-! ### Symbols -/

namespace Schema

/-- **A symbol**, by the names that lead to it from the package. -/
abbrev Symbol := List String

/-- The symbols that an item declares. An extension adds its declarations to another message, but
the names of what it adds belong to the package. -/
def Item.symbols : Item → List Symbol
  | .block ⟨.message, name, ds⟩ => [name] :: ds.map fun d => [name, d.name]
  | .block ⟨.extension, _, ds⟩ => ds.map fun d => [d.name]
  | _ => []

/-- **The symbols that a text declares.** -/
def symbols (items : List Item) : List Symbol := items.flatMap Item.symbols

/-- The symbols of a name among some. -/
def symbolsNamed (name : String) (ss : List Symbol) : List Symbol :=
  ss.filter (·.getLast? == some name)

/-- **What a name in a message refers to**: what is declared in the message goes before what is
declared in the package. -/
def resolve (ss : List Symbol) (message name : String) : Option Symbol :=
  if [message, name] ∈ ss then some [message, name]
  else if [name] ∈ ss then some [name]
  else none

theorem symbolsNamed_append (name : String) (ss ts : List Symbol) :
    symbolsNamed name (ss ++ ts) = symbolsNamed name ss ++ symbolsNamed name ts :=
  List.filter_append ss ts

end Schema

/-! ### Names that do not end with a digit -/

/-- A suffix ends with a digit. -/
theorem exists_getLast?_suffixOf (name : String) (id : Nat) :
    ∃ c, (name ++ suffixOf id).toList.getLast? = some c ∧ c.isDigit = true := by
  obtain ⟨c, last⟩ : ∃ c, (Nat.toDigits 10 id).getLast? = some c :=
    ⟨_, List.getLast?_eq_some_getLast Nat.toDigits_ne_nil⟩
  refine ⟨c, ?_, ?_⟩
  · have digits : (toString id).toList = Nat.toDigits 10 id := Nat.toList_repr
    rw [suffixOf, String.toList_append, String.toList_append, digits, List.getLast?_append,
      List.getLast?_append, last]
    rfl
  · exact Nat.isDigit_of_mem_toDigits (by decide) (by decide) (List.mem_of_getLast? last)

section Extraction

variable {selection : Selection} {bs : List Branch} {ids ids' : Numbering} {fields : List Field}
  {name : String}

/-- **The fields of a given name** that does not end with a digit: there is one exactly if the name
is made of that of a selected branch. -/
theorem exists_field_named_iff (run : fieldsOf selection [] bs ids = (.ok fields, ids'))
    (letter : ∀ c ∈ name.toList.getLast?, c.isDigit = false) :
    (∃ f ∈ fields, f.name = name) ↔
      ∃ b ∈ bs, selection.accepts b.name = true ∧ fieldName b.name = name := by
  have made := fieldsOf_eq_ok run
  constructor
  · rintro ⟨f, mem, rfl⟩
    obtain ⟨k, get⟩ := List.getElem?_of_mem mem
    obtain ⟨n, -, freed⟩ := exists_freed_fieldsOf run get
    obtain ⟨b, here, ofBranch⟩ := exists_getElem?_of_forall₂ made get
    obtain ⟨there, accepted⟩ := List.mem_filter.mp (List.mem_of_getElem? here)
    refine ⟨b, there, accepted, ?_⟩
    cases n with
    | zero => rw [← ofBranch.branch]; exact freed.suffixed.symm
    | succ n =>
      -- with a suffix, the name would end with a digit
      obtain ⟨c, last, digit⟩ :=
        exists_getLast?_suffixOf ((· ++ suffixOf f.id)^[n] (fieldName f.branch)) f.id
      have ended := freed.suffixed
      rw [Function.iterate_succ_apply'] at ended
      rw [ended] at letter
      rw [letter c last] at digit
      cases digit
  · rintro ⟨b, there, accepted, rfl⟩
    obtain ⟨k, here⟩ := List.getElem?_of_mem
      (show b ∈ bs.filter (selection.accepts ·.name) from List.mem_filter.mpr ⟨there, accepted⟩)
    obtain ⟨f, get, ofBranch⟩ := exists_getElem?_of_forall₂ made.flip here
    obtain ⟨n, -, freed⟩ := exists_freed_fieldsOf run get
    rw [ofBranch.branch] at freed
    cases n with
    | zero => exact ⟨f, List.mem_of_getElem? get, freed.suffixed⟩
    | succ n =>
      -- an earlier field has taken the name
      have taken := freed.earlier 0 (Nat.succ_pos n)
      rw [List.nil_append, Function.iterate_zero_apply] at taken
      obtain ⟨g, mem, same⟩ := List.mem_map.mp taken
      exact ⟨g, List.mem_of_mem_take mem, same⟩

end Extraction

/-! ### The symbols of a document -/

namespace Document

open Schema

variable {doc : Document}

/-- The symbols of a document. -/
theorem symbols_items (doc : Document) :
    symbols doc.items =
      [branchOption] :: [doc.message] :: (doc.fields.map fun f => [doc.message, f.name]) ++
        [[headerMessage], [headerMessage, "entries"]] := by
  simp [symbols, items, Item.symbols, branchDeclaration, entriesDeclaration, Field.declaration]

/-- The fields of a name in a message are at most one symbol if their names are different. -/
theorem symbolsNamed_fields (message name : String) {fields : List Field}
    (distinct : (fields.map (·.name)).Nodup) :
    symbolsNamed name (fields.map fun f => [message, f.name]) =
      if name ∈ fields.map (·.name) then [[message, name]] else [] := by
  have filtered : symbolsNamed name (fields.map fun f => [message, f.name]) =
      ((fields.map (·.name)).filter (· == name)).map fun n => [message, n] := by
    rw [symbolsNamed, List.filter_map, List.filter_map, List.map_map]
    rfl
  rw [filtered, List.filter_beq, List.Nodup.count distinct]
  split <;> rfl

/-- **The symbols that are called like the option**: the option, the data message if it has this
name, and the field that has it. -/
theorem symbolsNamed_items (distinct : (doc.fields.map (·.name)).Nodup) :
    symbolsNamed branchOption (symbols doc.items) =
      [branchOption] :: (if doc.message = branchOption then [[branchOption]] else []) ++
        if branchOption ∈ doc.fields.map (·.name) then [[doc.message, branchOption]] else [] := by
  have header : symbolsNamed branchOption [[headerMessage], [headerMessage, "entries"]] = [] := by
    decide
  have front : symbolsNamed branchOption [[branchOption], [doc.message]] =
      [branchOption] :: if doc.message = branchOption then [[branchOption]] else [] := by
    by_cases same : doc.message = branchOption <;> simp [symbolsNamed, same]
  have split : symbols doc.items = [[branchOption], [doc.message]] ++
      (doc.fields.map fun f => [doc.message, f.name]) ++
        [[headerMessage], [headerMessage, "entries"]] := by
    rw [symbols_items]
    rfl
  rw [split, symbolsNamed_append, symbolsNamed_append, header, front,
    symbolsNamed_fields doc.message branchOption distinct, List.append_nil]

/-- What the name of the option refers to in the data message. -/
theorem resolve_items (doc : Document) :
    resolve (symbols doc.items) doc.message branchOption =
      if branchOption ∈ doc.fields.map (·.name) then some [doc.message, branchOption]
      else some [branchOption] := by
  have option : [branchOption] ∈ symbols doc.items := by
    rw [symbols_items]
    exact List.mem_cons_self
  have field : [doc.message, branchOption] ∈ symbols doc.items ↔
      branchOption ∈ doc.fields.map (·.name) := by
    have other : branchOption ≠ "entries" := by decide
    simp [symbols_items, other]
  rw [resolve, if_pos option]
  simp only [field]

/-- **When the name of the option stands for the option alone.** Of a document that is made of an
extraction, no other symbol is called like the option exactly if the data message is not, and if no
selected branch has a name that leads to it. In the lines of the fields the name refers to the
option exactly if there is no such branch, and in the package it is declared once exactly if the
data message is called otherwise. If all types have a kind, then these are the symbols that are read
back from the text of the document. -/
theorem symbolsNamed_branchOption_iff {t : Tree} {selection : Selection} {ids ids' : Numbering}
    {fields : List Field} {package message : String}
    (extracted : t.extract selection ids = (.ok fields, ids'))
    (made : Document.of package message fields = .ok doc) :
    (symbolsNamed branchOption (symbols doc.items) = [[branchOption]] ↔
      message ≠ branchOption ∧ ∀ b ∈ t.branches, selection.accepts b.name = true →
        fieldName b.name ≠ branchOption) ∧
    (resolve (symbols doc.items) message branchOption = some [branchOption] ↔
      ∀ b ∈ t.branches, selection.accepts b.name = true → fieldName b.name ≠ branchOption) ∧
    ((symbols doc.items).count [branchOption] = 1 ↔ message ≠ branchOption) ∧
    ((∀ f ∈ fields, ∃ kind, f.type = .scalar kind) → read? doc.render = some doc.items) := by
  obtain ⟨-, rfl, rfl⟩ := of_eq_ok made
  obtain ⟨distinct, -⟩ := nodup_names_fieldsOf extracted
  have letter : ∀ c ∈ branchOption.toList.getLast?, c.isDigit = false := by
    intro c last
    obtain rfl : 'h' = c := by simpa [branchOption] using last
    rfl
  -- the fields are asked for by their names, and the branches by the names made of theirs
  have named : branchOption ∈ doc.fields.map (·.name) ↔
      ¬ ∀ b ∈ t.branches, selection.accepts b.name = true → fieldName b.name ≠ branchOption := by
    rw [List.mem_map, exists_field_named_iff extracted letter]
    simp only [ne_eq, not_forall, not_not, exists_prop]
  refine ⟨?_, ?_, ?_, fun scalar => read?_render fun f mem => ⟨?_, scalar f mem⟩⟩
  · rw [symbolsNamed_items distinct]
    by_cases field : branchOption ∈ doc.fields.map (·.name)
    · rw [if_pos field]
      exact iff_of_false (by simp) fun unnamed => named.mp field unnamed.2
    rw [if_neg field, List.append_nil]
    by_cases taken : doc.message = branchOption
    · rw [if_pos taken]
      exact iff_of_false (by simp) fun free => free.1 taken
    · rw [if_neg taken]
      exact iff_of_true rfl ⟨taken, not_not.mp (mt named.mpr field)⟩
  · rw [resolve_items]
    by_cases field : branchOption ∈ doc.fields.map (·.name)
    · rw [if_pos field]
      exact iff_of_false (by simp) (named.mp field)
    · rw [if_neg field]
      exact iff_of_true rfl (not_not.mp (mt named.mpr field))
  · have header : [headerMessage] ≠ [branchOption] := by decide
    have fields : (doc.fields.map fun f => [doc.message, f.name]).count [branchOption] = 0 :=
      List.count_eq_zero.mpr (by simp)
    rw [symbols_items]
    simp [List.count_cons, header, fields]
  · obtain ⟨k, get⟩ := List.getElem?_of_mem mem
    obtain ⟨n, -, freed⟩ := exists_freed_fieldsOf extracted get
    rw [isIdentifier, freed.suffixed]
    exact ((isName_fieldName f.branch).iterate f.id n).identifier

/-- A tree with two branches whose names lead to that of the option. -/
def sourcesTree : Tree where
  name := "t"
  branches :=
    [⟨"x", "", "int", #[]⟩, ⟨"sourceBranch", "", "int", #[]⟩, ⟨"source.branch", "", "int", #[]⟩]
  entries := 0
  size_values := by simp
  entries_eq_zero := nofun

/-- A document of its first field, and one of all its fields with a message that is called like the
option. -/
def sourcesDocument (all : Bool) : Document where
  package := "p"
  message := if all then "source_branch" else "M"
  fields :=
    ⟨"x", .scalar .int32, 1, "x", false⟩ ::
      if all then
        [⟨"source_branch", .scalar .int32, 2, "sourceBranch", false⟩,
          ⟨"source_branch_3", .scalar .int32, 3, "source.branch", false⟩]
      else []
  isPackage_package := by decide
  isIdentifier_message := by cases all <;> decide
  message_ne := by cases all <;> decide

/-- The two branches are left out: the option has its name for itself. -/
theorem symbolsNamed_branchOption_iff_excluded :
    symbolsNamed branchOption (symbols (sourcesDocument false).items) = [[branchOption]] ∧
    resolve (symbols (sourcesDocument false).items) "M" branchOption = some [branchOption] ∧
    read? (sourcesDocument false).render = some (sourcesDocument false).items := by
  have extracted : sourcesTree.extract (.parse "-s*") .start =
      (.ok (sourcesDocument false).fields, ⟨2⟩) := by
    decide +kernel
  have made : Document.of "p" "M" (sourcesDocument false).fields = .ok (sourcesDocument false) :=
    rfl
  have others : ∀ b ∈ sourcesTree.branches, (Selection.parse "-s*").accepts b.name = true →
      fieldName b.name ≠ branchOption := by
    decide +kernel
  obtain ⟨alone, refers, -, text⟩ := symbolsNamed_branchOption_iff extracted made
  refine ⟨alone.mpr ⟨by decide, others⟩, refers.mpr others, text ?_⟩
  simp [sourcesDocument]

/-- **The name of the option is taken** by the data message and by the field of the first of the two
branches, to which the name refers in the message. -/
theorem symbolsNamed_misses_namesakes :
    sourcesTree.extract .all .start = (.ok (sourcesDocument true).fields, ⟨4⟩) ∧
    Document.of "p" "source_branch" (sourcesDocument true).fields = .ok (sourcesDocument true) ∧
    symbolsNamed branchOption (symbols (sourcesDocument true).items) =
      [["source_branch"], ["source_branch"], ["source_branch", "source_branch"]] ∧
    resolve (symbols (sourcesDocument true).items) "source_branch" "source_branch" =
      some ["source_branch", "source_branch"] := by
  refine ⟨by decide +kernel, rfl, by decide +kernel, by decide +kernel⟩

end Document

end TreeWire
