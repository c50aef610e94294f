import TreeWire.Command.Perform
import TreeWire.Proofs.Compression
import TreeWire.Proofs.Modes

/-!
# Files that are named after others

A schema is written to where the user says. The compiler runs in the directory of the schema and
leaves the descriptor set there, and the data file is put there as well unless the user says
otherwise. The descriptor set is named after the schema, and the data file is named after the data
that it is made of, with other endings than theirs. So neither of the two takes the place of the
other one, nor of the data that are read.

The ending of the schema is up to the user. If it is that of descriptor sets, then the schema has
the name of its own descriptor set, and if the schema is named like the data file, then it is in the
place of that one. In both cases what is written later destroys the schema, and nothing is in the
way of that.

* `TreeWire.dataName` – the name of the data file;
* `TreeWire.Store.Apart` – **paths that lead to different places**, and
  `TreeWire.Store.eq_iff_of_locate_directory` for files in one directory;
* `TreeWire.descriptorName_eq_iff` – the schemas that are named like their descriptor sets;
* `TreeWire.Compiler.exists_arguments` – what the compiler is told to write;
* `TreeWire.Command.locate_artifacts` – **the main statement.**
-/

namespace TreeWire

open TreeWire.Path

/-! ### Paths that lead to different places -/

namespace Store

variable {s : Store} {workingDirectory : String}

/-- **Two paths lead apart** if they do not lead to one location. -/
def Apart (s : Store) (workingDirectory path other : String) : Prop :=
  ∀ l m, s.locate workingDirectory path = .ok l → s.locate workingDirectory other = .ok m → l ≠ m

/-- **Where a path with a file name leads** there is something of this name. -/
theorem exists_of_locate_fileName {path name : String} {l : Location}
    (named : fileName? path = some name) (located : s.locate workingDirectory path = .ok l) :
    ∃ k, s.walk (if isAbsolute (directory path).toList = true then []
        else locationOf workingDirectory) (components (directory path).toList) = .ok k ∧
      l = k ++ [name] := by
  obtain ⟨mem, down⟩ := mem_components_of_fileName? named
  exact exists_of_locate (components_directory named) (slash_notMem_of_mem_components mem).2 down
    located

/-- Files of different names are different files. -/
theorem apart_of_fileName {path other name name' : String} (named : fileName? path = some name)
    (named' : fileName? other = some name') (differ : name ≠ name') :
    s.Apart workingDirectory path other := by
  intro l m located located' same
  obtain ⟨k, -, rfl⟩ := exists_of_locate_fileName named located
  obtain ⟨k', -, rfl⟩ := exists_of_locate_fileName named' located'
  exact differ (List.singleton_inj.mp (List.append_inj' same rfl).2)

/-- **Files in one directory** are the same exactly if they have the same name. -/
theorem eq_iff_of_locate_directory {path name name' : String} {l m : Location}
    (named : fileName? path = some name) (free : '/' ∉ name'.toList)
    (counts : isComponent name'.toList = true) (down : name' ≠ "..")
    (located : s.locate workingDirectory path = .ok l)
    (located' : s.locate workingDirectory (join (directory path) name') = .ok m) :
    l = m ↔ name = name' := by
  obtain ⟨parts, root⟩ := components_join (directory_ne_empty path) free counts
  obtain ⟨k, there, rfl⟩ := exists_of_locate_fileName named located
  obtain ⟨k', there', rfl⟩ := exists_of_locate ⟨parts, root.symm⟩ counts down located'
  obtain rfl : k = k' := Except.ok.inj (there.symm.trans there')
  rw [List.append_right_inj, List.singleton_inj]

end Store

/-! ### Names -/

/-- The name of the data file where none is given: the name of the data, with another ending. -/
def dataName (input : String) : String :=
  (stem? (Command.dropCompressed ((fileName? input).getD ""))).getD "data" ++ ".pbuf"

theorem defaultDataPath_eq (near input : String) :
    Command.defaultDataPath near input = join (directory near) (dataName input) := rfl

/-- The name of a data file can be part of a path. -/
theorem dataName_spec (input : String) :
    '/' ∉ (dataName input).toList ∧ isComponent (dataName input).toList = true ∧
      dataName input ≠ ".." :=
  append_spec (slash_notMem_stem _ (by decide)) (by decide) (by decide)

/-- **The file name of a data file** where none is given. -/
theorem fileName?_defaultDataPath (near input : String) :
    fileName? (Command.defaultDataPath near input) = some (dataName input) := by
  obtain ⟨free, counts, down⟩ := dataName_spec input
  rw [defaultDataPath_eq]
  exact fileName?_join (directory_ne_empty near) free counts down

/-- How the names end that are made. -/
theorem getLast?_names (schema input : String) :
    (descriptorName schema).toList.getLast? = some 'c' ∧
      (dataName input).toList.getLast? = some 'f' := by
  constructor
  · rw [descriptorName, String.toList_append, List.getLast?_append]
    rfl
  · rw [dataName, String.toList_append, List.getLast?_append]
    rfl

/-- A descriptor set is not named like a data file. -/
theorem descriptorName_ne_dataName (schema input : String) :
    descriptorName schema ≠ dataName input := by
  intro same
  obtain ⟨last, last'⟩ := getLast?_names schema input
  rw [same, last'] at last
  exact absurd last (by decide)

/-- **How the name of a dump ends**, in any case. -/
theorem Source.getLast?_of_isDump {path : String} (dump : Source.isDump path = true) :
    ∃ name, fileName? path = some name ∧
      ∃ c, name.toList.getLast? = some c ∧ (c.toLower = 'n' ∨ c.toLower = 'z') := by
  obtain ⟨ending, last, ends, one⟩ : ∃ ending last, ending ++ [last] <:+ lowerName path ∧
      (last = 'n' ∨ last = 'z') := by
    rcases Bool.or_eq_true_iff.mp dump with plain | compressed
    · exact ⟨".jso".toList, 'n', List.isSuffixOf_iff_suffix.mp plain, Or.inl rfl⟩
    · exact ⟨".json.g".toList, 'z', List.isSuffixOf_iff_suffix.mp compressed, Or.inr rfl⟩
  obtain ⟨name, front, back, named, whole, lower⟩ := exists_name_of_suffix (by simp) ends
  refine ⟨name, named, ?_⟩
  obtain ⟨before, after, rfl, -, small⟩ := List.map_eq_append_iff.mp lower
  obtain ⟨c, rfl, rfl⟩ := List.map_eq_singleton_iff.mp small
  refine ⟨c, ?_, one⟩
  rw [whole, ← List.append_assoc, List.getLast?_concat]

/-- **A schema that is named like its descriptor set** has the ending of descriptor sets. -/
theorem descriptorName_eq_iff {schema name : String} (named : fileName? schema = some name) :
    name = descriptorName schema ↔ extension? schema = some "desc" := by
  have stem : stem? schema = some (String.ofList (splitDot name.toList).1) := by
    rw [stem?, named]
    rfl
  have extension : extension? schema = some "desc" ↔
      (splitDot name.toList).2 = some "desc".toList := by
    rw [extension?, named]
    constructor
    · intro h
      obtain ⟨text, split, same⟩ := Option.map_eq_some_iff.mp h
      rw [split, ← same, String.toList_ofList]
    · intro split
      simp only [split, Option.map_some, String.ofList_toList]
  have made : (descriptorName schema).toList =
      (splitDot name.toList).1 ++ '.' :: "desc".toList := by
    rw [descriptorName, stem, Option.getD_some, String.toList_append, String.toList_ofList]
    rfl
  have last : '.' ∉ "desc".toList := by decide
  rw [extension, ← String.toList_inj, made]
  constructor
  · intro whole
    have split := splitDot_append (splitDot name.toList).1 last
    rw [← whole] at split
    by_cases empty : (splitDot name.toList).1 = []
    · -- a name is not split at its first character
      rw [if_pos empty] at split
      have none : [] = name.toList := empty.symm.trans (congrArg Prod.fst split)
      rw [empty, ← none] at whole
      cases whole
    · rw [if_neg empty] at split
      exact congrArg Prod.snd split
  · intro split
    obtain ⟨-, front, present, whole⟩ := splitDot_snd_eq_some_iff.mp split
    have cut := splitDot_append front last
    rw [if_neg present, ← whole] at cut
    rw [cut]
    exact whole

/-! ### What the compiler is told -/

/-- **What the compiler is told to write** is the file named like a descriptor set in the directory
in which it runs, and what it is told to read is the schema there. -/
theorem Compiler.exists_arguments {schema name : String} (named : fileName? schema = some name)
    (c : Compiler) (h : Host) (languages : List String) :
    ∃ arguments others,
      arguments = others ++ ["--descriptor_set_out=" ++ descriptorName schema, name] ∧
      c.arguments schema languages = .ok arguments ∧
      c.compile h schema languages = (do
        h.runProgram c.program arguments (directory schema)
        return descriptorPath schema) := by
  refine ⟨_, "--proto_path=." :: c.includes.map ("--proto_path=" ++ ·) ++
    languages.map (fun l => "--" ++ l ++ "_out=."), rfl, ?_⟩
  rw [compile, arguments, named]
  exact ⟨rfl, rfl⟩

namespace Command

/-- **Files that are named after others.** The compiler is told to write the file in its directory
that the path of the descriptor set leads to. The descriptor set, the data file where none is given,
and the data that are read are different files in every store. The schema is another file than its
descriptor set exactly if it does not have the ending of one, and another file than the data file
exactly if it is not named like that one. -/
theorem locate_artifacts {schema source name : String} (named : fileName? schema = some name)
    (dump : Source.isDump source = true) (s : Store) (workingDirectory : String) :
    (∀ (c : Compiler) (h : Host) (languages : List String), ∃ arguments others,
      arguments = others ++ ["--descriptor_set_out=" ++ descriptorName schema, name] ∧
      c.arguments schema languages = .ok arguments ∧
      c.compile h schema languages = (do
        h.runProgram c.program arguments (directory schema)
        return descriptorPath schema)) ∧
    (∀ l, s.locate workingDirectory (descriptorPath schema) = .ok l →
      ∃ k, s.locate workingDirectory (directory schema) = .ok k ∧ s.get? k = some .directory ∧
        l = k ++ [descriptorName schema]) ∧
    [descriptorPath schema, defaultDataPath schema source, source].Pairwise
      (s.Apart workingDirectory) ∧
    (∀ k, s.locate workingDirectory schema = .ok k →
      (∀ l, s.locate workingDirectory (descriptorPath schema) = .ok l →
        (k ≠ l ↔ extension? schema ≠ some "desc")) ∧
      ∀ l, s.locate workingDirectory (defaultDataPath schema source) = .ok l →
        (k ≠ l ↔ name ≠ dataName source)) := by
  obtain ⟨input, named', c, last, lower⟩ := Source.getLast?_of_isDump dump
  obtain ⟨descriptor, data⟩ := getLast?_names schema source
  obtain ⟨free, counts, down⟩ := Build.descriptorName_spec schema
  obtain ⟨free', counts', down'⟩ := dataName_spec source
  have descriptorNamed := Build.fileName?_descriptorPath schema
  have dataNamed := fileName?_defaultDataPath schema source
  -- the three names differ in their last characters
  have notDescriptor : descriptorName schema ≠ input := by
    rintro rfl
    obtain rfl := Option.some.inj (descriptor.symm.trans last)
    exact absurd lower (by decide)
  have notData : dataName source ≠ input := by
    rintro rfl
    obtain rfl := Option.some.inj (data.symm.trans last)
    exact absurd lower (by decide)
  refine ⟨fun c h => c.exists_arguments named h, fun l located => ?_, ?_, fun k located => ⟨?_, ?_⟩⟩
  · obtain ⟨k, there, stands, -, -, -, ended⟩ :=
      (Store.locate_join_eq_ok_iff (directory_ne_empty schema) free counts down).mp located
    exact ⟨k, there, stands, ended⟩
  · rw [List.pairwise_cons, List.pairwise_pair]
    refine ⟨fun path mem => ?_, Store.apart_of_fileName dataNamed named' notData⟩
    rcases List.mem_pair.mp mem with data | input
    · rw [data]
      exact Store.apart_of_fileName descriptorNamed dataNamed
        (descriptorName_ne_dataName schema source)
    · rw [input]
      exact Store.apart_of_fileName descriptorNamed named' notDescriptor
  · intro l located'
    rw [ne_eq, ne_eq, ← descriptorName_eq_iff named]
    exact not_congr (Store.eq_iff_of_locate_directory named free counts down located located')
  · intro l located'
    exact not_congr (Store.eq_iff_of_locate_directory named free' counts' down' located located')

/-- Names with several dots: all four files are different ones. -/
theorem locate_artifacts_dots :
    [descriptorPath "a.b.proto", defaultDataPath "a.b.proto" "r.1.json.gz", "r.1.json.gz"].Pairwise
      (Store.empty.Apart "/") ∧
    Store.empty.locate "/" "a.b.proto" = .ok ["a.b.proto"] ∧
    (["a.b.proto"] : Location) ≠ ["a.b.desc"] ∧ (["a.b.proto"] : Location) ≠ ["r.1.pbuf"] := by
  have named : fileName? "a.b.proto" = some "a.b.proto" := by decide +kernel
  have dump : Source.isDump "r.1.json.gz" = true := by decide +kernel
  have schema : Store.empty.locate "/" "a.b.proto" = .ok ["a.b.proto"] := by decide +kernel
  have descriptor : Store.empty.locate "/" (descriptorPath "a.b.proto") = .ok ["a.b.desc"] := by
    decide +kernel
  have data : Store.empty.locate "/" (defaultDataPath "a.b.proto" "r.1.json.gz") =
      .ok ["r.1.pbuf"] := by
    decide +kernel
  obtain ⟨-, -, apart, away⟩ := locate_artifacts named dump Store.empty "/"
  obtain ⟨fromDescriptor, fromData⟩ := away _ schema
  exact ⟨apart, schema, (fromDescriptor _ descriptor).mpr (by decide +kernel),
    (fromData _ data).mpr (by decide +kernel)⟩

/-- **A schema in the place of what is named after it**: with the ending of descriptor sets, the
compiler is told to write the file that it is told to read, and with the name of the data file, the
records are written over the schema. -/
theorem locate_artifacts_clash :
    fileName? "e.desc" = some "e.desc" ∧ fileName? "r.pbuf" = some "r.pbuf" ∧
    Source.isDump "r.json" = true ∧
    Compiler.arguments {} "e.desc" [] =
      .ok ["--proto_path=.", "--descriptor_set_out=e.desc", "e.desc"] ∧
    Store.empty.locate "/" "e.desc" = .ok ["e.desc"] ∧
    Store.empty.locate "/" (descriptorPath "e.desc") = .ok ["e.desc"] ∧
    Store.empty.locate "/" "r.pbuf" = .ok ["r.pbuf"] ∧
    Store.empty.locate "/" (defaultDataPath "r.pbuf" "r.json") = .ok ["r.pbuf"] := by
  decide +kernel

end Command

end TreeWire
