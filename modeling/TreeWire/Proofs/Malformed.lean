import TreeWire.Proofs.Selection

/-!
# Malformed globs

A selection keeps the rules whose texts are no globs, although they match nothing, and lists their
texts as malformed. What a glob is has been said without a reader: it is made of terms, at least
one, each of them a star, a question mark, a character with or without a backslash, or brackets
around the members of a class. This file says that being rejected is the same as not being made in
this way, so a text is rejected neither because the reader gives up too early nor because the
regular expression that is written for it could not be read.

* `TreeWire.Glob.IsGlob` – **the texts that are globs**, which is decidable;
* `TreeWire.Glob.compile?_eq_none_iff` – the texts without a regular expression;
* `TreeWire.Selection.malformed_eq_filter` – what a selection lists as malformed;
* `TreeWire.Selection.malformed_iff_not_isGlob` – **the main statement**: exactly the texts that are
  no globs are malformed.
-/

namespace TreeWire

namespace Glob

/-! ### Texts that are globs -/

/-- **The texts that are globs**: terms one after the other, at least one. -/
def IsGlob (text : List Char) : Prop := ∃ g, g ≠ [] ∧ Spells text g

/-- A text can be read exactly if it is a glob. -/
theorem isSome_parse?_iff {text : String} :
    (parse? text).isSome = true ↔ IsGlob text.toList := by
  rw [Option.isSome_iff_exists]
  exact exists_congr fun _ => parse?_eq_some_iff

instance : DecidablePred IsGlob := fun text =>
  decidable_of_iff ((parse? (String.ofList text)).isSome = true)
    (by rw [isSome_parse?_iff, String.toList_ofList])

/-- **The expression of a glob can be read**, and it is what is compiled. -/
theorem compile?_of_spells {text : String} {g : Glob} (present : g ≠ [])
    (written : Spells text.toList g) :
    Regex.parse? g.pattern = some g.regex ∧ compile? text = some g.regex := by
  refine ⟨parse?_pattern written, ?_⟩
  rw [compile?_eq, parse?_eq_some_iff.mpr ⟨present, written⟩]
  rfl

/-- **A text has no regular expression** exactly if it is no glob. -/
theorem compile?_eq_none_iff {text : String} : compile? text = none ↔ ¬ IsGlob text.toList := by
  rw [compile?_eq, Option.map_eq_none_iff, ← isSome_parse?_iff, Option.not_isSome_iff_eq_none]

-- a hyphen needs a member on both sides, the first of two members is not the later character, and
-- neither brackets nor a backslash may be left without what they stand in front of
example : ¬ IsGlob "x[a-]".toList ∧ ¬ IsGlob "[z-a]".toList ∧ ¬ IsGlob "[]a]".toList ∧
    ¬ IsGlob "[^]".toList ∧ ¬ IsGlob "a\\".toList ∧ IsGlob "[^^\\]a-z]".toList := by
  decide

end Glob

namespace Selection

/-! ### Rules of texts that are no globs -/

/-- A rule without a regular expression matches no name. -/
theorem holds_of_pattern_eq_none {r : Rule} (h : r.pattern = none) (name : String) :
    r.holds name = false := by
  rw [Rule.holds, h]

/-- The rule of an entry has no regular expression exactly if its text is no glob. -/
theorem pattern_ofEntry_eq_none_iff {entry : List Char} :
    (Rule.ofEntry entry).pattern = none ↔ ¬ Glob.IsGlob (Rule.ofEntry entry).text.toList := by
  rw [pattern_ofEntry, Glob.compile?_eq_none_iff]

/-- **What a selection lists as malformed**: the texts of its rules that are no globs, in order. -/
theorem malformed_eq_filter (spec : String) :
    (parse spec).malformed =
      ((parse spec).rules.map (·.text)).filter fun text => ¬ Glob.IsGlob text.toList := by
  obtain ⟨entries, -, rules⟩ := exists_entries_of_parse spec
  rw [malformed, List.filter_map]
  refine congrArg _ (List.filter_congr fun r mem => ?_)
  obtain ⟨entry, -, rfl⟩ := List.mem_map.mp (rules ▸ mem)
  rw [Bool.eq_iff_iff, Option.isNone_iff_eq_none, pattern_ofEntry_eq_none_iff]
  exact decide_eq_true_iff.symm

/-- **Exactly the texts that are no globs are malformed.** No regular expression is compiled from a
text exactly if the text is no glob, and the one that is written for a glob can always be read. The
rules of a selection have the signs and the texts of its entries; those of them whose texts are no
globs match no name, and it is their texts that are listed as malformed, in order. -/
theorem malformed_iff_not_isGlob (text spec : String) :
    ((Glob.compile? text = none ↔ ¬ Glob.IsGlob text.toList) ∧
      ∀ g : Glob, g ≠ [] → Glob.Spells text.toList g →
        ∃ r, Regex.parse? g.pattern = some r ∧ Glob.compile? text = some r) ∧
    ∃ entries, Entries spec.toList entries ∧
      List.Forall₂ (fun entry r => Signs entry r.selects r.text.toList ∧
          (r.pattern = none ↔ ¬ Glob.IsGlob r.text.toList) ∧
          (¬ Glob.IsGlob r.text.toList → ∀ name, r.holds name = false))
        entries (parse spec).rules ∧
      (parse spec).malformed =
        ((parse spec).rules.map (·.text)).filter fun text => ¬ Glob.IsGlob text.toList := by
  obtain ⟨entries, split, rules⟩ := exists_entries_of_parse spec
  refine ⟨⟨Glob.compile?_eq_none_iff, fun g present written => ?_⟩, entries, split, ?_,
    malformed_eq_filter spec⟩
  · exact ⟨Glob.regex g, Glob.compile?_of_spells present written⟩
  · rw [rules, List.forall₂_map_right_iff, List.forall₂_same]
    intro entry _
    exact ⟨signs_ofEntry entry, pattern_ofEntry_eq_none_iff, fun no =>
      holds_of_pattern_eq_none (pattern_ofEntry_eq_none_iff.mpr no)⟩

end Selection

end TreeWire
