import Conformance.Proofs.Descriptor.Counts
import Conformance.Proofs.Descriptor.Reading
import Conformance.Proofs.Validator.Modes

/-!
# Sources of regexes in descriptors

The source of a regex is read without switches, and as a string rule if it has the shape of one.  Either
way it is a rule that searches as the regex does, unless its counts are digits of another script.

## Main Definitions

* `StringRule.HasPlainCounts` — a source whose counts, if it has the shape of a string rule, are digits of
  ASCII
* `Leaf.SearchesAs` — a rule that finds a match wherever a regex does
* `Regex.findsInValue?` — what the search of a regex says of any value

## Main statements

* `Leaf.SearchesAs.outcome_check` — a rule that searches as a regex has the verdicts of the regex
* `Descriptor.reads_source` — a source is read as a rule that searches as its regex
-/

namespace Conformance

/-- **The counts of a source are digits of ASCII**, if it has the shape of a string rule. -/
def StringRule.HasPlainCounts (source : String) : Prop :=
  ∀ charset counts, split? source = some (charset, counts) → counts.IsAscii

/-- A source without the shape of a string rule has no counts. -/
theorem StringRule.hasPlainCounts_of_shape {source : String} (h : split? source = none) :
    HasPlainCounts source := by
  intro charset counts hsplit
  cases h.symm.trans hsplit

/-- **A rule searches as a regex**: it is the regex, or a string rule with the same tree. -/
inductive Leaf.SearchesAs (r : Regex) : Leaf → Prop where
  | regex : SearchesAs r (regex r)
  | stringOf {rule : CharsetRule} : rule.regex.tree = r.tree → SearchesAs r (stringOf rule)

/-- Where a match is found depends on the tree only. -/
theorem Regex.findsIn?_eq_of_tree {r r' : Regex} (h : r'.tree = r.tree) (text : String) :
    r'.findsIn? text = r.findsIn? text := by
  rw [findsIn?, findsIn?, h]

/-- What the search of a regex says of a value: there are matches in texts only. -/
def Regex.findsInValue? (r : Regex) : Value → Except Fault Bool
  | .text text => r.findsIn? text
  | _ => .ok false

theorem Regex.findsInValue?_eq_ok_true_iff {r : Regex} {x : Value} :
    r.findsInValue? x = .ok true ↔ ∃ text, x = .text text ∧ r.findsIn? text = .ok true := by
  constructor
  · intro h
    cases x with
    | text text => exact ⟨text, rfl, h⟩
    | _ => cases h
  · rintro ⟨text, rfl, h⟩
    exact h

/-- **A rule that searches as a regex accepts the texts in which the regex finds a match.** -/
theorem Leaf.SearchesAs.outcome_check {r : Regex} {rule : Leaf} (h : rule.SearchesAs r) (env : Env)
    (follow : Validator → Check) (x : Value) (path : String) :
    ((Validator.leaf rule).check env follow x path).outcome = r.findsInValue? x := by
  rw [Validator.check]
  cases h with
  | regex => cases x <;> exact Test.outcome_checkAll_singleton _
  | stringOf htree =>
    cases x with
    | text text => exact (Test.outcome_checkAll_singleton _).trans (Regex.findsIn?_eq_of_tree htree text)
    | _ => rfl

namespace Descriptor

variable {n : Nat} {pointer source : String} {r : Regex}

/-- A source is read as some rule that searches as its regex. -/
theorem exists_decodeString (hr : Regex.ofSource source .none = .ok r)
    (hcounts : StringRule.HasPlainCounts source) : ∃ rule : Leaf, rule.SearchesAs r ∧ ∀ pointer,
      decodeString pointer (Entries.ofTexts [("type", .text "string"), ("pattern", .text source)]) =
        .ok (.leaf rule) := by
  cases hsplit : StringRule.split? source with
  | none =>
    exact ⟨.regex r, .regex, fun pointer => decodeString_regex hr (noStringRule_of_shape hsplit)⟩
  | some parts =>
    obtain ⟨charset, counts⟩ := parts
    obtain ⟨least, most, rule, hlengths, hmake, htree, -⟩ :=
      StringRule.make_of_ofSource hr hsplit (hcounts charset counts hsplit)
    exact ⟨.stringOf rule, .stringOf htree,
      fun pointer => decodeString_rule_of_split hsplit hlengths hmake⟩

/-- **A source is read as a rule that searches as its regex.** -/
theorem reads_source (hr : Regex.ofSource source .none = .ok r)
    (hcounts : StringRule.HasPlainCounts source) :
    Reads n (.record [("type", .text "string"), ("pattern", .text source)]) fun w =>
      ∃ rule : Leaf, w = .leaf rule ∧ rule.SearchesAs r := by
  obtain ⟨rule, hrule, hdecode⟩ := exists_decodeString hr hcounts
  exact reads_leaf (fun decode pointer => hdecode pointer) ⟨rule, rfl, hrule⟩

end Descriptor

end Conformance
