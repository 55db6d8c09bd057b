import Conformance.Descriptor.Decoding
import Conformance.Proofs.Regex.LiteralName

/-!
# Literal names, told by a regex

Which names of properties are literal is told by a regex where descriptors are read, and character by
character where keys are written.  Both tell the same names.

## Main statements

* `Descriptor.exists_literalNames` — the regex of literal names, and what it matches
* `Descriptor.decodeProperty_text` — how the node of a property is read
-/

namespace Conformance

/-- A set that excludes characters one by one holds every other one. -/
theorem Regex.contains_excluding (cs : List Char) (c : Char) :
    (CharSet.brackets true (cs.map fun d => .code d.toNat) Flags.none.comparison).contains c =
      !cs.contains c := by
  have hholds : ∀ d : Char, (SetItem.code d.toNat).holds Flags.none.comparison c = (c == d) := by
    intro d
    have hcode : (SetItem.code d.toNat).holds Flags.none.comparison c = decide (d.toNat = c.toNat) := by
      simp [SetItem.holds, Comparison.variants, Flags.comparison, Flags.none]
    rw [hcode, Bool.eq_iff_iff, decide_eq_true_eq, beq_iff_eq, Char.toNat_inj, eq_comm]
  have hany : (cs.map fun d => SetItem.code d.toNat).any (SetItem.holds Flags.none.comparison c) =
      cs.contains c := by
    rw [List.any_map, List.contains_eq_any_beq]
    exact congrArg cs.any (funext hholds)
  rw [CharSet.contains, hany, Bool.true_bne]

namespace Descriptor

/-- **The regex of literal names** matches the names without special characters. -/
theorem exists_literalNames :
    ∃ r, literalNames = .ok r ∧ ∀ name, r.matchesAll? name = .ok (isLiteralName name) := by
  let set : Regex.CharSet :=
    .brackets true (specialChars.map fun c => .code c.toNat) Regex.Flags.none.comparison
  have hread : literalNames = .ok ⟨"[^.^$*+?\x7b\x7d\\[\\]\\\\|()]*", .none,
      .loop .greedy 0 none (.char set)⟩ := by
    decide +kernel
  refine ⟨_, hread, fun name => ?_⟩
  have hset : set.contains = fun c => !specialChars.contains c :=
    funext (Regex.contains_excluding specialChars)
  rw [Regex.matchesAll?_set rfl, hset]
  rfl

/-- **The decoder and the keys agree on the names that are literal.** -/
theorem hasLiteralForm_eq (name : String) : hasLiteralForm name = isLiteralName name := by
  obtain ⟨r, hread, hmatches⟩ := exists_literalNames
  rw [hasLiteralForm, hread]
  exact Regex.matchesAll_of_matchesAll? (hmatches name)

/-- How the node of a property is read. -/
theorem decodeProperty_text (decode : NodeReader) (pointer : String) (required : List Value)
    (name : String) (node : Value) : decodeProperty decode pointer required (.text name) node =
      (do
        let rule ← decode node s!"{pointer}/properties/{name}"
        let isRequired := required.any (Value.keyEq (.text name))
        if !isLiteralName name then
          if isRequired then refuse pointer (.requiredNotLiteral name)
          else property pointer ("?" ++ Regex.escapeName name) rule
        else if isRequired then property pointer name rule
        else property pointer ("?" ++ name) rule) := by
  rw [← hasLiteralForm_eq]
  rfl

end Descriptor

end Conformance
