import Conformance.Proofs.Descriptor.StringSources
import Conformance.Proofs.Session.Decoding
import Conformance.Proofs.Session.Disjunction

/-!
# Schemas of sources

The source of a regex in a descriptor of its own is read as a schema that accepts the texts in which the
regex finds a match.  A source of the shape of a string rule is not read as a regex, and its rule is put
together anew from the parts that the source is cut into.

## Main statements

* `Schema.accepts_of_searchesAs` — what the schema of a rule accepts that searches as a regex
* `Schema.decode_of_split` — a valid source of the shape of a string rule is read as a rule that accepts
  the texts in which the source finds a match
-/

namespace Conformance.Schema

variable {host : Host} {s : Store}

/-- What is read as one validator in each session has a schema that is this validator. -/
theorem exists_decode_of_reads (host : Host) (s : Store) {fs : List (String × Value)} {w : Validator}
    (h : ∀ n, Descriptor.Reads n (.record fs) (· = w)) :
    ∃ handle : Handle, (decode host (.record fs) s).outcome = .ok handle ∧ handle.validator = w := by
  have hdocument : Descriptor.ofDocument (.record fs) = .ok (.record fs) := rfl
  obtain ⟨w', hw, rfl⟩ :=
    h s.sessions.length ((Value.record fs).depth + 2) "#" (Nat.le_add_right _ 2)
  have hread : Descriptor.decode s.sessions.length (.record fs) = .ok w' := hw
  obtain ⟨handle, houtcome, -⟩ := exists_decode_of_read host hdocument hread
  refine ⟨handle, houtcome, ?_⟩
  rw [read_of_decode hdocument houtcome] at hread
  exact Except.ok.inj hread

/-- **A rule that searches as a regex accepts the texts in which the regex finds a match.** -/
theorem accepts_of_searchesAs {handle : Handle} {rule : Leaf} {r : Regex}
    (hvalidator : handle.validator = .leaf rule) (h : rule.SearchesAs r) (t : Store) (x : Value) :
    (validate host handle x t).outcome = .ok true ↔
      ∃ text, x = .text text ∧ r.findsIn? text = .ok true := by
  have hcheck : ((t.env host).check depthLimit (.leaf rule) x Path.root).outcome = r.findsInValue? x :=
    h.outcome_check _ _ x Path.root
  rw [validate_eq_ok_true_iff, hvalidator, hcheck, Regex.findsInValue?_eq_ok_true_iff]

/-- **Taking a source for a string rule does not change its meaning**, if the counts are digits of ASCII.
A valid source of the shape of a string rule is read as the rule of the character set and the counts that
are cut out of it.  The rule accepts the texts in which the source finds a match, and nothing else. -/
theorem decode_of_split (host : Host) (s : Store) {source charset : String}
    {counts : StringRule.Counts} {r : Regex} (hr : Regex.ofSource source .none = .ok r)
    (hsplit : StringRule.split? source = some (charset, counts)) (hcounts : counts.IsAscii) :
    ∃ (handle : Handle) (rule : CharsetRule),
      (decode host (.record [("type", .text "string"), ("pattern", .text source)]) s).outcome =
        .ok handle ∧
      handle.validator = .leaf (.stringOf rule) ∧ rule.charset = charset ∧
      StringRule.lengths counts = .ok (rule.least, rule.most) ∧
      ∀ t x, (validate host handle x t).outcome = .ok true ↔
        ∃ text, x = .text text ∧ r.findsIn? text = .ok true := by
  obtain ⟨least, most, rule, hlengths, hmake, htree, -⟩ :=
    StringRule.make_of_ofSource hr hsplit hcounts
  obtain ⟨hcharset, rfl, rfl⟩ := CharsetRule.eq_of_make hmake
  have hreads : ∀ n, Descriptor.Reads n
      (.record [("type", .text "string"), ("pattern", .text source)])
      (· = .leaf (.stringOf rule)) := fun n =>
    Descriptor.reads_leaf
      (fun _ _ => Descriptor.decodeString_rule_of_split hsplit hlengths hmake) rfl
  obtain ⟨handle, houtcome, hvalidator⟩ := exists_decode_of_reads host s hreads
  exact ⟨handle, rule, houtcome, hvalidator, hcharset, hlengths,
    fun t x => accepts_of_searchesAs hvalidator (.stringOf htree) t x⟩

/-- Two characters from `a` to `c`, the counts written with leading zeros: the rule accepts what the regex
finds a match in. -/
theorem decode_of_split_of_leading_zeros :
    let host : Host := ⟨fun _ => .absent, Settings.standard⟩
    let s : Store := ⟨[], 0⟩
    let source := "^[a-c]\x7b02,002\x7d$"
    let counts : StringRule.Counts := ⟨['0', '2'], true, ['0', '0', '2']⟩
    ∃ (r : Regex) (handle : Handle) (rule : CharsetRule),
      Regex.ofSource source .none = .ok r ∧
      StringRule.split? source = some ("a-c", counts) ∧ counts.IsAscii ∧
      (decode host (.record [("type", .text "string"), ("pattern", .text source)]) s).outcome =
        .ok handle ∧
      handle.validator = .leaf (.stringOf rule) ∧ rule.least = 2 ∧ rule.most = some 2 ∧
      (validate host handle (.text "ca") s).outcome = .ok true ∧
      (validate host handle (.text "cab") s).outcome ≠ .ok true := by
  intro host s source counts
  have hvalid : (Regex.ofSource source .none).toOption.any (fun r =>
      decide (r.findsIn? "ca" = .ok true) && decide (r.findsIn? "cab" = .ok false)) = true := by
    decide +kernel
  obtain ⟨r, hr, hfinds⟩ := Except.exists_of_any hvalid
  obtain ⟨hfound, hnot⟩ := Bool.and_eq_true_iff.mp hfinds
  have hsplit : StringRule.split? source = some ("a-c", counts) := by decide +kernel
  have hcounts : counts.IsAscii :=
    ⟨List.all_eq_true.mp (by decide), List.all_eq_true.mp (by decide)⟩
  obtain ⟨handle, rule, houtcome, hvalidator, -, hlengths, haccepts⟩ :=
    decode_of_split host s hr hsplit hcounts
  have hboth : (rule.least, rule.most) = (2, some 2) := by
    have htwo : StringRule.lengths counts = .ok (2, some 2) := by decide +kernel
    exact Except.ok.inj (hlengths.symm.trans htwo)
  obtain ⟨hleast, hmost⟩ := Prod.mk.inj hboth
  refine ⟨r, handle, rule, hr, hsplit, hcounts, houtcome, hvalidator, hleast, hmost, ?_, ?_⟩
  · exact (haccepts s _).mpr ⟨"ca", rfl, of_decide_eq_true hfound⟩
  · intro htrue
    obtain ⟨text, heq, hfinds⟩ := (haccepts s _).mp htrue
    cases heq
    cases (of_decide_eq_true hnot).symm.trans hfinds

end Conformance.Schema
