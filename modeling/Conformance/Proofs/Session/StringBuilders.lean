import Conformance.Proofs.Pattern.Recoverable
import Conformance.Proofs.Session.StringSources

/-!
# String builders and their descriptors

The descriptor of a string builder is the source that its character set and its lengths were written to.
Reading it cuts the source at the last bracket, and counts hold none, so the parts are those that it was
put together from, whatever the character set looks like.  Only a newline in it hides the shape: then the
source is read as the regex that it is.

## Main statements

* `Schema.exists_of_call_string` — what a call on the bare string gives
* `Schema.decode_descriptor_of_call` — the descriptor of what it gives is read as the same rule, or as
  the regex of the same source
-/

namespace Conformance.Schema

variable {host : Host} {label : Label} {args : List Pattern}

/-- **A call on the bare string gives the rule of its arguments.** -/
theorem exists_of_call_string {s : Store} {h : Handle}
    (hcall : (call host ⟨label, .leaf .string⟩ "of" args s).outcome = .ok h) :
    ∃ rule : CharsetRule, h.validator = .leaf (.stringOf rule) ∧
      CharsetRule.ofArguments host.settings.defaultCharset (args.map Pattern.toValue) = .ok rule := by
  cases hrule : CharsetRule.ofArguments host.settings.defaultCharset (args.map Pattern.toValue) with
  | error e =>
    have hrefused : Builder.call host.slot host.settings (.leaf .string) "of" args = .error e := by
      rw [Builder.call, hrule]
      rfl
    rw [call, hrefused] at hcall
    cases hcall
  | ok rule =>
    have hmade : Builder.call host.slot host.settings (.leaf .string) "of" args =
        .ok (.leaf (.stringOf rule)) := by
      rw [Builder.call, hrule]
      rfl
    rw [call, hmade] at hcall
    exact ⟨rule, congrArg Handle.validator (Except.ok.inj hcall).symm, rfl⟩

/-- A string rule has a descriptor, its dialect declared if the settings ask for it. -/
theorem descriptor_stringOf {rule : CharsetRule} {h : Handle}
    (hvalidator : h.validator = .leaf (.stringOf rule)) (s : Store) :
    (descriptor host h s).outcome =
      .ok (host.settings.declareDialect (Leaf.stringOf rule).describe) := by
  have hdescribe : (describe host h s).outcome = .ok (Leaf.stringOf rule).describe := by
    show (((s.env host).describe h.validator).outcome).mapError Refusal.fault = _
    rw [hvalidator]
    rfl
  rw [descriptor, Action.bind_of_ok hdescribe]
  rfl

/-- **The descriptor of a string builder is read as the rule that it was written of.**  A call on the
bare string makes a rule of the character set and the lengths among its arguments.  Its descriptor is read
as the same rule, with the same character set and lengths, unless there is a newline in the character set;
then it is read as the regex of the source that the rule searches for. -/
theorem decode_descriptor_of_call {s : Store} {h : Handle}
    (hcall : (call host ⟨label, .leaf .string⟩ "of" args s).outcome = .ok h) (s' t : Store) :
    ∃ (rule : CharsetRule) (D : Value) (g : Handle), h.validator = .leaf (.stringOf rule) ∧
      rule.charset =
        (CharsetRule.splitArguments host.settings.defaultCharset (args.map Pattern.toValue)).1 ∧
      CharsetRule.lengths args.length
        (CharsetRule.splitArguments host.settings.defaultCharset (args.map Pattern.toValue)).2 =
          .ok (rule.least, rule.most) ∧
      rule.regex.source = CharsetRule.source rule.charset rule.least rule.most ∧
      (descriptor host h s').outcome = .ok D ∧ (decode host D t).outcome = .ok g ∧
      ('\n' ∉ rule.charset.toList → g.validator = .leaf (.stringOf rule)) ∧
      ('\n' ∈ rule.charset.toList → g.validator = .leaf (.regex rule.regex)) := by
  obtain ⟨rule, hvalidator, hrule⟩ := exists_of_call_string hcall
  obtain ⟨hcharset, hne, hlengths, hmake⟩ := Builder.make_of_ofArguments hrule
  rw [List.length_map] at hlengths
  obtain ⟨-, -, hregex⟩ := CharsetRule.make_eq_ok hmake
  have hreads : Descriptor.ReadsAs (fun _ w => w = .leaf (Descriptor.leafOfSource rule))
      [("type", .text "string"),
        ("pattern", .text (CharsetRule.source rule.charset rule.least rule.most))] :=
    ⟨by simp, by simp, fun _ => Descriptor.reads_leafOfSource ⟨hne, hmake⟩⟩
  obtain ⟨fs, hfs, hread⟩ := hreads.declared host.settings
  obtain ⟨g, hg, hsame⟩ := exists_decode_of_reads host t hread
  refine ⟨rule, .record fs, g, hvalidator, hcharset, hlengths, Key.source_of_ofSource hregex, ?_, hg,
    fun hnewline => ?_, fun hnewline => ?_⟩
  · rw [descriptor_stringOf hvalidator, ← hfs]
    rfl
  · rw [hsame, Descriptor.leafOfSource, if_neg hnewline]
  · rw [hsame, Descriptor.leafOfSource, if_pos hnewline]

/-- A character set that looks like a source with counts of its own, between one and three times. -/
theorem decode_descriptor_of_call_of_counts :
    let host : Host := ⟨fun _ => .absent, Settings.standard⟩
    let s : Store := ⟨[], 0⟩
    let args : List Pattern :=
      [.value (.int 1), .value (.int 3), .value (.text "a]\x7b2\x7dx[b")]
    ∃ (h : Handle) (rule : CharsetRule) (D : Value) (g : Handle),
      (call host ⟨⟨0, []⟩, .leaf .string⟩ "of" args s).outcome = .ok h ∧
      (descriptor host h s).outcome = .ok D ∧ (decode host D s).outcome = .ok g ∧
      g.validator = .leaf (.stringOf rule) ∧
      rule.charset = "a]\x7b2\x7dx[b" ∧ rule.least = 1 ∧ rule.most = some 3 := by
  intro host s args
  have hmade : (call host ⟨⟨0, []⟩, .leaf .string⟩ "of" args s).outcome.toOption.isSome = true := by
    decide +kernel
  obtain ⟨h, hcall⟩ := Except.exists_eq_ok hmade
  obtain ⟨rule, D, g, -, hcharset, hlengths, -, hD, hg, hsame, -⟩ :=
    decode_descriptor_of_call hcall s s
  have htext : rule.charset = "a]\x7b2\x7dx[b" := hcharset
  have hboth : (rule.least, rule.most) = (1, some 3) := (Except.ok.inj hlengths).symm
  obtain ⟨hleast, hmost⟩ := Prod.mk.inj hboth
  refine ⟨h, rule, D, g, hcall, hD, hg, hsame ?_, htext, hleast, hmost⟩
  rw [htext]
  decide

end Conformance.Schema
