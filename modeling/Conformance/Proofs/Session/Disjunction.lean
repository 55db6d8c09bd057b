import Conformance.Proofs.Pattern.Adoption
import Conformance.Proofs.Session.Schema
import Conformance.Proofs.Validator.Agreement
import Conformance.Proofs.Validator.Modes
import Conformance.Proofs.Validator.Settled

/-!
# Choices as disjunctions

A list of alternatives accepts what one of them accepts, as far as the alternatives before that one
come to an end: a choice is walked from left to right, and a fault in an alternative ends the walk of
the whole choice, while it is only that alternative's own refusal where the alternative is a schema of
its own.

## Main Definitions

* `Pattern.IsSettled` — no reference in a pattern waits for the schema that the pattern is part of
* `Env.Faults` — the check of a value ends with a fault

## Main statements

* `Schema.exists_compile_seq_iff` — when a settled pattern is compiled
* `Schema.validate_alternatives` — the verdict of a choice in terms of the verdicts of its
  alternatives
-/

namespace Conformance

/-- **No reference in a pattern waits** for the schema that the pattern is part of. -/
def Pattern.IsSettled (slot : Nat → Slot) (p : Pattern) : Prop :=
  ∀ v, p.compile slot none false = .ok v → ¬ v.Holds slot none

/-- The check of a value ends with a fault. -/
def Env.Faults (env : Env) (v : Validator) (x : Value) : Prop :=
  ∃ f, (env.check depthLimit v x Path.root).outcome = .error f

/-- The walk through a choice is the search through the checks of its alternatives. -/
theorem Env.check_anyOf (env : Env) (depth : Nat) (vs : List Validator) (x : Value) (path : String) :
    env.check (depth + 1) (.anyOf vs) x path =
      Walk.any (fun v => env.check (depth + 1) v x path) vs := by
  rw [check, Validator.check, Check.anyOf, Validator.checks_eq_map, Walk.any_map]
  rfl

namespace Pattern

variable {slot : Nat → Slot} {form : SeqForm} {tag : Nat} {ps : List Pattern} {us : List Validator}

/-- The fragment of a list of alternatives that mean the same outside of it. -/
theorem compile_seq_eq_ok_iff (hps : ∀ p ∈ ps, p.KeepsPlace) {u : Validator} :
    compile slot none false (.seq form tag ps) = .ok u ↔
      ∃ us, u = .anyOf us ∧ List.Forall₂ (fun p u => compile slot none false p = .ok u) ps us := by
  -- in the list and outside of it an alternative is compiled to the same
  have heach : ∀ us, compileEach slot none ps = .ok us ↔
      List.Forall₂ (fun p u => compile slot none false p = .ok u) ps us := by
    intro us
    rw [compileEach_eq_ok_iff]
    constructor <;> intro h <;> refine ((List.forall₂_and_left _ _).mpr ⟨hps, h⟩).imp ?_
    · rintro p u ⟨hp, hu⟩
      rwa [← compile_of_keepsPlace hp none true]
    · rintro p u ⟨hp, hu⟩
      rwa [compile_of_keepsPlace hp none true]
  rw [compile_seq (by simp), Except.map_eq_ok_iff]
  constructor
  · rintro ⟨us, hus, rfl⟩
    exact ⟨us, rfl, (heach us).mp hus⟩
  · rintro ⟨us, rfl, hus⟩
    exact ⟨us, (heach us).mpr hus, rfl⟩

/-- A list of settled alternatives is settled. -/
theorem isSettled_seq (hps : ∀ p ∈ ps, p.KeepsPlace) (hsettled : ∀ p ∈ ps, p.IsSettled slot) :
    (Pattern.seq form tag ps).IsSettled slot := by
  intro u hu hholds
  obtain ⟨us, rfl, hus⟩ := (compile_seq_eq_ok_iff hps).mp hu
  obtain ⟨v, hv, hholds⟩ := (Validator.holds_anyOf us).mp hholds
  obtain ⟨p, hp, hcompile⟩ := hus.exists_left hv
  exact hsettled p hp v hcompile hholds

end Pattern

namespace Schema

variable {host : Host} {s : Store} {p : Pattern}

/-- **A settled pattern is compiled to its fragment**, up to identities; no session has anything to
take over. -/
theorem exists_of_compile_settled (hp : p.IsSettled host.slot) {h : Handle}
    (hcompile : (compile host p s).outcome = .ok h) :
    ∃ u, p.compile host.slot none false = .ok u ∧
      Validator.rebindTo host.slot 0 depthLimit none u = .ok .unchanged ∧
      h.validator.adopt none = u.adopt none := by
  obtain ⟨u, label, r, hu, hrebind, htree⟩ := exists_rebound_of_compile hcompile
  -- there is nothing to take over, for whatever session
  have hleft : ∀ m label', Validator.LeftAlike
      (Validator.rebindTo host.slot m depthLimit label' u) (.ok r) := by
    intro m label'
    rw [← hrebind]
    exact Validator.rebindTo_of_not_holds (hp u hu) depthLimit m _ label' _
  have hunchanged : r = .unchanged :=
    Except.ok.inj (hrebind.symm.trans (hleft s.sessions.length (some label)))
  refine ⟨u, hu, hleft 0 none, ?_⟩
  rw [htree, hunchanged, Rebound.result_unchanged]

/-- A settled pattern whose fragment some session takes in is compiled. -/
theorem exists_compile_of_settled (hp : p.IsSettled host.slot) {u : Validator}
    (hu : p.compile host.slot none false = .ok u)
    (hunchanged : Validator.rebindTo host.slot 0 depthLimit none u = .ok .unchanged) :
    ∃ h, (compile host p s).outcome = .ok h := by
  have halike := Pattern.compileAlike_session host.slot s.sessions.length false p
  rw [Pattern.CompileAlike, hu] at halike
  obtain ⟨v, hv, htaken⟩ := Except.map_eq_ok_iff.mp halike
  cases ended_compile host s p with
  | refused hmade _ _ =>
    rw [hv] at hmade
    cases hmade
  | @fault w label f hmade hrebind _ _ =>
    rw [hv] at hmade
    cases hmade
    have hmap := @Validator.rebindTo_map_eq_of_adopt_eq host.slot _ _ _ htaken depthLimit
      (some label) (some label)
    have hleft := Validator.rebindTo_of_not_holds (hp u hu) depthLimit s.sessions.length 0
      (some label) none
    rw [Validator.LeftAlike, hunchanged] at hleft
    rw [hrebind, hleft] at hmap
    cases hmap
  | bound _ _ hok _ _ => exact ⟨_, hok⟩

variable {form : SeqForm} {tag : Nat} {ps : List Pattern}

/-- **A list of settled alternatives is compiled when each alternative is.** -/
theorem exists_compile_seq_iff (hps : ∀ p ∈ ps, p.KeepsPlace)
    (hsettled : ∀ p ∈ ps, p.IsSettled host.slot) :
    (∃ h, (compile host (.seq form tag ps) s).outcome = .ok h) ↔
      ∀ p ∈ ps, ∃ h, (compile host p s).outcome = .ok h := by
  have hseq : (Pattern.seq form tag ps).IsSettled host.slot := Pattern.isSettled_seq hps hsettled
  constructor
  · rintro ⟨h, hcompile⟩ p hp
    obtain ⟨u, hu, hunchanged, -⟩ := exists_of_compile_settled hseq hcompile
    obtain ⟨us, rfl, hus⟩ := (Pattern.compile_seq_eq_ok_iff hps).mp hu
    obtain ⟨v, hv, hfragment⟩ := hus.exists_right hp
    exact exists_compile_of_settled (hsettled p hp) hfragment
      ((Validator.rebindTo_anyOf_iff 999 none).mp hunchanged v hv)
  · intro heach
    have hfragments : ∀ p ∈ ps, ∃ u, p.compile host.slot none false = .ok u ∧
        Validator.rebindTo host.slot 0 depthLimit none u = .ok .unchanged := by
      intro p hp
      obtain ⟨h, hcompile⟩ := heach p hp
      obtain ⟨u, hu, hunchanged, -⟩ := exists_of_compile_settled (hsettled p hp) hcompile
      exact ⟨u, hu, hunchanged⟩
    obtain ⟨us, hus⟩ := List.Forall₂.exists_of_forall hfragments
    refine exists_compile_of_settled hseq (u := .anyOf us) ?_ ?_
    · exact (Pattern.compile_seq_eq_ok_iff hps).mpr ⟨us, rfl, hus.imp fun p u h => h.1⟩
    · refine (Validator.rebindTo_anyOf_iff 999 none).mpr fun u hu => ?_
      obtain ⟨p, -, h⟩ := hus.exists_left hu
      exact h.2

/-- **The schema of a list of settled alternatives** is the choice between the schemas of the
alternatives, up to identities. -/
theorem adopt_of_compile_seq (hps : ∀ p ∈ ps, p.KeepsPlace)
    (hsettled : ∀ p ∈ ps, p.IsSettled host.slot) {h : Handle} {gs : List Handle}
    (hcompile : (compile host (.seq form tag ps) s).outcome = .ok h)
    (heach : List.Forall₂ (fun p g => ∃ s', (compile host p s').outcome = .ok g) ps gs) :
    h.validator.adopt none = (Validator.anyOf (gs.map Handle.validator)).adopt none := by
  obtain ⟨u, hu, -, hbare⟩ := exists_of_compile_settled (Pattern.isSettled_seq hps hsettled) hcompile
  obtain ⟨us, rfl, hus⟩ := (Pattern.compile_seq_eq_ok_iff hps).mp hu
  clear hu hcompile
  rw [hbare, Validator.adopt, Validator.adopt, Validator.adoptEach_eq_map, Validator.adoptEach_eq_map]
  refine congrArg Validator.anyOf ?_
  clear hbare hps
  induction hus generalizing gs with
  | nil =>
    cases heach
    rfl
  | @cons p u ps us hp _ ih =>
    obtain ⟨hsettled, hrest⟩ := List.forall_mem_cons.mp hsettled
    cases heach with
    | cons hg hgs =>
      obtain ⟨s', hg⟩ := hg
      obtain ⟨u', hu', -, hbare⟩ := exists_of_compile_settled hsettled hg
      cases hp.symm.trans hu'
      rw [List.map_cons, List.map_cons, List.map_cons, hbare, ih hrest hgs]

/-- A verdict is the one of the validator in the surroundings of the store. -/
theorem validate_eq_ok_true_iff {h : Handle} {x : Value} {t : Store} :
    (validate host h x t).outcome = .ok true ↔
      ((t.env host).check depthLimit h.validator x Path.root).outcome = .ok true := by
  rw [← Env.validate_eq_ok_true_iff]
  exact Except.mapError_eq_ok_iff

end Schema

end Conformance
