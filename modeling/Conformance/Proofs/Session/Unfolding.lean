import Conformance.Proofs.Pattern.Recoverable
import Conformance.Proofs.Session.Fragments
import Conformance.Proofs.Session.RoundTrip
import Conformance.Proofs.Session.Runs
import Conformance.Proofs.Validator.Unfolding

/-!
# Patterns unfolded

In the place of the references of a pattern its own schema can be put.  What this is compiled to has a
session of its own, in which nothing may be left to refer to, and judges alike: where the one schema
follows a reference to its root, the other one is at that root already.

## Main Definitions

* `Pattern.Unfolds` — a pattern in which a root was put in the place of references

## Main statements

* `Pattern.Unfolds.exists_compile` — a pattern that was unfolded is compiled to a fragment that was
  unfolded
* `Schema.compile_unfold` — a pattern and its unfolding have schemas that judge alike
-/

namespace Conformance

namespace Pattern

/-- **A pattern unfolds to another one** in which `root` stands in the place of some or all of its
references: of the marker, of the ellipsis directly inside a list of alternatives, and of the references in
fragments.  Literals stay as they are, and so do objects of the host. -/
inductive Unfolds (root : Handle) : Bool → Pattern → Pattern → Prop where
  | same {inOr : Bool} (p : Pattern) : Unfolds root inOr p p
  | marker {inOr : Bool} : Unfolds root inOr (value .selfMarker) (validator root)
  | ellipsis : Unfolds root true (value .ellipsis) (validator root)
  | seq {inOr : Bool} {form : SeqForm} {tag tag' : Nat} {es : List (Pattern × Pattern)} :
    ¬ (inOr = true ∧ es.length = 1) → (∀ e ∈ es, Unfolds root true e.1 e.2) →
    Unfolds root inOr (seq form tag (es.map Prod.fst)) (seq form tag' (es.map Prod.snd))
  | mapping {inOr : Bool} {form : MapForm} {tag tag' : Nat} {es : List (Value × Pattern × Pattern)} :
    (∀ e ∈ es, Unfolds root false e.2.1 e.2.2) →
    Unfolds root inOr (mapping form tag (es.map fun e => (e.1, e.2.1)))
      (mapping form tag' (es.map fun e => (e.1, e.2.2)))
  | validator {inOr : Bool} {g g' : Handle} : g.validator.Unfolds root.validator g'.validator →
    Unfolds root inOr (validator g) (validator g')

variable {slot : Nat → Slot} {root : Handle} {inOr : Bool}

/-- Entries compile to properties one by one. -/
theorem compileEntries_of_forall₂ {entries : List (Value × Pattern)} {qs : List (Property Validator)}
    (h : List.Forall₂ (fun e q => IsProperty slot none e q ∧ q.label = e.2.label?) entries qs) :
    compileEntries slot none entries = .ok qs := by
  induction h with
  | nil => rfl
  | @cons e q entries qs hq _ ih =>
    obtain ⟨written, p⟩ := e
    obtain ⟨key, label, rule⟩ := q
    obtain ⟨⟨hwritten, hkey, hrule⟩, hlabel⟩ := hq
    cases hwritten
    obtain rfl : label = p.label? := hlabel
    exact compileEntries_cons hkey hrule ih

/-- **A pattern that was unfolded is compiled**, to the fragment of the pattern, unfolded. -/
theorem Unfolds.exists_compile {p p' : Pattern} (h : p.Unfolds root inOr p') {u : Validator}
    (hu : compile slot none inOr p = .ok u) :
    ∃ u', compile slot none inOr p' = .ok u' ∧ u.Unfolds root.validator u' := by
  induction h generalizing u with
  | same p => exact ⟨u, hu, .refl u⟩
  | marker =>
    cases hu
    exact ⟨root.validator, rfl, .pair ⟨rfl, rfl⟩⟩
  | ellipsis =>
    cases hu
    exact ⟨root.validator, rfl, .pair ⟨rfl, rfl⟩⟩
  | @seq inOr form tag tag' es hliteral _ ih =>
    rw [compile_seq (by rwa [List.length_map]), Except.map_eq_ok_iff] at hu
    obtain ⟨vs, hvs, rfl⟩ := hu
    rw [compileEach_eq_ok_iff, List.forall₂_map_left_iff] at hvs
    have hbetween := ((List.forall₂_and_left _ _).mpr ⟨ih, hvs⟩).imp fun e v h => h.1 h.2
    obtain ⟨vs', hvs', halike⟩ := List.Forall₂.exists_between hbetween
    refine ⟨Validator.anyOf vs', ?_, .of_forall₂ halike⟩
    rw [compile_seq (by rwa [List.length_map]),
      compileEach_eq_ok_iff.mpr (List.forall₂_map_left_iff.mpr hvs')]
    rfl
  | @mapping inOr form tag tag' es _ ih =>
    simp only [compile, Except.bind_eq_ok_iff, Except.pure_eq_ok_iff] at hu
    obtain ⟨ps, hps, rfl⟩ := hu
    have hall := List.forall₂_map_left_iff.mp (forall₂_of_compileEntries hps)
    have hbetween : List.Forall₂ (fun e p => ∃ p' : Property Validator,
        (IsProperty slot none (e.1, e.2.2) p' ∧ p'.label = e.2.2.label?) ∧
        p.key = p'.key ∧ Validator.Unfolds p.rule root.validator p'.rule) es ps := by
      refine ((List.forall₂_and_left _ _).mpr ⟨ih, hall⟩).imp ?_
      rintro e p ⟨ih, hwritten, hkey, hrule⟩
      obtain ⟨u', hu', halike⟩ := ih hrule
      exact ⟨⟨p.key, e.2.2.label?, u'⟩, ⟨⟨hwritten, hkey, hu'⟩, rfl⟩, rfl, halike⟩
    obtain ⟨ps', hps', halike⟩ := List.Forall₂.exists_between hbetween
    refine ⟨Validator.object ps', ?_, .of_forall₂_rules halike⟩
    rw [compile, compileEntries_of_forall₂ (List.forall₂_map_left_iff.mpr hps')]
    rfl
  | validator h =>
    cases hu
    exact ⟨_, rfl, h⟩

end Pattern

namespace Schema

open Validator (rebindTo freeze)

/-- **Unfolding a pattern changes nothing.**  A pattern that has a schema still has one when its references
are replaced by that schema, and from then on, whatever else happens to the sessions, both schemas judge
alike: on every value they come to the same verdict, or the checks of both break. -/
theorem compile_unfold (host : Host) {p p' : Pattern} {s s' : Store} {v : Handle}
    (hcompile : (compile host p s).outcome = .ok v) (hunfolds : p.Unfolds v false p')
    (hextends : (compile host p s).store.Extends s') :
    ∃ v', (compile host p' s').outcome = .ok v' ∧
      ∀ t, (compile host p' s').store.Extends t →
        (t.env host).JudgeAlike v.validator v'.validator := by
  obtain ⟨depth, hdepth⟩ : ∃ depth, depthLimit = depth + 1 := ⟨999, rfl⟩
  obtain ⟨u, label, r, hmade, hrebind, htree⟩ := exists_rebound_of_compile hcompile
  rw [hdepth] at hrebind
  have hfreeze := Validator.freeze_of_rebindTo hrebind
  rw [← htree] at hfreeze
  obtain ⟨u', hmade', hunfolds'⟩ := hunfolds.exists_compile hmade
  obtain ⟨w, hw, halike⟩ : ∃ w, freeze host.slot (rebindTo host.slot s'.sessions.length depth none)
      (u'.adopt (some s'.sessions.length)) = .ok w ∧ _ := hunfolds'.exists_freeze hfreeze
  have htree' : (compile host p' s').outcome.map (fun h => h.validator.adopt none) = .ok w := by
    obtain ⟨r', hrebind', hresult⟩ := Validator.exists_rebindTo_of_freeze hw none
    rw [(ended_compile host s' p').outcome_map,
      bind_boundTree_eq (Pattern.compileAlike_session host.slot _ false p'), hmade', Except.ok_bind,
      boundTree, hdepth, hrebind', ← hresult]
    rfl
  obtain ⟨v', hv', rfl⟩ := Except.map_eq_ok_iff.mp htree'
  refine ⟨v', hv', fun t ht => ?_⟩
  have hroot := Store.root_env host (ht (Operation.extends_of_ended (ended_compile host s' p')
    (hextends ((ended_compile host s p).root_of_outcome hcompile))))
  have hroot' := Store.root_env host (ht ((ended_compile host s' p').root_of_outcome hv'))
  exact .of_adopt (Env.judgeAlike_of_alike (Validator.Unfolded.isBisimulation hroot hroot' halike) halike)

/-- A forest, whose trees have children and a next sibling: the marker stands in the fragment for the
children, and the ellipsis among the alternatives for the sibling. -/
theorem compile_unfold_forest :
    let host : Host := ⟨fun _ => .absent, Settings.standard⟩
    let forest (children sibling : Pattern) : Pattern := .mapping .dict 0
      [(.text "name", .value (.cls (.builtin .str))), (.text "children", children),
        (.text "next", .seq .list 1 [.value .null, sibling])]
    let children (v : Validator) : Pattern := .validator ⟨⟨2, []⟩, .arrayOf v 0 none⟩
    let folded := forest (children (.selfRef none)) (.value .ellipsis)
    let step := compile host folded ⟨[], 0⟩
    ∃ v, step.outcome = .ok v ∧
      let step' := compile host (forest (children v.validator) (.validator v)) step.store
      ∃ v', step'.outcome = .ok v' ∧
        (step'.store.env host).JudgeAlike v.validator v'.validator := by
  intro host forest children folded step
  have hsome : step.outcome.toOption.isSome = true := by decide +kernel
  obtain ⟨v, hv⟩ := Except.exists_eq_ok hsome
  refine ⟨v, hv, ?_⟩
  have hfragment : (children (.selfRef none)).Unfolds v false (children v.validator) :=
    .validator (.arrayOf 0 none (.pair ⟨rfl, rfl⟩))
  have hsibling : Pattern.Unfolds v false (.seq .list 1 [.value .null, .value .ellipsis])
      (.seq .list 1 [.value .null, .validator v]) := by
    refine @Pattern.Unfolds.seq v false .list 1 1
      [(.value .null, .value .null), (.value .ellipsis, .validator v)] (fun h => by cases h.1) ?_
    simp only [List.forall_mem_cons]
    exact ⟨.same _, .ellipsis, by simp⟩
  have hunfolds : folded.Unfolds v false (forest (children v.validator) (.validator v)) := by
    refine @Pattern.Unfolds.mapping v false .dict 0 0
      [(.text "name", .value (.cls (.builtin .str)), .value (.cls (.builtin .str))),
        (.text "children", children (.selfRef none), children v.validator),
        (.text "next", .seq .list 1 [.value .null, .value .ellipsis],
          .seq .list 1 [.value .null, .validator v])] ?_
    simp only [List.forall_mem_cons]
    exact ⟨.same _, hfragment, hsibling, by simp⟩
  obtain ⟨v', hv', hjudge⟩ := compile_unfold host hv hunfolds (.refl _)
  exact ⟨v', hv', hjudge _ (.refl _)⟩

end Schema

end Conformance
