import Conformance.Proofs.Pattern.Portable
import Conformance.Proofs.Validator.Release

/-!
# Patterns without the sessions of their schemas

A schema that stands in a pattern keeps its own session, and its references keep meaning it.  What is
left of the pattern when these sessions are forgotten has fragments in their place, and the references
in a fragment are taken over by the whole.

## Main Definitions

* `Pattern.release` — a pattern with fragments in place of the schemas in it

## Main statements

* `Pattern.compile_release` — what is left compiles to what is left of the validator
-/

namespace Conformance.Pattern

mutual

/-- A pattern with the references of all validators in it made references of no session. -/
def release : Pattern → Pattern
  | value v => value v
  | seq form tag items => seq form tag (releaseEach items)
  | mapping form tag entries => mapping form tag (releaseEntries entries)
  | validator h => validator ⟨h.label, h.validator.release⟩

/-- `release` on every item. -/
def releaseEach : List Pattern → List Pattern
  | [] => []
  | p :: ps => release p :: releaseEach ps

/-- `release` under every key. -/
def releaseEntries : List (Value × Pattern) → List (Value × Pattern)
  | [] => []
  | (key, p) :: es => (key, release p) :: releaseEntries es

end

theorem releaseEach_eq_map (ps : List Pattern) : releaseEach ps = ps.map release := by
  induction ps with
  | nil => rfl
  | cons p ps ih => rw [releaseEach, ih, List.map_cons]

theorem releaseEntries_eq_map (es : List (Value × Pattern)) :
    releaseEntries es = es.map fun e => (e.1, release e.2) := by
  induction es with
  | nil => rfl
  | cons e es ih => rw [releaseEntries, ih, List.map_cons]

mutual

/-- A literal says nothing of the sessions of the validators in it. -/
@[simp] theorem toValue_release (p : Pattern) : p.release.toValue = p.toValue := by
  cases p with
  | value v => rfl
  | seq form tag items => rw [release, toValue, toValue, toValues_release items]
  | mapping form tag entries => rw [release, toValue, toValue, toEntries_release entries]
  | validator h => simp [release, toValue, Handle.face]

theorem toValues_release (ps : List Pattern) : toValues (releaseEach ps) = toValues ps := by
  cases ps with
  | nil => rfl
  | cons p ps => rw [releaseEach, toValues, toValues, toValue_release p, toValues_release ps]

theorem toEntries_release (es : List (Value × Pattern)) :
    toEntries (releaseEntries es) = toEntries es := by
  cases es with
  | nil => rfl
  | cons e es => rw [releaseEntries, toEntries, toEntries, toValue_release e.2, toEntries_release es]

end

/-- **What is left of a pattern compiles to what is left of its validator**, or both are refused
alike. -/
theorem compile_release (slot : Nat → Slot) (o o' : Option Nat) (inOr : Bool) (p : Pattern) :
    Validator.release <$> compile slot o inOr p.release =
      Validator.release <$> compile slot o' inOr p := by
  induction p using treeInduction generalizing inOr with
  | value v =>
    rw [release, compile, compile]
    unfold compileValue
    split <;> rfl
  | seq form tag items ih =>
    rw [release, releaseEach_eq_map]
    by_cases hliteral : inOr = true ∧ items.length = 1
    · obtain ⟨rfl, hlength⟩ := hliteral
      obtain ⟨item, rfl⟩ := List.length_eq_one_iff.mp hlength
      rw [List.map_singleton, compile_seq_singleton, compile_seq_singleton, toValue_release]
    · refine map_compile_seq_congr
        (fun vs => by rw [Validator.release, Validator.releaseEach_eq_map])
        (by rwa [List.length_map]) ?_
      exact List.forall₂_map_left_iff.mpr (List.forall₂_same.mpr fun p hp => ih p hp true)
  | mapping form tag entries ih =>
    rw [release, releaseEntries_eq_map]
    refine map_compile_mapping_congr
      (fun ps => by rw [Validator.release, Validator.releaseProperties_eq_map]) ?_
    exact List.forall₂_map_left_iff.mpr (List.forall₂_same.mpr fun e he => ⟨rfl, ih e he false⟩)
  | validator h =>
    rw [release, compile, compile]
    exact congrArg Except.ok h.validator.release_release

/-- A pattern compiles if what is left of it does. -/
theorem exists_compile_of_release {slot : Nat → Slot} {p : Pattern} {inOr : Bool} {o : Option Nat}
    {u : Validator} (hu : compile slot o inOr p.release = .ok u) (o' : Option Nat) :
    ∃ v, compile slot o' inOr p = .ok v ∧ v.release = u.release := by
  have hrelease := compile_release slot o o' inOr p
  rw [hu] at hrelease
  exact Except.map_eq_ok_iff.mp hrelease.symm

end Conformance.Pattern
