import Conformance.Proofs.Pattern.Grammar
import Conformance.Proofs.Validator.AbsenceForm
import Conformance.Proofs.Validator.Rebinding

/-!
# The patterns that accept absence

The form in which a validator accepts absence shows in the pattern that it is compiled from, and it is not
changed when a session takes the validator over.

## Main Definitions

* `Pattern.TakesAbsence` — the form of the patterns that accept absence under a key

## Main statements

* `Validator.TakenOver.takesAbsence_iff` — what a session takes over is of the form if it was before
* `Pattern.takesAbsence_of_compile_iff` — the form of a validator is the form of its pattern
-/

namespace Conformance

variable {env : Env}

/-- **Taking over keeps the form**, if the root of the session is an object pattern: then a reference to it
accepts no absence, and neither does one that waits. -/
theorem Validator.TakenOver.takesAbsence_iff {n : Nat} {label : Option Label} {v w : Validator}
    (h : TakenOver env.slot n label v w) {ps : List (Property Validator)}
    (hroot : env.root n = some (.object ps)) : env.TakesAbsence w ↔ env.TakesAbsence v := by
  induction h with
  | kept _ => exact .rfl
  | reference => simp [Env.takesAbsence_selfRef, hroot]
  | delegate hslot _ _ ih =>
    rw [Env.takesAbsence_delegateTo, ih, Env.takesAbsence_delegate]
    simp [hslot]
  | delegateTo _ _ ih => rw [Env.takesAbsence_delegateTo, ih, Env.takesAbsence_delegateTo]
  | anyOf _ _ ih =>
    simp only [Env.takesAbsence_anyOf, List.mem_map, exists_exists_and_eq_and]
    exact exists_congr fun e => and_congr_right (ih e)
  | object _ _ _ _ => exact iff_of_false (Env.not_takesAbsence_object _) (Env.not_takesAbsence_object _)
  | arrayOf _ _ _ =>
    exact iff_of_false (Env.not_takesAbsence_arrayOf _ _ _) (Env.not_takesAbsence_arrayOf _ _ _)

namespace Pattern

/-- **The patterns that accept absence** under a key: null, the ellipsis outside of alternatives, a class
that absence is an instance of, a `schema` or a compiled validator that accepts it, absence as a literal,
and a list with an alternative that accepts it.  A reference to the whole means the pattern with the key and
accepts no absence. -/
inductive TakesAbsence (env : Env) : Bool → Pattern → Prop where
  | null {inOr : Bool} : TakesAbsence env inOr (value .null)
  | anything : TakesAbsence env false (value .ellipsis)
  | instanceOf {inOr : Bool} {c : Class} : Value.missing.isInstance c = true →
    TakesAbsence env inOr (value (.cls c))
  | schema {inOr : Bool} {x : Value} {t : Target} {h : Handle} : target? x = some t →
    env.slot t.id = .validator h → env.TakesAbsence h.validator → TakesAbsence env inOr (value x)
  | validator {inOr : Bool} {h : Handle} : env.TakesAbsence h.validator →
    TakesAbsence env inOr (validator h)
  | literal {form : SeqForm} {tag : Nat} : TakesAbsence env true (seq form tag [value .missing])
  | item {inOr : Bool} {form : SeqForm} {tag : Nat} {items : List Pattern} {p : Pattern} :
    ¬ IsLiteral inOr items → p ∈ items → TakesAbsence env true p →
    TakesAbsence env inOr (seq form tag items)

variable {session : Option Nat} {inOr : Bool}

@[simp] theorem takesAbsence_validator {h : Handle} :
    TakesAbsence env inOr (validator h) ↔ env.TakesAbsence h.validator :=
  ⟨fun | .validator h => h, .validator⟩

@[simp] theorem not_takesAbsence_mapping (form : MapForm) (tag : Nat) (entries : List (Value × Pattern)) :
    ¬ TakesAbsence env inOr (mapping form tag entries) := nofun

/-- Which values without parts are of the form. -/
theorem takesAbsence_value {x : Value} : TakesAbsence env inOr (value x) ↔
    x = .null ∨ (x = .ellipsis ∧ inOr = false) ∨
      (∃ c, x = .cls c ∧ Value.missing.isInstance c = true) ∨
      ∃ t h, target? x = some t ∧ env.slot t.id = .validator h ∧ env.TakesAbsence h.validator := by
  constructor
  · intro h
    cases h with
    | null => exact .inl rfl
    | anything => exact .inr (.inl ⟨rfl, rfl⟩)
    | instanceOf hinstance => exact .inr (.inr (.inl ⟨_, rfl, hinstance⟩))
    | schema ht hslot htakes => exact .inr (.inr (.inr ⟨_, _, ht, hslot, htakes⟩))
  · rintro (rfl | ⟨rfl, rfl⟩ | ⟨c, rfl, hinstance⟩ | ⟨t, h, ht, hslot, htakes⟩)
    · exact .null
    · exact .anything
    · exact .instanceOf hinstance
    · exact .schema ht hslot htakes

/-- The form of a validator without parts is the form of the value that it is compiled from. -/
theorem takesAbsence_of_compileValue_iff {x : Value} {v : Validator}
    (h : compileValue env.slot session inOr x = .ok v)
    (hself : ¬ env.TakesAbsence (.selfRef session)) :
    env.TakesAbsence v ↔ TakesAbsence env inOr (value x) := by
  rw [takesAbsence_value]
  cases x with
  | null =>
    cases h
    simp [Leaf.TakesAbsence.null]
  | ellipsis =>
    cases inOr with
    | true =>
      cases h
      simp [hself, target?]
    | false =>
      cases h
      simp [Leaf.TakesAbsence.anything]
  | selfMarker =>
    cases h
    simp [hself, target?]
  | cls c =>
    cases c with
    | builtin b =>
      cases h
      simp [Leaf.takesAbsence_instanceOf, target?]
    | host c =>
      cases hslot : env.slot c.id with
      | validator g =>
        rw [compileValue_target rfl hslot] at h
        cases h
        simp [Env.takesAbsence_delegate, target?, hslot, Value.isInstance]
      | _ =>
        simp only [compileValue, kindOfValue, hslot] at h
        cases h
        simp [Leaf.takesAbsence_instanceOf, target?, hslot]
  | host o =>
    cases hslot : env.slot o.id with
    | validator g =>
      rw [compileValue_target rfl hslot] at h
      cases h
      simp [Env.takesAbsence_delegate, target?, hslot]
    | function verdict =>
      cases hcallable : o.callable <;> simp [compileValue, kindOfValue, hslot, hcallable, target?] at h
      subst h
      simp [Env.takesAbsence_delegate, target?, hslot]
    | _ => simp [compileValue, kindOfValue, hslot] at h
  | regex _ | bool _ | number _ | text _ =>
    cases h
    refine iff_of_false (fun htakes => ?_) (by simp [target?])
    rw [Env.takesAbsence_leaf] at htakes
    cases htakes
  | _ => cases h

/-- A literal is of the form if it is absence. -/
theorem takesAbsence_literal {form : SeqForm} {tag : Nat} {item : Pattern} :
    TakesAbsence env true (seq form tag [item]) ↔ item.toValue = .missing := by
  constructor
  · intro h
    cases h with
    | literal => rfl
    | item hliteral => exact absurd ⟨rfl, rfl⟩ hliteral
  · intro h
    cases item with
    | value x =>
      cases h
      exact .literal
    | _ => cases h

/-- **The form of a validator is the form of its pattern**, if references to the whole are not of it. -/
theorem takesAbsence_of_compile_iff {p : Pattern} {v : Validator}
    (h : compile env.slot session inOr p = .ok v) (hself : ¬ env.TakesAbsence (.selfRef session)) :
    env.TakesAbsence v ↔ p.TakesAbsence env inOr := by
  induction p using treeInduction generalizing v inOr with
  | value x =>
    rw [compile, Except.mapError_eq_ok_iff] at h
    exact takesAbsence_of_compileValue_iff h hself
  | validator g =>
    cases h
    exact takesAbsence_validator.symm
  | seq form tag items ih =>
    by_cases hliteral : IsLiteral inOr items
    · obtain ⟨rfl, hlength⟩ := id hliteral
      obtain ⟨item, rfl⟩ := List.length_eq_one_iff.mp hlength
      rw [compile_seq_singleton] at h
      cases h
      rw [Env.takesAbsence_leaf, Leaf.takesAbsence_literal, takesAbsence_literal]
    · rw [compile_seq hliteral, Except.map_eq_ok_iff] at h
      obtain ⟨vs, hvs, rfl⟩ := h
      have hall := compileEach_eq_ok_iff.mp hvs
      rw [Env.takesAbsence_anyOf]
      constructor
      · rintro ⟨w, hw, htakes⟩
        obtain ⟨p, hp, hcompile⟩ := hall.exists_left hw
        exact .item hliteral hp ((ih p hp hcompile).mp htakes)
      · intro htakes
        cases htakes with
        | literal => exact absurd ⟨rfl, rfl⟩ hliteral
        | @item _ _ _ _ p _ hp htakes =>
          obtain ⟨w, hw, hcompile⟩ := hall.exists_right hp
          exact ⟨w, hw, (ih p hp hcompile).mpr htakes⟩
  | mapping form tag entries =>
    simp only [compile, Except.bind_eq_ok_iff, Except.pure_eq_ok_iff] at h
    obtain ⟨ps, -, rfl⟩ := h
    exact iff_of_false (Env.not_takesAbsence_object ps) (not_takesAbsence_mapping form tag entries)

end Pattern

end Conformance
