import Conformance.Proofs.Validator.Structure
import Conformance.Proofs.Walk
import Conformance.Validator.Describing

/-!
# Descriptors, part by part

## Main Definitions

* `Property.DescribedBy` — what is found out of a key of an object pattern when it is described

## Main statements

* `Validator.describeEach_eq_ok_iff`, `Validator.describeProperties_eq_ok_iff` — alternatives and keys are
  described one by one
-/

namespace Conformance

/-- **What is found out of a key**: the descriptor of what stands under it, and that the name is required
if it asks for its absence and that is refused. -/
structure Property.DescribedBy (env : Env) (absent : Key → Validator → Walk Bool)
    (follow : Validator → Walk Value) (p : Property Validator) (d : Described) : Prop where
  key : d.key = p.key
  node : (p.rule.describe env absent follow).outcome = .ok d.descriptor
  required : d.required = true ↔ p.key.asksAbsence = true ∧ (absent p.key p.rule).outcome = .ok false

/-- A key is described if what stands under it is. -/
theorem Property.describedBy {env : Env} {absent : Key → Validator → Walk Bool}
    {follow : Validator → Walk Value} (p : Property Validator) {node : Value}
    (hnode : (p.rule.describe env absent follow).outcome = .ok node) :
    p.DescribedBy env absent follow ⟨p.key, node,
      p.key.asksAbsence && decide ((absent p.key p.rule).outcome = .ok false)⟩ :=
  ⟨rfl, hnode, by simp⟩

namespace Validator

variable {env : Env} {absent : Key → Validator → Walk Bool} {follow : Validator → Walk Value}

/-- **Alternatives are described one by one.** -/
theorem describeEach_eq_ok_iff {vs : List Validator} {nodes : List Value} :
    (describeEach env absent follow vs).outcome = .ok nodes ↔
      List.Forall₂ (fun v node => (v.describe env absent follow).outcome = .ok node) vs nodes := by
  induction vs generalizing nodes with
  | nil =>
    rw [List.forall₂_nil_left_iff, describeEach, Walk.outcome_pure, Except.ok.injEq, eq_comm]
  | cons v vs ih =>
    rw [describeEach]
    constructor
    · intro h
      obtain ⟨node, hnode, h⟩ := Walk.bind_eq_ok_iff.mp h
      obtain ⟨nodes, hnodes, h⟩ := Walk.bind_eq_ok_iff.mp h
      cases h
      exact .cons hnode (ih.mp hnodes)
    · rintro (_ | ⟨hnode, hnodes⟩)
      rw [Walk.outcome_bind_of_ok hnode, Walk.outcome_bind_of_ok (ih.mpr hnodes)]
      rfl

/-- Whether a key is required. -/
def required (absent : Key → Validator → Walk Bool) (key : Key) (rule : Validator) : Walk Bool :=
  if key.asksAbsence then (!·) <$> absent key rule else pure false

/-- There is an answer to whether a key is required if there is one to whether its absence is
admitted. -/
theorem outcome_required {key : Key} {rule : Validator} {b : Bool}
    (habsent : ∃ b, (absent key rule).outcome = .ok b) : (required absent key rule).outcome = .ok b ↔
      (b = true ↔ key.asksAbsence = true ∧ (absent key rule).outcome = .ok false) := by
  obtain ⟨admits, hadmits⟩ := habsent
  unfold required
  by_cases hasks : key.asksAbsence = true
  · rw [if_pos hasks, ← bind_pure_comp, Walk.outcome_bind_of_ok hadmits, hadmits]
    cases admits <;> cases b <;> simp [hasks]
  · rw [if_neg hasks]
    cases b <;> simp [hasks]

theorem describeProperties_cons (p : Property Validator) (ps : List (Property Validator)) :
    describeProperties env absent follow (p :: ps) = do
      let node ← p.rule.describe env absent follow
      let required ← required absent p.key p.rule
      let ds ← describeProperties env absent follow ps
      return ⟨p.key, node, required⟩ :: ds := by
  obtain ⟨key, label, rule⟩ := p
  rw [describeProperties, required]
  split <;> rfl

/-- **Keys are described one by one**, if there is always an answer to whether absence is admitted. -/
theorem describeProperties_eq_ok_iff (habsent : ∀ k u, ∃ b, (absent k u).outcome = .ok b)
    {ps : List (Property Validator)} {ds : List Described} :
    (describeProperties env absent follow ps).outcome = .ok ds ↔
      List.Forall₂ (Property.DescribedBy env absent follow) ps ds := by
  induction ps generalizing ds with
  | nil =>
    rw [List.forall₂_nil_left_iff, describeProperties, Walk.outcome_pure, Except.ok.injEq, eq_comm]
  | cons p ps ih =>
    rw [describeProperties_cons]
    constructor
    · intro h
      obtain ⟨node, hnode, h⟩ := Walk.bind_eq_ok_iff.mp h
      obtain ⟨required, hrequired, h⟩ := Walk.bind_eq_ok_iff.mp h
      obtain ⟨rest, hrest, h⟩ := Walk.bind_eq_ok_iff.mp h
      cases h
      exact .cons ⟨rfl, hnode, (outcome_required (habsent p.key p.rule)).mp hrequired⟩ (ih.mp hrest)
    · rintro (_ | ⟨⟨hkey, hnode, hrequired⟩, hds⟩)
      rw [Walk.outcome_bind_of_ok hnode,
        Walk.outcome_bind_of_ok ((outcome_required (habsent p.key p.rule)).mpr hrequired),
        Walk.outcome_bind_of_ok (ih.mpr hds), ← hkey]
      rfl

end Validator

end Conformance
