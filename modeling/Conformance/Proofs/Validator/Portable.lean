import Conformance.Builder.Text
import Conformance.Descriptor.StringRule
import Conformance.Proofs.Key
import Conformance.Proofs.Validator.References
import Conformance.Validator.Describing

/-!
# Validators that descriptors can tell in full

A descriptor says less than a validator: classes of the host, delegates and references by identity
only have names in it.  The validators that are made without them can be told in full.

## Main Definitions

* `Key.member` — the member of an object's descriptor that a key is written to
* `Leaf.Portable`, `Validator.Portable` — the validators that can be told in full
* `Validator.SelfContained` — a validator without delegates, all of whose references belong to one
  session or to none

## Main statements

* `Validator.Portable.of_adopt_eq` — a portable validator that a session has bound is portable if it
  holds no references of the session
-/

namespace Conformance

/-! ## Portable validators -/

/-- The member of an object's descriptor that a key is written to: the part it stands in and its name
there. -/
def Key.member (k : Key) : String × String :=
  if k.isCatchAll then ("additionalProperties", "")
  else if k.isProperty then ("properties", k.sourceText)
  else ("patternProperties", anchored k.sourceText)

/-- **The rules that can be told in full**: of the classes those that JSON has a type for, and regexes
without switches that nobody takes for a string rule.  Steps are positive and string rules are those
of their own character set and lengths, as the builders make them. -/
def Leaf.Portable : Leaf → Prop
  | instanceOf c => c = .builtin .str ∨ c = .builtin .int ∨ c = .builtin .bool
  | regex r => Regex.ofSource r.source .none = .ok r ∧ StringRule.split? r.source = none
  | number b => b.steps.all Num.isPositive = true
  | stringOf rule =>
    rule.charset ≠ "" ∧ CharsetRule.make rule.charset rule.least rule.most = .ok rule
  | reference _ => False
  | callable => False
  | _ => True

/-- **The validators that can be told in full**: put together from rules that can be, without
delegates and without references to a session.  No key is empty, and no two keys are written to the
same member. -/
inductive Validator.Portable : Validator → Prop where
  | leaf {rule : Leaf} : rule.Portable → Portable (leaf rule)
  | anyOf {vs : List Validator} : vs ≠ [] → (∀ v ∈ vs, Portable v) → Portable (anyOf vs)
  | object {ps : List (Property Validator)} :
    (∀ p ∈ ps, Key.ofWritten p.key.written = .ok p.key ∧ p.key.written ≠ "") →
    ps.Pairwise (fun p q => p.key.member ≠ q.key.member) →
    (∀ p ∈ ps, Portable p.rule) → Portable (object ps)
  | arrayOf {items : Validator} (least : Nat) (most : Option Nat) :
    Portable items → Portable (arrayOf items least most)
  | selfRef : Portable (selfRef none)

/-! ## Self-contained validators -/

namespace Validator

/-- **A validator without delegates**, all of whose references belong to `own`. -/
inductive SelfContained (own : Option Nat) : Validator → Prop where
  | leaf (rule : Leaf) : SelfContained own (leaf rule)
  | anyOf {vs : List Validator} : (∀ v ∈ vs, SelfContained own v) → SelfContained own (anyOf vs)
  | object {ps : List (Property Validator)} :
    (∀ p ∈ ps, SelfContained own p.rule) → SelfContained own (object ps)
  | arrayOf {items : Validator} (least : Nat) (most : Option Nat) :
    SelfContained own items → SelfContained own (arrayOf items least most)
  | selfRef : SelfContained own (selfRef own)

theorem Portable.selfContained {v : Validator} (h : v.Portable) : v.SelfContained none := by
  induction h with
  | leaf _ => exact .leaf _
  | anyOf _ _ ih => exact .anyOf ih
  | object _ _ _ ih => exact .object ih
  | arrayOf least most _ ih => exact .arrayOf least most ih
  | selfRef => exact .selfRef

variable {slot : Nat → Slot} {n : Nat} {v : Validator}

/-- What belongs to a session is not taken over by another one. -/
theorem adopt_of_selfContained {m : Nat} (h : v.SelfContained (some m)) (session : Option Nat) :
    v.adopt session = v.adopt none := by
  induction h with
  | leaf rule => rfl
  | anyOf _ ih =>
    rw [adopt, adopt, adoptEach_eq_map, adoptEach_eq_map]
    exact congrArg Validator.anyOf (List.map_congr_left ih)
  | object _ ih =>
    rw [adopt, adopt, adoptProperties_eq_map, adoptProperties_eq_map]
    refine congrArg Validator.object (List.map_congr_left fun p hp => ?_)
    exact congrArg (Property.mk p.key none) (ih p hp)
  | arrayOf least most _ ih => rw [adopt, adopt, ih]
  | selfRef => rfl

/-- What stands in it is such a validator. -/
theorem SelfContained.part {own : Option Nat} {w : Validator} (h : v.SelfContained own)
    (hpart : v.Part w) : w.SelfContained own := by
  cases hpart with
  | copy t => cases h
  | alternative hmem => cases h with | anyOf h => exact h _ hmem
  | property hmem => cases h with | object h => exact h _ hmem
  | element => cases h with | arrayOf _ _ h => exact h

/-- Identities of parts are nothing to where references belong. -/
theorem SelfContained.of_adopt_none {own : Option Nat} (h : (v.adopt none).SelfContained own) :
    v.SelfContained own := by
  induction v using treeInduction with
  | leaf rule => exact .leaf rule
  | anyOf vs ih =>
    rw [adopt, adoptEach_eq_map] at h
    cases h with
    | anyOf h => exact .anyOf fun v hv => ih v hv (List.forall_mem_map.mp h v hv)
  | object ps ih =>
    rw [adopt, adoptProperties_eq_map] at h
    cases h with
    | object h => exact .object fun p hp => ih p hp (List.forall_mem_map.mp h p hp)
  | arrayOf items least most ih =>
    cases h with
    | arrayOf _ _ h => exact .arrayOf least most (ih h)
  | selfRef session => cases session <;> exact h
  | delegate t => cases h
  | delegateTo t copy => cases h
  | external e => cases h

/-- All references that it holds belong there. -/
theorem SelfContained.eq_of_holds {own session : Option Nat} (h : v.SelfContained own)
    (hholds : v.Holds slot session) : session = own := by
  induction h with
  | leaf rule => exact absurd hholds (not_holds_leaf rule)
  | anyOf _ ih =>
    obtain ⟨w, hw, hholds⟩ := (holds_anyOf _).mp hholds
    exact ih w hw hholds
  | object _ ih =>
    obtain ⟨p, hp, hholds⟩ := (holds_object _).mp hholds
    exact ih p hp hholds
  | arrayOf least most _ ih => exact ih ((holds_arrayOf _ least most).mp hholds)
  | selfRef => exact ((holds_selfRef own).mp hholds).symm

/-! ## Portable validators of a session -/

/-- Identities of parts are nothing to what can be told. -/
theorem Portable.of_adopt_none {w : Validator} (h : (w.adopt none).Portable) : w.Portable := by
  induction w using treeInduction with
  | leaf rule => exact h
  | anyOf vs ih =>
    rw [adopt, adoptEach_eq_map] at h
    cases h with
    | anyOf hne hall =>
      refine .anyOf (fun hnil => hne (by rw [hnil]; rfl)) fun v hv => ?_
      exact ih v hv (List.forall_mem_map.mp hall v hv)
  | object ps ih =>
    rw [adopt, adoptProperties_eq_map] at h
    cases h with
    | object hkeys hmembers hrules =>
      rw [List.pairwise_map] at hmembers
      refine .object (List.forall_mem_map.mp hkeys) hmembers fun p hp => ?_
      exact ih p hp (List.forall_mem_map.mp hrules p hp)
  | arrayOf items least most ih =>
    cases h with
    | arrayOf _ _ hitems => exact .arrayOf least most (ih hitems)
  | selfRef own =>
    cases own with
    | none => exact .selfRef
    | some m => cases h
  | delegate t => cases h
  | delegateTo t copy => cases h
  | external e => cases h

/-- A portable validator stays one when a session takes its references over, if there are none. -/
theorem Portable.adopt_of_not_holds (hv : v.Portable)
    (hfree : ¬ (v.adopt (some n)).Holds slot (some n)) : (v.adopt (some n)).Portable := by
  induction hv with
  | leaf hrule => exact .leaf hrule
  | @anyOf vs hne _ ih =>
    rw [adopt, adoptEach_eq_map] at hfree ⊢
    rw [holds_anyOf] at hfree
    refine .anyOf (fun hnil => hne (List.map_eq_nil_iff.mp hnil)) (List.forall_mem_map.mpr ?_)
    exact fun v hv => ih v hv fun hholds => hfree ⟨_, List.mem_map_of_mem hv, hholds⟩
  | @object ps hkeys hmembers _ ih =>
    rw [adopt, adoptProperties_eq_map] at hfree ⊢
    rw [holds_object] at hfree
    refine .object (List.forall_mem_map.mpr hkeys) (List.pairwise_map.mpr hmembers)
      (List.forall_mem_map.mpr ?_)
    exact fun p hp => ih p hp fun hholds => hfree ⟨_, List.mem_map_of_mem hp, hholds⟩
  | arrayOf least most _ ih =>
    rw [adopt, holds_arrayOf] at hfree
    exact .arrayOf least most (ih hfree)
  | selfRef => exact absurd ((holds_selfRef (some n)).mpr rfl) hfree

/-- **What became of a portable validator in a session is portable** if it holds no references of that
session. -/
theorem Portable.of_adopt_eq {w : Validator} (hv : v.Portable)
    (htree : w.adopt none = v.adopt (some n)) (hfree : ¬ w.Holds slot (some n)) : w.Portable := by
  have hnone : (w.adopt none).Portable := by
    rw [htree]
    have hnot : ¬ (v.adopt (some n)).Holds slot (some n) := by
      rwa [← htree, holds_adopt_none]
    exact hv.adopt_of_not_holds hnot
  exact .of_adopt_none hnone

end Validator

end Conformance
