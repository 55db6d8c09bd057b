import Conformance.Proofs.Descriptor.Reading
import Conformance.Proofs.Validator.ComingBack
import Conformance.Proofs.Validator.Release

/-!
# Validators that are read back

A rule can be read back from its descriptor though the descriptor does not tell it in full: the class of
floats comes back as a number, and the classes of lists and dictionaries as arrays and objects.

## Main Definitions

* `Leaf.Recoverable` — the rules that can be read back
* `Validator.MadeOf` — validators that are put together from rules and keys of some kind
* `Validator.Recoverable` — the validators that can be read back

## Main statements

* `Validator.Portable.recoverable` — what can be told in full can be read back
-/

namespace Conformance

/-- **The rules that can be read back**: of the classes those that JSON has a type for, and regexes
without switches that are not taken for a string rule. -/
def Leaf.Recoverable : Leaf → Prop
  | instanceOf c => c.jsonType?.isSome = true
  | regex r => Regex.ofSource r.source .none = .ok r ∧ Descriptor.NoStringRule r.source
  | number b => b.steps.all Num.isPositive = true
  | stringOf rule =>
    rule.charset ≠ "" ∧ CharsetRule.make rule.charset rule.least rule.most = .ok rule
  | reference _ => False
  | callable => False
  | _ => True

/-- What can be told in full can be read back. -/
theorem Leaf.Portable.recoverable {rule : Leaf} (h : rule.Portable) : rule.Recoverable := by
  cases rule with
  | instanceOf c => rcases h with rfl | rfl | rfl <;> rfl
  | regex r => exact ⟨h.1, Descriptor.noStringRule_of_shape h.2⟩
  | _ => exact h

/-- A rule that can be told in full comes back with the same meaning. -/
theorem Leaf.Portable.isExact {rule : Leaf} (h : rule.Portable) : rule.IsExact := by
  rintro c rfl
  rcases h with rfl | rfl | rfl <;> decide

namespace Validator

/-- **Validators that are made of `good` rules**, without delegates and without references to a session.
No two keys of an object pattern are written to the same member, and each is one that is `kept`. -/
inductive MadeOf (good : Leaf → Prop) (kept : Key → Validator → Prop) : Validator → Prop where
  | leaf {rule : Leaf} : good rule → MadeOf good kept (leaf rule)
  | anyOf {vs : List Validator} : vs ≠ [] → (∀ v ∈ vs, MadeOf good kept v) →
    MadeOf good kept (anyOf vs)
  | object {ps : List (Property Validator)} :
    (∀ p ∈ ps, Key.ofWritten p.key.written = .ok p.key ∧ kept p.key p.rule) →
    ps.Pairwise (fun p q => p.key.member ≠ q.key.member) →
    (∀ p ∈ ps, MadeOf good kept p.rule) → MadeOf good kept (object ps)
  | arrayOf {items : Validator} (least : Nat) (most : Option Nat) :
    MadeOf good kept items → MadeOf good kept (arrayOf items least most)
  | selfRef : MadeOf good kept (selfRef none)

/-- **The validators that can be read back**: made of rules that can be, and without an empty key. -/
def Recoverable (v : Validator) : Prop := v.MadeOf Leaf.Recoverable fun k _ => k.written ≠ ""

variable {good good' : Leaf → Prop} {kept kept' : Key → Validator → Prop} {v : Validator}

namespace MadeOf

theorem mono (h : v.MadeOf good kept) (hgood : ∀ rule, good rule → good' rule)
    (hkept : ∀ k u, kept k u → kept' k u) : v.MadeOf good' kept' := by
  induction h with
  | leaf hrule => exact .leaf (hgood _ hrule)
  | anyOf hne _ ih => exact .anyOf hne ih
  | object hkeys hmembers _ ih =>
    exact .object (fun p hp => ⟨(hkeys p hp).1, hkept _ _ (hkeys p hp).2⟩) hmembers ih
  | arrayOf least most _ ih => exact .arrayOf least most ih
  | selfRef => exact .selfRef

theorem selfContained (h : v.MadeOf good kept) : v.SelfContained none := by
  induction h with
  | leaf _ => exact .leaf _
  | anyOf _ _ ih => exact .anyOf ih
  | object _ _ _ ih => exact .object ih
  | arrayOf least most _ ih => exact .arrayOf least most ih
  | selfRef => exact .selfRef

/-- What is made of `good` rules still is when its sessions are left out. -/
theorem release (h : v.MadeOf good kept) (hkept : ∀ k u, kept k u → kept' k u.release) :
    v.release.MadeOf good kept' := by
  induction h with
  | leaf hrule => exact .leaf hrule
  | anyOf hne _ ih =>
    rw [Validator.release, releaseEach_eq_map]
    exact .anyOf (fun hnil => hne (List.map_eq_nil_iff.mp hnil)) (List.forall_mem_map.mpr ih)
  | object hkeys hmembers _ ih =>
    rw [Validator.release, releaseProperties_eq_map]
    refine .object (List.forall_mem_map.mpr fun p hp => ?_) (List.pairwise_map.mpr hmembers)
      (List.forall_mem_map.mpr ih)
    exact ⟨(hkeys p hp).1, hkept _ _ (hkeys p hp).2⟩
  | arrayOf least most _ ih => exact .arrayOf least most ih
  | selfRef => exact .selfRef

end MadeOf

/-- What can be told in full is made of rules that can be. -/
theorem Portable.madeOf (h : v.Portable) : v.MadeOf Leaf.Portable fun k _ => k.written ≠ "" := by
  induction h with
  | leaf hrule => exact .leaf hrule
  | anyOf hne _ ih => exact .anyOf hne ih
  | object hkeys hmembers _ ih => exact .object hkeys hmembers ih
  | arrayOf least most _ ih => exact .arrayOf least most ih
  | selfRef => exact .selfRef

/-- What is made of rules that can be told in full can be. -/
theorem MadeOf.portable (h : v.MadeOf Leaf.Portable fun k _ => k.written ≠ "") : v.Portable := by
  induction h with
  | leaf hrule => exact .leaf hrule
  | anyOf hne _ ih => exact .anyOf hne ih
  | object hkeys hmembers _ ih => exact .object hkeys hmembers ih
  | arrayOf least most _ ih => exact .arrayOf least most ih
  | selfRef => exact .selfRef

/-- What can be told in full still can when its sessions are left out. -/
theorem Portable.release (h : v.Portable) : v.release.Portable :=
  (h.madeOf.release fun _ _ => id).portable

/-- What can be told in full can be read back. -/
theorem Portable.recoverable (h : v.Portable) : v.Recoverable :=
  h.madeOf.mono (fun _ => Leaf.Portable.recoverable) fun _ _ => id

end Validator

end Conformance
