import Conformance.Proofs.Validator.Termination

/-!
# Where no function of the host is asked

The `schema` of an object can be a function of the host.  Whatever such functions say, absence is judged in
the same way, and descriptors are the same: neither asks them.

## Main Definitions

* `Env.SameStructure` — surroundings that differ in what functions of the host say, and in nothing else

## Main statements

* `Env.SameStructure.check_missing`, `Env.SameStructure.explain_missing` — absence is judged in the same way
* `Env.SameStructure.describeTo_eq` — validators are described in the same way
-/

namespace Conformance

/-- The same `schema`, or two functions of the host. -/
inductive Slot.SameStructure : Slot → Slot → Prop where
  | refl (s : Slot) : SameStructure s s
  | function (verdict verdict' : Value → Except Fault Bool) :
    SameStructure (.function verdict) (.function verdict')

/-- **Surroundings that differ in what functions of the host say**, and in nothing else. -/
structure Env.SameStructure (env env' : Env) : Prop where
  root : env'.root = env.root
  slot : ∀ i, (env.slot i).SameStructure (env'.slot i)
  stepTolerance : env'.stepTolerance = env.stepTolerance

/-- The `schema` of an object is the same, or is a function both times. -/
theorem Env.SameStructure.slot_cases {env env' : Env} (h : env.SameStructure env') (i : Nat) :
    env'.slot i = env.slot i ∨
      ∃ verdict verdict', env.slot i = .function verdict ∧ env'.slot i = .function verdict' := by
  have hslot := h.slot i
  generalize env.slot i = old at hslot ⊢
  generalize env'.slot i = new at hslot ⊢
  cases hslot with
  | refl => exact .inl rfl
  | function verdict verdict' => exact .inr ⟨verdict, verdict', rfl, rfl⟩

namespace Validator

variable {env env' : Env}

section Check

variable (h : env.SameStructure env') {follow follow' : Validator → Check} {path : String}
include h

/-- **One layer of a check of absence** asks no function of the host. -/
theorem check_missing_eq (hfollow : ∀ w, follow' w .missing path = follow w .missing path)
    (v : Validator) : v.check env' follow' .missing path = v.check env follow .missing path := by
  induction v using treeInduction with
  | leaf rule => rw [check, check, h.stepTolerance]
  | delegate t =>
    rw [check, check]
    rcases h.slot_cases t.id with hslot | ⟨verdict, verdict', hold, hnew⟩
    · rw [hslot]
      cases env.slot t.id with
      | validator g => exact hfollow g.validator
      | _ => rfl
    · rw [hold, hnew]
      rfl
  | delegateTo t copy ih => exact ih
  | anyOf vs ih =>
    rw [check, check, checks_eq_map, checks_eq_map, Check.anyOf, Check.anyOf, Walk.any_map, Walk.any_map]
    exact Walk.any_congr ih
  | object ps => simp only [check, Check.object]
  | arrayOf items least most => simp only [check, Check.arrayOf]
  | selfRef session =>
    rw [check, check, h.root]
    cases session.bind env.root with
    | none => rfl
    | some r => exact hfollow r
  | external e => rfl

/-- **One layer of an explaining check of absence** asks no function of the host. -/
theorem explain_missing_eq {absent absent' : Property Validator → Walk Bool}
    (hfollow : ∀ w, follow' w .missing path = follow w .missing path) (v : Validator) :
    v.explain env' absent' follow' .missing path = v.explain env absent follow .missing path := by
  induction v using treeInduction with
  | leaf rule => rw [explain, explain, h.stepTolerance]
  | delegate t =>
    rw [explain, explain]
    rcases h.slot_cases t.id with hslot | ⟨verdict, verdict', hold, hnew⟩
    · rw [hslot]
      cases env.slot t.id with
      | validator g => exact hfollow g.validator
      | _ => rfl
    · rw [hold, hnew]
      rfl
  | delegateTo t copy ih => exact ih
  | anyOf vs ih =>
    rw [explain, explain, explainEach_eq_map, explainEach_eq_map, Explain.anyOf, Explain.anyOf,
      Explain.groups_congr]
    refine List.forall₂_map_left_iff.mpr (List.forall₂_map_right_iff.mpr ?_)
    exact List.forall₂_same.mpr fun v hv => ⟨rfl, ih v hv⟩
  | object ps => simp only [explain, Explain.object]
  | arrayOf items least most => simp only [explain, Explain.arrayOf]
  | selfRef session =>
    rw [explain, explain, h.root]
    cases session.bind env.root with
    | none => rfl
    | some r => exact hfollow r
  | external e => rfl

end Check

mutual

/-- **One layer of a descriptor** asks no function of the host. -/
theorem describe_same (h : env.SameStructure env') {absent absent' : Key → Validator → Walk Bool}
    {follow follow' : Validator → Walk Value} (hfollow : ∀ w, follow' w = follow w)
    (habsent : ∀ k w, absent' k w = absent k w) (v : Validator) :
    v.describe env' absent' follow' = v.describe env absent follow := by
  cases v with
  | leaf rule => rfl
  | delegate t =>
    rw [describe, describe]
    rcases h.slot_cases t.id with hslot | ⟨verdict, verdict', hold, hnew⟩
    · rw [hslot]
      cases env.slot t.id with
      | validator g => exact hfollow g.validator
      | _ => rfl
    · rw [hold, hnew]
  | delegateTo t copy => rw [describe, describe, describe_same h hfollow habsent copy]
  | anyOf vs => rw [describe, describe, describeEach_same h hfollow habsent vs]
  | object ps => rw [describe, describe, describeProperties_same h hfollow habsent ps]
  | arrayOf items least most => rw [describe, describe, describe_same h hfollow habsent items]
  | selfRef session => rfl
  | external e => rfl

/-- The descriptors of alternatives ask no function of the host. -/
theorem describeEach_same (h : env.SameStructure env')
    {absent absent' : Key → Validator → Walk Bool}
    {follow follow' : Validator → Walk Value} (hfollow : ∀ w, follow' w = follow w)
    (habsent : ∀ k w, absent' k w = absent k w) (vs : List Validator) :
    describeEach env' absent' follow' vs = describeEach env absent follow vs := by
  cases vs with
  | nil => rfl
  | cons v vs =>
    rw [describeEach, describeEach, describe_same h hfollow habsent v,
      describeEach_same h hfollow habsent vs]

/-- What is known of the keys of an object pattern is known without a function of the host. -/
theorem describeProperties_same (h : env.SameStructure env')
    {absent absent' : Key → Validator → Walk Bool}
    {follow follow' : Validator → Walk Value} (hfollow : ∀ w, follow' w = follow w)
    (habsent : ∀ k w, absent' k w = absent k w) (ps : List (Property Validator)) :
    describeProperties env' absent' follow' ps = describeProperties env absent follow ps := by
  cases ps with
  | nil => rfl
  | cons p ps =>
    obtain ⟨key, label, rule⟩ := p
    rw [describeProperties, describeProperties, describe_same h hfollow habsent rule,
      describeProperties_same h hfollow habsent ps, habsent key rule]

end

end Validator

namespace Env.SameStructure

variable {env env' : Env} (h : env.SameStructure env')
include h

/-- **A check of absence asks no function of the host**, to whatever depth it goes. -/
theorem check_missing (depth : Nat) (v : Validator) (path : String) :
    env'.check depth v .missing path = env.check depth v .missing path := by
  induction depth generalizing v with
  | zero => rfl
  | succ depth ih => exact Validator.check_missing_eq h ih v

/-- **An explaining check of absence asks no function of the host.** -/
theorem explain_missing (depth : Nat) (v : Validator) (path : String) :
    env'.explain depth v .missing path = env.explain depth v .missing path := by
  induction depth generalizing v with
  | zero => rfl
  | succ depth ih => exact Validator.explain_missing_eq h ih v

/-- **A descriptor is written without asking a function of the host.** -/
theorem describeTo_eq (depth : Nat) (v : Validator) : env'.describeTo depth v = env.describeTo depth v := by
  have habsent : ∀ k w, env'.admitsAbsence k w = env.admitsAbsence k w := by
    intro k w
    show absenceWalk k (env'.check depthLimit w .missing "") = _
    rw [h.check_missing]
    rfl
  induction depth generalizing v with
  | zero => rfl
  | succ depth ih => exact Validator.describe_same h ih habsent v

end Env.SameStructure

end Conformance
