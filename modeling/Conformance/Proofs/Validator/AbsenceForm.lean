import Conformance.Proofs.Validator.Decision
import Conformance.Proofs.Validator.Guarded

/-!
# The validators that accept absence

Whether a validator accepts absence shows in its form.  Absence has no parts, so a check of it goes through
alternatives, delegates and references only, and the rules at the end of its way do not look into the value.

## Main Definitions

* `Leaf.TakesAbsence`, `Env.TakesAbsence` — the form of the rules and of the validators that accept absence
* `Env.Responsive` — a validator through which a check can go to an answer of the library
* `Env.SettlesAbsence` — a depth to which absence is judged by the form, without a fault

## Main statements

* `Env.settlesAbsence` — a check of absence that comes to an end has settled it
* `Env.exists_halts_missing` — it comes to an end where it cannot stay at a value for ever
-/

open Relation (ReflTransGen)

namespace Conformance

/-! ## Rules -/

namespace Value

theorem deepEqual_missing_iff {x : Value} : Value.missing.deepEqual x = true ↔ x = .missing := by
  cases x <;> simp [deepEqual]

theorem identical_missing_iff {x : Value} : Value.missing.identical x = true ↔ x = .missing := by
  cases x <;> simp [identical]

end Value

/-- **The rules that accept absence**: null, anything, a class that it is an instance of, and absence itself,
by its structure or as the very object. -/
inductive Leaf.TakesAbsence : Leaf → Prop where
  | null : TakesAbsence .null
  | anything : TakesAbsence .anything
  | instanceOf {c : Class} : Value.missing.isInstance c = true → TakesAbsence (.instanceOf c)
  | literal : TakesAbsence (.literal .missing)
  | reference : TakesAbsence (.reference .missing)

theorem Leaf.takesAbsence_instanceOf {c : Class} :
    (Leaf.instanceOf c).TakesAbsence ↔ Value.missing.isInstance c = true :=
  ⟨fun | .instanceOf h => h, .instanceOf⟩

theorem Leaf.takesAbsence_literal {x : Value} : (Leaf.literal x).TakesAbsence ↔ x = .missing := by
  constructor
  · intro h
    cases h
    rfl
  · rintro rfl
    exact .literal

theorem Leaf.takesAbsence_reference {x : Value} : (Leaf.reference x).TakesAbsence ↔ x = .missing := by
  constructor
  · intro h
    cases h
    rfl
  · rintro rfl
    exact .reference

/-- **What a rule asks of absence** is asked by at most one test, and that has an answer. -/
theorem Leaf.tests_missing (tolerance : Binary64) (rule : Leaf) :
    (rule.tests tolerance .missing = [] ∧ rule.TakesAbsence) ∨
      ∃ t b, rule.tests tolerance .missing = [t] ∧ t.holds = .ok b ∧ (b = true ↔ rule.TakesAbsence) := by
  cases rule with
  | anything => exact .inl ⟨rfl, .anything⟩
  | null => exact .inr ⟨_, true, rfl, rfl, iff_of_true rfl .null⟩
  | instanceOf c =>
    exact .inr ⟨_, Value.missing.isInstance c, rfl, rfl, takesAbsence_instanceOf.symm⟩
  | literal x =>
    refine .inr ⟨_, Value.missing.deepEqual x, rfl, rfl, ?_⟩
    rw [Value.deepEqual_missing_iff, takesAbsence_literal]
  | reference x =>
    refine .inr ⟨_, Value.missing.identical x, rfl, rfl, ?_⟩
    rw [Value.identical_missing_iff, takesAbsence_reference]
  | equals x =>
    refine .inr ⟨_, false, rfl, ?_, iff_of_false Bool.false_ne_true nofun⟩
    cases x <;> rfl
  | _ => exact .inr ⟨_, false, rfl, rfl, iff_of_false Bool.false_ne_true nofun⟩

/-- A test with an answer, on its own, gives that answer. -/
theorem Test.checkAll_of_holds {t : Test} {b : Bool} (h : t.holds = .ok b) :
    Test.checkAll [t] = Pure.pure b := by
  obtain ⟨rule, expected, actual, holds⟩ := t
  cases h
  cases b <;> rfl

/-- The same with its mismatch noted when it fails. -/
theorem Test.explain_ends {t : Test} {b : Bool} (h : t.holds = .ok b) (path : String) :
    (t.explain path).Ends b := by
  obtain ⟨rule, expected, actual, holds⟩ := t
  cases h
  cases b <;> exact ⟨rfl, nofun⟩

/-- A rule decides whether it is one of those that accept absence. -/
theorem Leaf.check_missing_decides (tolerance : Binary64) (rule : Leaf) :
    (Test.checkAll (rule.tests tolerance .missing)).Decides rule.TakesAbsence True := by
  rcases rule.tests_missing tolerance with ⟨htests, htakes⟩ | ⟨t, b, htests, hholds, hb⟩
  · rw [htests]
    exact .of_pure (iff_of_true rfl htakes)
  · rw [htests, Test.checkAll_of_holds hholds]
    exact .of_pure hb

/-- Explaining a rule on absence ends too. -/
theorem Leaf.explain_missing_ends (tolerance : Binary64) (rule : Leaf) (path : String) :
    ∃ b, (Test.explainAll path (rule.tests tolerance .missing)).Ends b := by
  rcases rule.tests_missing tolerance with ⟨htests, -⟩ | ⟨t, b, htests, hholds, -⟩
  · rw [htests]
    exact ⟨true, Walk.ends_pure_self true⟩
  · rw [htests]
    refine ⟨b && true, (Test.explain_ends hholds path).bind ?_⟩
    exact (Walk.ends_pure_self true).bind (Walk.ends_pure_self (b && true))

/-! ## Validators -/

/-- **The validators that accept absence**: a rule that does, a choice with an alternative that does, a
reference to a root that does, and a delegate to a validator that does. -/
inductive Env.TakesAbsence (env : Env) : Validator → Prop where
  | leaf {rule : Leaf} : rule.TakesAbsence → TakesAbsence env (.leaf rule)
  | anyOf {vs : List Validator} {v : Validator} : v ∈ vs → TakesAbsence env v → TakesAbsence env (.anyOf vs)
  | root {session : Nat} {r : Validator} : env.root session = some r → TakesAbsence env r →
    TakesAbsence env (.selfRef (some session))
  | live {t : Target} {h : Handle} : env.slot t.id = .validator h → TakesAbsence env h.validator →
    TakesAbsence env (.delegate t)
  | copy {t : Target} {v : Validator} : TakesAbsence env v → TakesAbsence env (.delegateTo t v)

/-- The `schema` of an object is there. -/
def Slot.IsThere : Slot → Prop
  | .absent => False
  | .failing => False
  | _ => True

/-- **A validator responds** if it was made by the library and, where it is a live delegate, the object
still has a `schema`. -/
def Validator.Responds (slot : Nat → Slot) : Validator → Prop
  | .external _ => False
  | .delegate t => (slot t.id).IsThere
  | _ => True

/-- All that a check comes to while it stays at a value responds. -/
def Env.Responsive (env : Env) (v : Validator) : Prop :=
  ∀ w, ReflTransGen env.Stays v w → w.Responds env.slot

namespace Env

variable {env : Env} {v w : Validator}

/-! ### The form of what has parts -/

@[simp] theorem takesAbsence_leaf {rule : Leaf} : env.TakesAbsence (.leaf rule) ↔ rule.TakesAbsence :=
  ⟨fun | .leaf h => h, .leaf⟩

@[simp] theorem takesAbsence_anyOf {vs : List Validator} :
    env.TakesAbsence (.anyOf vs) ↔ ∃ v ∈ vs, env.TakesAbsence v :=
  ⟨fun | .anyOf hv h => ⟨_, hv, h⟩, fun ⟨_, hv, h⟩ => .anyOf hv h⟩

@[simp] theorem takesAbsence_delegateTo {t : Target} :
    env.TakesAbsence (.delegateTo t v) ↔ env.TakesAbsence v :=
  ⟨fun | .copy h => h, .copy⟩

theorem takesAbsence_delegate {t : Target} : env.TakesAbsence (.delegate t) ↔
    ∃ h, env.slot t.id = .validator h ∧ env.TakesAbsence h.validator :=
  ⟨fun | .live hslot h => ⟨_, hslot, h⟩, fun ⟨_, hslot, h⟩ => .live hslot h⟩

theorem takesAbsence_selfRef {session : Option Nat} : env.TakesAbsence (.selfRef session) ↔
    ∃ r, session.bind env.root = some r ∧ env.TakesAbsence r := by
  constructor
  · intro h
    cases h with
    | root hroot h => exact ⟨_, hroot, h⟩
  · rintro ⟨r, hroot, h⟩
    obtain ⟨session, rfl, hroot⟩ := Option.bind_eq_some_iff.mp hroot
    exact .root hroot h

@[simp] theorem not_takesAbsence_object (ps : List (Property Validator)) :
    ¬ env.TakesAbsence (.object ps) := nofun

@[simp] theorem not_takesAbsence_arrayOf (items : Validator) (least : Nat) (most : Option Nat) :
    ¬ env.TakesAbsence (.arrayOf items least most) := nofun

/-- A validator that responds is responsive if all that it goes on to is. -/
theorem Responsive.intro (hv : v.Responds env.slot) (h : ∀ w, env.Stays v w → env.Responsive w) :
    env.Responsive v := by
  intro w hw
  rcases hw.cases_head with rfl | ⟨u, hu, hreaches⟩
  · exact hv
  · exact h u hu w hreaches

theorem Responsive.step (h : env.Responsive v) (hstep : env.Stays v w) : env.Responsive w :=
  fun u hu => h u (.head hstep hu)

theorem Responsive.responds (h : env.Responsive v) : v.Responds env.slot := h v .refl

end Env

/-! ## One layer of a check -/

namespace Validator

variable {env : Env} {follow : Validator → Check} {path : String} {v : Validator}

/-- A check that refuses absence without looking further decides a form that the validator is not of. -/
theorem decides_refused {P : Prop} (h : ¬ P) : Walk.Decides (Pure.pure false) P True :=
  .of_pure (iff_of_false Bool.false_ne_true h)

/-- **One layer of a check decides whether the validator is of the form**, if what it hands on to does. -/
theorem check_missing_decides
    (hfollow : ∀ w, env.Responsive w → (follow w .missing path).Decides (env.TakesAbsence w) True)
    (hv : env.Responsive v) : (v.check env follow .missing path).Decides (env.TakesAbsence v) True := by
  induction v using treeInduction with
  | leaf rule =>
    rw [check, Env.takesAbsence_leaf]
    exact rule.check_missing_decides env.stepTolerance
  | delegate t =>
    rw [check]
    cases hslot : env.slot t.id with
    | validator h =>
      have hlive : env.Stays (.delegate t) h.validator := .opens (.live hslot)
      refine (hfollow h.validator (hv.step hlive)).congr ?_ id
      simp [Env.takesAbsence_delegate, hslot]
    | absent =>
      have hthere := hv.responds
      rw [Responds, hslot] at hthere
      exact hthere.elim
    | failing =>
      have hthere := hv.responds
      rw [Responds, hslot] at hthere
      exact hthere.elim
    | function verdict =>
      have hrefused : ¬ env.TakesAbsence (.delegate t) := by simp [Env.takesAbsence_delegate, hslot]
      exact decides_refused hrefused
    | other typeName =>
      have hrefused : ¬ env.TakesAbsence (.delegate t) := by simp [Env.takesAbsence_delegate, hslot]
      exact decides_refused hrefused
  | delegateTo t copy ih =>
    exact (ih (hv.step (.opens (.copy t copy)))).congr Env.takesAbsence_delegateTo.symm id
  | anyOf vs ih =>
    rw [check, checks_eq_map, Check.anyOf, Walk.any_map, Env.takesAbsence_anyOf]
    refine (Walk.Decides.any (List.forall₂_same.mpr fun v hmem => ?_)).congr .rfl fun _ _ _ => trivial
    exact ih v hmem (hv.step (.opens (.alternative hmem)))
  | object ps => exact decides_refused (Env.not_takesAbsence_object ps)
  | arrayOf items least most => exact decides_refused (Env.not_takesAbsence_arrayOf items least most)
  | selfRef session =>
    rw [check]
    cases hroot : session.bind env.root with
    | none =>
      refine .of_log rfl (iff_of_false Bool.false_ne_true ?_)
      simp [Env.takesAbsence_selfRef, hroot]
    | some r =>
      obtain ⟨n, rfl, hr⟩ := Option.bind_eq_some_iff.mp hroot
      refine (hfollow r (hv.step (.root hr))).congr ?_ id
      simp [Env.takesAbsence_selfRef, hr]
  | external e => exact hv.responds.elim

end Validator

namespace Explain

variable {x : Value} {path : String}

/-- The groups of a choice are put together if each alternative ends. -/
theorem groups_ends {as : List Named} (h : ∀ a ∈ as, ∃ b, (a.check x path).Ends b) :
    ∃ found, (groups x path as).Ends found := by
  induction as with
  | nil => exact ⟨some [], Walk.ends_pure_self _⟩
  | cons a as ih =>
    obtain ⟨⟨b, hb⟩, has⟩ := List.forall_mem_cons.mp h
    have haside : (a.check x path).aside.Ends (b, (a.check x path).found) := by
      refine ⟨?_, hb.2⟩
      rw [Walk.outcome_aside, hb.1]
      rfl
    cases b with
    | true => exact ⟨none, haside.bind (Walk.ends_pure_self none)⟩
    | false =>
      obtain ⟨found, hfound⟩ := ih has
      exact ⟨_, haside.bind (hfound.bind (Walk.ends_pure_self _))⟩

/-- **A choice ends if each alternative does.** -/
theorem anyOf_ends {as : List Named} (name : String) (h : ∀ a ∈ as, ∃ b, (a.check x path).Ends b) :
    ∃ b, (anyOf name as x path).Ends b := by
  obtain ⟨found, hfound⟩ := groups_ends h
  cases found with
  | none => exact ⟨true, hfound.bind (Walk.ends_pure_self true)⟩
  | some found => exact ⟨false, hfound.bind ⟨rfl, nofun⟩⟩

end Explain

namespace Validator

variable {env : Env} {absent : Property Validator → Walk Bool} {follow : Validator → Check}
  {path : String} {v : Validator}

/-- **One layer of an explaining check of absence ends**, if what it hands on to does. -/
theorem explain_missing_ends
    (hfollow : ∀ w, env.Responsive w → ∃ b, (follow w .missing path).Ends b)
    (hv : env.Responsive v) : ∃ b, (v.explain env absent follow .missing path).Ends b := by
  induction v using treeInduction with
  | leaf rule => exact rule.explain_missing_ends env.stepTolerance path
  | delegate t =>
    rw [explain]
    have hthere := hv.responds
    cases hslot : env.slot t.id with
    | validator h => exact hfollow h.validator (hv.step (.opens (.live hslot)))
    | function verdict => exact ⟨false, Test.explain_ends rfl path⟩
    | other typeName => exact ⟨false, Test.explain_ends rfl path⟩
    | _ =>
      rw [Responds, hslot] at hthere
      exact hthere.elim
  | delegateTo t copy ih => exact ih (hv.step (.opens (.copy t copy)))
  | anyOf vs ih =>
    rw [explain, explainEach_eq_map]
    refine Explain.anyOf_ends _ (List.forall_mem_map.mpr fun v hmem => ?_)
    exact ih v hmem (hv.step (.opens (.alternative hmem)))
  | object ps => exact ⟨false, Test.explain_ends (t := Leaf.mappingTest .missing) rfl path⟩
  | arrayOf items least most => exact ⟨false, Test.explain_ends (t := Leaf.sequenceTest .missing) rfl path⟩
  | selfRef session =>
    rw [explain]
    cases hroot : session.bind env.root with
    | none =>
      refine ⟨false, rfl, fun e he => ?_⟩
      rw [List.mem_singleton.mp he]
      rfl
    | some r =>
      obtain ⟨n, rfl, hr⟩ := Option.bind_eq_some_iff.mp hroot
      exact hfollow r (hv.step (.root hr))
  | external e => exact hv.responds.elim

end Validator

/-! ## The whole check -/

namespace Env

variable {env : Env} {depth : Nat} {v : Validator}

/-- **A check of absence that comes to an end decides whether the validator is of the form.** -/
theorem check_missing_decides (hhalts : env.Halts depth v .missing) (hv : env.Responsive v)
    (path : String) : (env.check depth v .missing path).Decides (env.TakesAbsence v) True := by
  classical
  -- nothing depends on what the check would go on with, so let it go on with the right answer
  let rest : Validator → Check := fun w _ _ => Pure.pure (decide (env.TakesAbsence w))
  rw [← checkOver_cut, hhalts.check cut rest path]
  clear hhalts
  induction depth generalizing v with
  | zero => exact .of_pure decide_eq_true_iff
  | succ depth ih => exact Validator.check_missing_decides (fun w hw => ih hw) hv

/-- **An explaining check of absence that comes to an end has an answer.** -/
theorem explain_missing_ends (hhalts : env.Halts depth v .missing) (hv : env.Responsive v)
    (path : String) : ∃ b, (env.explain depth v .missing path).Ends b := by
  let other : Validator → Check := fun _ _ _ => Pure.pure false
  rw [← explainOver_cut, hhalts.explain cut cut cut other path]
  clear hhalts
  induction depth generalizing v with
  | zero => exact ⟨false, Walk.ends_pure_self false⟩
  | succ depth ih => exact Validator.explain_missing_ends (fun w hw => ih hw) hv

/-- **Absence is settled** to a depth: both ways to walk end without a fault, and with the answer that the
form of the validator gives. -/
def SettlesAbsence (env : Env) (depth : Nat) (v : Validator) : Prop :=
  ∀ path, ∃ b, (env.check depth v .missing path).Ends b ∧ (env.explain depth v .missing path).Ends b ∧
    (b = true ↔ env.TakesAbsence v)

/-- **A check of absence that comes to an end settles it.** -/
theorem settlesAbsence (hhalts : env.Halts depth v .missing) (hv : env.Responsive v) :
    env.SettlesAbsence depth v := by
  intro path
  have hdecides := check_missing_decides hhalts hv path
  obtain ⟨b, hb⟩ := hdecides.ends trivial
  obtain ⟨b', hb'⟩ := explain_missing_ends hhalts hv path
  have hsame : b' = b :=
    Except.ok.inj ((env.explain_confirms_check depth v .missing path b' hb'.1).symm.trans hb.1)
  rw [hsame] at hb'
  exact ⟨b, hb, hb', hdecides.sound b hb⟩

/-- **A check of absence comes to an end** if it cannot stay at a value for ever. -/
theorem exists_halts_missing (h : Acc (fun u w => env.Stays w u) v) : ∃ n, env.Halts n v .missing := by
  induction h with
  | intro v _ ih =>
    refine exists_halts_of_steps (fun w hw => ih w hw) ?_ ?_
    · intro w _ y hy
      cases hy
    · intro w _ hmapping
      cases hmapping

end Env

end Conformance
