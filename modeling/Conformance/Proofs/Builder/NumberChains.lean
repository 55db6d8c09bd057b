import Conformance.Builder.Call
import Conformance.Proofs.Except
import Conformance.Proofs.Number.Order
import Conformance.Proofs.Validator.Modes
import Mathlib.Data.List.Induction

/-!
# Chains of calls on a number

Every call on a number narrows what the number before it accepts.  A bound that is set already is
replaced by the narrower of the two, and that is both bounds at once as long as the two are ordered.
Not-a-number is not ordered: as the first bound of its kind it stays and nothing is accepted any more,
and behind another bound of its kind it is passed over.

## Main Definitions

* `Bounds.Admits` — a number within bounds that is a multiple of every step
* `Bounds.Refined` — what one call makes of bounds
* `Builder.chain` — calls on the bare number, one after another
* `Builder.PassedOver` — a call that leaves the bounds as they were

## Main statements

* `Bounds.Refined.admits_iff` — one call narrows bounds by what it says itself, or is passed over
* `Builder.exists_gathered_of_chain` — the bounds that are left by a chain
* `Builder.chain_accepts_iff` — a chain accepts what each of its calls accepts on its own, those that are
  passed over left out; without not-a-number it does not matter in which order the calls stand
-/

namespace Conformance

namespace Bounds

/-! ## Numbers within bounds -/

/-- A number within bounds that is a multiple of every step. -/
@[mk_iff]
structure Admits (b : Bounds) (tolerance : Binary64) (m : Num) : Prop where
  minimum : ∀ n ∈ b.minimum, n.le m = true
  maximum : ∀ n ∈ b.maximum, m.le n = true
  exclusiveMinimum : ∀ n ∈ b.exclusiveMinimum, n.lt m = true
  exclusiveMaximum : ∀ n ∈ b.exclusiveMaximum, m.lt n = true
  steps : ∀ n ∈ b.steps, m.isMultiple tolerance n = .ok true

variable {b b' alone : Bounds} {tolerance : Binary64} {m n : Num} {name : String}

/-- The test of one bound holds where the bound does, if it is set. -/
theorem forall_boundTest_iff {v : Value} {rule sign : String} {holds : Num → Bool} {o : Option Num} :
    (∀ t ∈ boundTest v rule sign holds o, t.holds = .ok true) ↔ ∀ n ∈ o, holds n = true := by
  cases o with
  | none => simp [boundTest]
  | some n => simp [boundTest, Test.plain]

/-- All tests of bounds and steps hold for the numbers within them. -/
theorem forall_tests_iff {v : Value} :
    (∀ t ∈ b.tests tolerance v m, t.holds = .ok true) ↔ b.Admits tolerance m := by
  simp only [tests, List.forall_mem_append, forall_boundTest_iff, List.forall_mem_map]
  constructor
  · rintro ⟨⟨⟨⟨hminimum, hmaximum⟩, hlow⟩, hhigh⟩, hsteps⟩
    exact ⟨hminimum, hmaximum, hlow, hhigh, hsteps⟩
  · rintro ⟨hminimum, hmaximum, hlow, hhigh, hsteps⟩
    exact ⟨⟨⟨⟨hminimum, hmaximum⟩, hlow⟩, hhigh⟩, hsteps⟩

theorem admits_unbounded : unbounded.Admits tolerance m where
  minimum := nofun
  maximum := nofun
  exclusiveMinimum := nofun
  exclusiveMaximum := nofun
  steps := nofun

/-! ## The narrower of two bounds -/

/-- The narrower of two bounds holds where both do.  `narrower` tells that the second bound is narrower
than the first; not-a-number never is. -/
theorem narrow_iff (holds : Num → Prop) (narrower : Num → Num → Bool) {c : Num}
    (hnan : narrower c (.float .nan) = false)
    (htrue : narrower c n = true → holds n → holds c)
    (hfalse : narrower c n = false → n ≠ .float .nan → holds c → holds n) :
    holds (if narrower c n then n else c) ↔ holds c ∧ (n = .float .nan ∨ holds n) := by
  cases hc : narrower c n with
  | true =>
    rw [if_pos rfl]
    refine ⟨fun hn => ⟨htrue hc hn, .inr hn⟩, fun h => h.2.resolve_left ?_⟩
    rintro rfl
    exact Bool.noConfusion (hc.symm.trans hnan)
  | false =>
    rw [if_neg Bool.false_ne_true]
    refine ⟨fun h => ⟨h, or_iff_not_imp_left.mpr fun hn => hfalse hc hn h⟩, fun h => h.1⟩

theorem raise_le_iff {o : Option Num} : (raise o n).le m = true ↔
    (∀ c ∈ o, c.le m = true) ∧ ((n = .float .nan ∧ o.isSome = true) ∨ n.le m = true) := by
  cases o with
  | none => simp [raise]
  | some c =>
    have hc : c.le m = true → c ≠ .float .nan := by
      rintro h rfl
      exact Bool.noConfusion (h.symm.trans Num.nan_le)
    simpa [raise] using narrow_iff (fun n => n.le m = true) Num.lt (c := c)
      Num.lt_nan (fun h => Num.le_trans (Num.le_of_lt h))
      fun h hn hcm => Num.le_trans (Num.le_of_not_lt (hc hcm) hn h) hcm

theorem raise_lt_iff {o : Option Num} : (raise o n).lt m = true ↔
    (∀ c ∈ o, c.lt m = true) ∧ ((n = .float .nan ∧ o.isSome = true) ∨ n.lt m = true) := by
  cases o with
  | none => simp [raise]
  | some c =>
    have hc : c.lt m = true → c ≠ .float .nan := by
      rintro h rfl
      exact Bool.noConfusion (h.symm.trans Num.nan_lt)
    simpa [raise] using narrow_iff (fun n => n.lt m = true) Num.lt (c := c)
      Num.lt_nan (fun h => Num.lt_of_le_of_lt (Num.le_of_lt h))
      fun h hn hcm => Num.lt_of_le_of_lt (Num.le_of_not_lt (hc hcm) hn h) hcm

theorem le_lower_iff {o : Option Num} : m.le (lower o n) = true ↔
    (∀ c ∈ o, m.le c = true) ∧ ((n = .float .nan ∧ o.isSome = true) ∨ m.le n = true) := by
  cases o with
  | none => simp [lower]
  | some c =>
    have hc : m.le c = true → c ≠ .float .nan := by
      rintro h rfl
      exact Bool.noConfusion (h.symm.trans Num.le_nan)
    simpa [lower] using narrow_iff (fun n => m.le n = true) (fun c n => n.lt c)
      (c := c) Num.nan_lt (fun h hmn => Num.le_trans hmn (Num.le_of_lt h))
      fun h hn hmc => Num.le_trans hmc (Num.le_of_not_lt hn (hc hmc) h)

theorem lt_lower_iff {o : Option Num} : m.lt (lower o n) = true ↔
    (∀ c ∈ o, m.lt c = true) ∧ ((n = .float .nan ∧ o.isSome = true) ∨ m.lt n = true) := by
  cases o with
  | none => simp [lower]
  | some c =>
    have hc : m.lt c = true → c ≠ .float .nan := by
      rintro h rfl
      exact Bool.noConfusion (h.symm.trans Num.lt_nan)
    simpa [lower] using narrow_iff (fun n => m.lt n = true) (fun c n => n.lt c)
      (c := c) Num.nan_lt (fun h hmn => Num.lt_of_lt_of_le hmn (Num.le_of_lt h))
      fun h hn hmc => Num.lt_of_lt_of_le hmc (Num.le_of_not_lt hn (hc hmc) h)

/-! ## One call -/

/-- **What a call makes of bounds**: the bound of its kind becomes the narrower one, or there is a
further step. -/
inductive Refined (b : Bounds) : String → Num → Bounds → Prop where
  | min (n : Num) : Refined b "min" n { b with minimum := some (raise b.minimum n) }
  | max (n : Num) : Refined b "max" n { b with maximum := some (lower b.maximum n) }
  | above (n : Num) :
    Refined b "above" n { b with exclusiveMinimum := some (raise b.exclusiveMinimum n) }
  | below (n : Num) :
    Refined b "below" n { b with exclusiveMaximum := some (lower b.exclusiveMaximum n) }
  | step {n : Num} : n.isPositive = true → Refined b "step" n { b with steps := b.steps ++ [n] }

/-- The bound that a call is about, if it is set; there is none for steps. -/
def bound? (b : Bounds) : String → Option Num
  | "min" => b.minimum
  | "max" => b.maximum
  | "above" => b.exclusiveMinimum
  | "below" => b.exclusiveMaximum
  | _ => none

/-- A call sets the bound that it is about, and leaves all others as they are. -/
theorem Refined.bound?_isSome (h : b.Refined name n b') (other : String) :
    (b'.bound? other).isSome = true ↔
      (b.bound? other).isSome = true ∨ (other = name ∧ name ≠ "step") := by
  unfold bound?
  cases h <;> split <;> simp_all

/-- The bounds of one call on the bare number. -/
def ofCall : String → Num → Bounds
  | "min", n => { unbounded with minimum := some n }
  | "max", n => { unbounded with maximum := some n }
  | "above", n => { unbounded with exclusiveMinimum := some n }
  | "below", n => { unbounded with exclusiveMaximum := some n }
  | _, n => { unbounded with steps := [n] }

theorem Refined.eq_ofCall (h : unbounded.Refined name n b) : b = ofCall name n := by
  cases h <;> rfl

/-- A call on bounds is a call on the bare number, and the other way round. -/
theorem Refined.exists_of_refined (h : b.Refined name n b') (c : Bounds) :
    ∃ c', c.Refined name n c' := by
  cases h with
  | min => exact ⟨_, .min n⟩
  | max => exact ⟨_, .max n⟩
  | above => exact ⟨_, .above n⟩
  | below => exact ⟨_, .below n⟩
  | step hpositive => exact ⟨_, .step hpositive⟩

/-- Not-a-number is no step. -/
theorem Refined.ne_step_of_nan (h : b.Refined name (.float .nan) b') : name ≠ "step" := by
  rintro rfl
  generalize hname : "step" = name at h
  generalize hn : Num.float .nan = n at h
  cases h with
  | step hpositive =>
    cases hn
    exact Bool.noConfusion (hpositive.symm.trans Num.lt_nan)
  | _ => simp at hname

/-- No number is on any side of not-a-number. -/
theorem Refined.not_admits_ofCall_nan (h : b.Refined name (.float .nan) b') :
    ¬ (ofCall name (.float .nan)).Admits tolerance m := by
  have hstep := h.ne_step_of_nan
  intro hadmits
  cases h with
  | min => exact Bool.noConfusion ((hadmits.minimum _ rfl).symm.trans Num.nan_le)
  | max => exact Bool.noConfusion ((hadmits.maximum _ rfl).symm.trans Num.le_nan)
  | above => exact Bool.noConfusion ((hadmits.exclusiveMinimum _ rfl).symm.trans Num.nan_lt)
  | below => exact Bool.noConfusion ((hadmits.exclusiveMaximum _ rfl).symm.trans Num.lt_nan)
  | step => exact hstep rfl

/-- **A call narrows bounds** by what it says on its own.  Not-a-number is passed over where there is a
bound of its kind. -/
theorem Refined.admits_iff (h : b.Refined name n b') :
    b'.Admits tolerance m ↔ b.Admits tolerance m ∧
      ((n = .float .nan ∧ (b.bound? name).isSome = true) ∨ (ofCall name n).Admits tolerance m) := by
  cases h with
  | min =>
    simp only [Bounds.admits_iff, bound?, ofCall, unbounded, raise_le_iff, Option.mem_def,
      Option.some.injEq, forall_eq', reduceCtorEq, IsEmpty.forall_iff, implies_true,
      List.not_mem_nil, and_true]
    tauto
  | max =>
    simp only [Bounds.admits_iff, bound?, ofCall, unbounded, le_lower_iff, Option.mem_def,
      Option.some.injEq, forall_eq', reduceCtorEq, IsEmpty.forall_iff, implies_true,
      List.not_mem_nil, and_true, true_and]
    tauto
  | above =>
    simp only [Bounds.admits_iff, bound?, ofCall, unbounded, raise_lt_iff, Option.mem_def,
      Option.some.injEq, forall_eq', reduceCtorEq, IsEmpty.forall_iff, implies_true,
      List.not_mem_nil, and_true, true_and]
    tauto
  | below =>
    simp only [Bounds.admits_iff, bound?, ofCall, unbounded, lt_lower_iff, Option.mem_def,
      Option.some.injEq, forall_eq', reduceCtorEq, IsEmpty.forall_iff, implies_true,
      List.not_mem_nil, and_true, true_and]
    tauto
  | step hpositive =>
    simp only [Bounds.admits_iff, bound?, ofCall, unbounded, Option.mem_def, Option.isSome_none,
      List.mem_append, List.mem_cons, List.not_mem_nil, or_false, or_imp, forall_and, forall_eq,
      Bool.false_eq_true, and_false, false_or, String.reduceEq, imp_self, reduceCtorEq,
      IsEmpty.forall_iff, implies_true, true_and]
    tauto

end Bounds

namespace Builder

open Bounds

variable {slot : Nat → Slot} {settings : Settings} {b : Bounds} {name : String} {arg : Value}
  {v : Validator}

/-- The argument of a call is a number. -/
theorem argument_eq_ok_iff {n : Num} : Bounds.argument name arg = .ok n ↔ arg = .number n := by
  unfold Bounds.argument Value.number?
  cases arg <;> simp

/-- **The calls on a number**: each has a number as its argument and refines the bounds. -/
theorem call_number_eq_ok_iff :
    call slot settings (.leaf (.number b)) name [.value arg] = .ok v ↔
      ∃ n b', arg = .number n ∧ b.Refined name n b' ∧ v = .leaf (.number b') := by
  constructor
  · intro h
    simp only [call] at h
    split at h
    · next hname =>
      have hnames : name ∈ ["min", "max", "above", "below", "step"] := by simpa using hname
      simp only [List.mem_cons, List.not_mem_nil, or_false] at hnames
      simp only [unary, callNumber, liftBuilder, Except.bind_eq_ok_iff, Except.mapError_eq_ok_iff,
        Except.pure_eq_ok_iff] at h
      obtain ⟨b', hb', rfl⟩ := h
      rcases hnames with rfl | rfl | rfl | rfl | rfl
      · obtain ⟨n, hn, hb'⟩ := Except.bind_eq_ok_iff.mp hb'
        exact ⟨n, b', argument_eq_ok_iff.mp hn, Except.ok.inj hb' ▸ .min n, rfl⟩
      · obtain ⟨n, hn, hb'⟩ := Except.bind_eq_ok_iff.mp hb'
        exact ⟨n, b', argument_eq_ok_iff.mp hn, Except.ok.inj hb' ▸ .max n, rfl⟩
      · obtain ⟨n, hn, hb'⟩ := Except.bind_eq_ok_iff.mp hb'
        exact ⟨n, b', argument_eq_ok_iff.mp hn, Except.ok.inj hb' ▸ .above n, rfl⟩
      · obtain ⟨n, hn, hb'⟩ := Except.bind_eq_ok_iff.mp hb'
        exact ⟨n, b', argument_eq_ok_iff.mp hn, Except.ok.inj hb' ▸ .below n, rfl⟩
      · obtain ⟨n, hn, hb'⟩ := Except.bind_eq_ok_iff.mp hb'
        split at hb'
        · next hpositive =>
          exact ⟨n, b', argument_eq_ok_iff.mp hn, Except.ok.inj hb' ▸ .step hpositive, rfl⟩
        · cases hb'
    · cases h
  · rintro ⟨n, b', rfl, hrefined, rfl⟩
    cases hrefined with
    | min => rfl
    | max => rfl
    | above => rfl
    | below => rfl
    | step hpositive =>
      have hstep : b.multipleOf (.number n) = .ok { b with steps := b.steps ++ [n] } := by
        show (if n.isPositive = true then _ else _) = _
        rw [if_pos hpositive]
        rfl
      show callNumber b "step" (.number n) = _
      show (liftBuilder (b.multipleOf (.number n)) >>= _) = _
      rw [hstep]
      rfl

/-! ## Chains -/

/-- **Calls on the bare number**, one after another. -/
def chain (slot : Nat → Slot) (settings : Settings) (calls : List (String × Value)) :
    Except Refusal Validator :=
  calls.foldlM (fun v c => call slot settings v c.1 [.value c.2]) (.leaf (.number .unbounded))

/-- The argument is not-a-number, and a call of the same name stands before. -/
def PassedOver (before : List (String × Value)) (c : String × Value) : Prop :=
  c.2 = .float .nan ∧ ∃ c' ∈ before, c'.1 = c.1

variable {calls : List (String × Value)} {c : String × Value}

theorem chain_concat (calls : List (String × Value)) (c : String × Value) :
    chain slot settings (calls ++ [c]) =
      chain slot settings calls >>= fun v => call slot settings v c.1 [.value c.2] := by
  rw [chain, List.foldlM_append]
  refine bind_congr fun v => ?_
  rw [List.foldlM_cons]
  exact bind_pure _

/-- One call on the bare number. -/
theorem chain_singleton_eq_ok_iff :
    chain slot settings [c] = .ok v ↔
      ∃ n b, c.2 = .number n ∧ unbounded.Refined c.1 n b ∧ v = .leaf (.number b) := by
  rw [← List.nil_append [c], chain_concat, chain, List.foldlM_nil, pure_bind, call_number_eq_ok_iff]

/-- **What the calls of a chain leave**: a bound is set where a call was about it, and the numbers
within the bounds are those within the bounds of each call that was not passed over. -/
structure Gathered (calls : List (String × Value)) (b : Bounds) : Prop where
  isSet : ∀ name, (b.bound? name).isSome = true ↔ name ≠ "step" ∧ ∃ c ∈ calls, c.1 = name
  admits : ∀ tolerance m, b.Admits tolerance m ↔
    ∀ before c after, calls = before ++ c :: after → ¬ PassedOver before c →
      ∀ n, c.2 = .number n → (ofCall c.1 n).Admits tolerance m

/-- What holds wherever a list with one more member is cut holds wherever the list is cut, and of the
last member. -/
theorem forall_cut_concat_iff {α : Type} {P : List α → α → Prop} {as : List α} {a : α} :
    (∀ before b after, as ++ [a] = before ++ b :: after → P before b) ↔
      (∀ before b after, as = before ++ b :: after → P before b) ∧ P as a := by
  constructor
  · intro h
    refine ⟨fun before b after has => h before b (after ++ [a]) ?_, h as a [] rfl⟩
    rw [has, List.append_assoc, List.cons_append]
  · rintro ⟨h, ha⟩ before b after has
    rcases List.eq_nil_or_concat after with rfl | ⟨after, last, rfl⟩
    · obtain ⟨rfl, hlast⟩ := List.append_inj' has rfl
      obtain ⟨rfl, -⟩ := List.cons.inj hlast
      exact ha
    · have has' : as ++ [a] = (before ++ b :: after) ++ [last] := by simpa using has
      exact h before b after (List.append_inj' has' rfl).1

theorem gathered_nil : Gathered [] .unbounded where
  isSet name := by
    unfold bound?
    split <;> simp [unbounded]
  admits tolerance m := by
    refine iff_of_true admits_unbounded fun before c after hcut => ?_
    simp at hcut

/-- **One more call** on what a chain leaves. -/
theorem Gathered.concat {b' : Bounds} {n : Num} (h : Gathered calls b)
    (hrefined : b.Refined name n b') : Gathered (calls ++ [(name, .number n)]) b' where
  isSet other := by
    rw [hrefined.bound?_isSome, h.isSet]
    simp only [List.mem_append, List.mem_singleton, or_and_right, exists_or, exists_eq_left]
    constructor
    · rintro (⟨hstep, hmem⟩ | ⟨rfl, hstep⟩)
      · exact ⟨hstep, .inl hmem⟩
      · exact ⟨hstep, .inr rfl⟩
    · rintro ⟨hstep, hmem | rfl⟩
      · exact .inl ⟨hstep, hmem⟩
      · exact .inr ⟨rfl, hstep⟩
  admits tolerance m := by
    have hpassed : (n = .float .nan ∧ (b.bound? name).isSome = true) ↔
        PassedOver calls (name, .number n) := by
      rw [h.isSet]
      constructor
      · rintro ⟨rfl, -, hmem⟩
        exact ⟨rfl, hmem⟩
      · rintro ⟨hnan, hmem⟩
        cases hnan
        exact ⟨rfl, hrefined.ne_step_of_nan, hmem⟩
    rw [hrefined.admits_iff, h.admits, hpassed, forall_cut_concat_iff, or_iff_not_imp_left]
    simp

/-- **A chain of calls that are accepted one by one** leaves the bounds that it gathers. -/
theorem exists_gathered_of_chain (h : ∀ c ∈ calls, ∃ w, chain slot settings [c] = .ok w) :
    ∃ b, chain slot settings calls = .ok (.leaf (.number b)) ∧ Gathered calls b := by
  induction calls using List.reverseRecOn with
  | nil => exact ⟨_, rfl, gathered_nil⟩
  | append_singleton calls c ih =>
    obtain ⟨name, arg⟩ := c
    obtain ⟨b, hb, hgathered⟩ := ih fun c hc => h c (List.mem_append_left _ hc)
    obtain ⟨w, hw⟩ := h (name, arg) (List.mem_append_right _ List.mem_cons_self)
    obtain ⟨n, alone, rfl, halone, -⟩ := chain_singleton_eq_ok_iff.mp hw
    obtain ⟨b', hrefined⟩ := halone.exists_of_refined b
    refine ⟨b', ?_, hgathered.concat hrefined⟩
    rw [chain_concat, hb]
    show call slot settings (.leaf (.number b)) name [.value (.number n)] = _
    exact call_number_eq_ok_iff.mpr ⟨n, b', rfl, hrefined, rfl⟩

/-! ## Verdicts -/

variable {env : Env} {m : Num}

/-- A number is accepted. -/
def Accepts (env : Env) (v : Validator) (m : Num) : Prop :=
  (env.validate v (.number m)).outcome = .ok true

/-- A number is accepted by one call on the bare number. -/
def AcceptsAlone (slot : Nat → Slot) (settings : Settings) (env : Env) (c : String × Value) (m : Num) :
    Prop :=
  ∃ w, chain slot settings [c] = .ok w ∧ Accepts env w m

/-- A number rule accepts the numbers within its bounds. -/
theorem accepts_number_iff : Accepts env (.leaf (.number b)) m ↔ b.Admits env.stepTolerance m :=
  Env.validate_eq_ok_true_iff.trans (Walk.all_eq_ok_true_iff.trans forall_tests_iff)

/-- What one call on the bare number accepts. -/
theorem acceptsAlone_iff (h : ∃ w, chain slot settings [c] = .ok w) :
    AcceptsAlone slot settings env c m ↔
      ∀ n, c.2 = .number n → (ofCall c.1 n).Admits env.stepTolerance m := by
  obtain ⟨w, hw⟩ := h
  obtain ⟨n, b, hn, hrefined, rfl⟩ := chain_singleton_eq_ok_iff.mp hw
  constructor
  · rintro ⟨w', hw', haccepts⟩ n' hn'
    obtain rfl : n = n' := Value.number.inj (hn.symm.trans hn')
    obtain rfl : Validator.leaf (.number b) = w' := Except.ok.inj (hw.symm.trans hw')
    exact hrefined.eq_ofCall ▸ accepts_number_iff.mp haccepts
  · exact fun hadmits => ⟨_, hw, accepts_number_iff.mpr (hrefined.eq_ofCall ▸ hadmits n hn)⟩

/-- Not-a-number on its own accepts nothing. -/
theorem not_acceptsAlone_nan (hnan : c.2 = .float .nan) :
    ¬ AcceptsAlone slot settings env c m := by
  intro halone
  have hc : ∃ w, chain slot settings [c] = .ok w := halone.imp fun _ h => h.1
  obtain ⟨w, hw⟩ := hc
  obtain ⟨n, b, hn, hrefined, -⟩ := chain_singleton_eq_ok_iff.mp hw
  obtain rfl : n = .float .nan := Value.number.inj (hn.symm.trans hnan)
  exact hrefined.not_admits_ofCall_nan ((acceptsAlone_iff ⟨w, hw⟩).mp halone _ hn)

/-- What holds wherever a list is cut holds of its members. -/
theorem forall_cut_iff {α : Type} {P : α → Prop} {as : List α} :
    (∀ before a after, as = before ++ a :: after → P a) ↔ ∀ a ∈ as, P a := by
  constructor
  · intro h a ha
    obtain ⟨before, after, rfl⟩ := List.append_of_mem ha
    exact h before a after rfl
  · rintro h before a after rfl
    exact h a (by simp)

/-- **The rule that a chain leaves** accepts what the calls accept that were not passed over. -/
theorem Gathered.accepts_iff (hgathered : Gathered calls b)
    (h : ∀ c ∈ calls, ∃ w, chain slot settings [c] = .ok w) :
    Accepts env (.leaf (.number b)) m ↔ ∀ before c after, calls = before ++ c :: after →
      ¬ PassedOver before c → AcceptsAlone slot settings env c m := by
  rw [accepts_number_iff, hgathered.admits]
  refine forall₃_congr fun before c after => forall₂_congr fun hcut _ => ?_
  exact (acceptsAlone_iff (h c (by simp [hcut]))).symm

/-- Where no call is passed over, the rule accepts what all calls accept. -/
theorem Gathered.accepts_iff_forall_mem (hgathered : Gathered calls b)
    (h : ∀ c ∈ calls, ∃ w, chain slot settings [c] = .ok w)
    (hnone : ∀ before c after, calls = before ++ c :: after → ¬ PassedOver before c) :
    Accepts env (.leaf (.number b)) m ↔ ∀ c ∈ calls, AcceptsAlone slot settings env c m := by
  rw [hgathered.accepts_iff h, ← forall_cut_iff]
  exact forall₃_congr fun before c after => forall_congr' fun hcut =>
    imp_iff_right (hnone before c after hcut)

/-- **Chains of calls are conjunctive up to not-a-number.**  Calls that are accepted one by one are
accepted one after another.  What the chain accepts is what each call accepts on its own, of those that
are not passed over.  So the chain is the conjunction of its calls at a number exactly if it refuses
the number or no call was passed over.  Where no argument is not-a-number, no call is, and the calls
can stand in any order. -/
theorem chain_accepts_iff (slot : Nat → Slot) (settings : Settings) {calls : List (String × Value)}
    (h : ∀ c ∈ calls, ∃ w, chain slot settings [c] = .ok w) :
    ∃ v, chain slot settings calls = .ok v ∧
      (∀ env m, Accepts env v m ↔ ∀ before c after, calls = before ++ c :: after →
        ¬ PassedOver before c → AcceptsAlone slot settings env c m) ∧
      (∀ env m, (Accepts env v m ↔ ∀ c ∈ calls, AcceptsAlone slot settings env c m) ↔
        (Accepts env v m → ∀ before c after, calls = before ++ c :: after → ¬ PassedOver before c)) ∧
      ((∀ c ∈ calls, c.2 ≠ .float .nan) →
        (∀ env m, Accepts env v m ↔ ∀ c ∈ calls, AcceptsAlone slot settings env c m) ∧
        ∀ calls' : List (String × Value), calls'.Perm calls →
          ∃ v', chain slot settings calls' = .ok v' ∧
            ∀ env m, Accepts env v' m ↔ Accepts env v m) := by
  obtain ⟨b, hb, hgathered⟩ := exists_gathered_of_chain h
  refine ⟨_, hb, fun env m => hgathered.accepts_iff h, fun env m => ?_, fun hnan => ?_⟩
  · constructor
    · rintro hlaw haccepts before c after rfl ⟨hc, -⟩
      exact not_acceptsAlone_nan hc (hlaw.mp haccepts c (by simp))
    · intro hpassed
      constructor
      · exact fun haccepts =>
          (hgathered.accepts_iff_forall_mem h (hpassed haccepts)).mp haccepts
      · exact fun hall => (hgathered.accepts_iff h).mpr fun before c after hcut _ =>
          hall c (by simp [hcut])
  · -- without not-a-number no call is passed over, in whatever order the calls stand
    have hfree : ∀ calls' : List (String × Value), calls'.Perm calls → ∀ before c after,
        calls' = before ++ c :: after → ¬ PassedOver before c := by
      rintro calls' hperm before c after rfl ⟨hc, -⟩
      exact hnan c (hperm.subset (by simp)) hc
    have hall : ∀ env m, Accepts env _ m ↔ ∀ c ∈ calls, AcceptsAlone slot settings env c m :=
      fun env m => hgathered.accepts_iff_forall_mem h (hfree calls (.refl calls))
    refine ⟨hall, fun calls' hperm => ?_⟩
    have h' : ∀ c ∈ calls', ∃ w, chain slot settings [c] = .ok w :=
      fun c hc => h c (hperm.subset hc)
    obtain ⟨b', hb', hgathered'⟩ := exists_gathered_of_chain h'
    refine ⟨_, hb', fun env m => ?_⟩
    rw [hgathered'.accepts_iff_forall_mem h' (hfree calls' hperm), hall]
    exact forall_congr' fun c => imp_congr_left hperm.mem_iff

/-- Not-a-number behind a bound is passed over, and the chain accepts what the second call refuses.  A
float and an integer beyond the precision of floats are bounds of one order. -/
theorem chain_accepts_iff_of_bounds :
    let slot : Nat → Slot := fun _ => .absent
    let settings := Settings.standard
    let env : Env := ⟨fun _ => none, slot, settings.stepTolerance⟩
    let unordered : List (String × Value) := [("min", .int 5), ("min", .float .nan)]
    let large : Num := .float (.finite false 1 53)
    let ordered : List (String × Value) :=
      [("min", .number large), ("min", .int (2 ^ 53 + 1)), ("step", .int 3)]
    (∀ c ∈ unordered, ∃ w, chain slot settings [c] = .ok w) ∧
      (∃ v, chain slot settings unordered = .ok v ∧ Accepts env v (.int 6) ∧
        ¬ ∀ c ∈ unordered, AcceptsAlone slot settings env c (.int 6)) ∧
      (∀ c ∈ ordered, ∃ w, chain slot settings [c] = .ok w) ∧
      ∃ v v', chain slot settings ordered = .ok v ∧ chain slot settings ordered.reverse = .ok v' ∧
        ¬ Accepts env v' large ∧ (Accepts env v' (.int (2 ^ 53 + 1)) ↔
          ∀ c ∈ ordered, AcceptsAlone slot settings env c (.int (2 ^ 53 + 1))) := by
  intro slot settings env unordered large ordered
  have hunordered : ∀ c ∈ unordered, ∃ w, chain slot settings [c] = .ok w := by
    simp only [unordered, List.forall_mem_cons, List.not_mem_nil, false_imp_iff, implies_true]
    exact ⟨⟨_, rfl⟩, ⟨_, rfl⟩, trivial⟩
  have hordered : ∀ c ∈ ordered, ∃ w, chain slot settings [c] = .ok w := by
    simp only [ordered, List.forall_mem_cons, List.not_mem_nil, false_imp_iff, implies_true]
    exact ⟨⟨_, rfl⟩, ⟨_, rfl⟩, ⟨_, rfl⟩, trivial⟩
  refine ⟨hunordered, ?_, hordered, ?_⟩
  · obtain ⟨v, hv, -, hlaw, -⟩ := chain_accepts_iff slot settings hunordered
    have haccepts : Accepts env v (.int 6) := by
      obtain rfl : _ = v := Except.ok.inj hv
      unfold Accepts
      decide +kernel
    refine ⟨v, hv, haccepts, fun hall => ?_⟩
    exact (hlaw env (.int 6)).mp (iff_of_true haccepts hall) haccepts [("min", .int 5)]
      ("min", .float .nan) [] rfl ⟨rfl, _, List.mem_cons_self, rfl⟩
  · obtain ⟨v, hv, -, -, hfree⟩ := chain_accepts_iff slot settings hordered
    obtain ⟨hall, hperm⟩ := hfree (by simp [ordered, large, Value.float, Value.int])
    obtain ⟨v', hv', hsame⟩ := hperm _ ordered.reverse_perm
    refine ⟨v, v', hv, hv', ?_, (hsame env _).trans (hall env _)⟩
    obtain rfl : _ = v' := Except.ok.inj hv'
    unfold Accepts
    decide +kernel

end Builder

end Conformance
