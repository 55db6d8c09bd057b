import Conformance.Proofs.Builder.NumberChains
import Conformance.Proofs.Number.Divisibility

/-!
# Steps of a number

A number with an integer step judges an integer by its remainder, and a float that equals it by how close
its remainder is to nothing or to the whole step.  The two agree as long as the step is below a billion:
from there on a remainder that misses the step by a unit is within the relative tolerance of closeness.

## Main statements

* `Builder.accepts_step_iff`, `Builder.accepts_step_float_iff` — a number with one step accepts its
  multiples, and which floats these are
* `Builder.not_le_slack`, `Builder.pred_le_slack` — from which step on a remainder is within the slack
* `Builder.step_accepts_iff` — an integer step on integers and on the floats that equal them
-/

namespace Conformance

/-- An integer denotes itself. -/
theorem Num.value?_int (n : Int) : (Num.int n).value? = some (((n : ℚ) : WithTop ℚ) : ExtendedRat) := by
  have hsigned : Binary64.signed (n < 0) n.natAbs = n := by
    unfold Binary64.signed
    split
    · next hneg =>
      have := of_decide_eq_true hneg
      omega
    · next hneg =>
      have := of_decide_eq_false (Bool.not_eq_true _ ▸ hneg)
      omega
  have h := Binary64.denotes_finite (n < 0) n.natAbs 0
  rwa [hsigned, zpow_zero, mul_one] at h

/-- A float equals an integer if it is that integer. -/
theorem Num.eqv_float_int_iff {x : Binary64} {n : Int} :
    (Num.float x).eqv (.int n) = true ↔ x.Denotes n := by
  rw [Num.eqv_comm, Num.eqv_iff_of_value (Num.value?_int n)]
  rfl

namespace Builder

open Bounds

variable {slot : Nat → Slot} {settings : Settings} {env : Env} {s : Int} {m : Num}

/-- **A number with one step** accepts the multiples of the step. -/
theorem accepts_step_iff :
    Accepts env (.leaf (.number (ofCall "step" (.int s)))) m ↔
      m.isMultiple env.stepTolerance (.int s) = .ok true := by
  rw [accepts_number_iff, Bounds.admits_iff]
  simp [ofCall, unbounded]

/-- A number with one positive step is made by one call. -/
theorem chain_step (slot : Nat → Slot) (settings : Settings) (hs : 0 < s) :
    chain slot settings [("step", .int s)] = .ok (.leaf (.number (ofCall "step" (.int s)))) := by
  have hpositive : (Num.int s).isPositive = true := by
    refine Num.lt_iff.mpr ⟨_, _, Num.value?_int 0, Num.value?_int s, ?_⟩
    exact WithBot.coe_lt_coe.mpr (WithTop.coe_lt_coe.mpr (by exact_mod_cast hs))
  exact chain_singleton_eq_ok_iff.mpr ⟨.int s, _, rfl, .step hpositive, rfl⟩

/-- **A float that is an integer** is accepted if the step divides it, or if what the remainder misses of
the whole step is within a billionth of the step, rounded. -/
theorem accepts_step_float_iff {n : Int} {x : Binary64}
    (htolerance : env.stepTolerance = Settings.standard.stepTolerance) (hs : 0 < s) (hs' : s ≤ 2 ^ 53)
    (hx : (Num.float x).eqv (.int n) = true) :
    Accepts env (.leaf (.number (ofCall "step" (.int s)))) (.float x) ↔
      s ∣ n ∨ ((s - |n| % s : Int) : ℚ) ≤ Binary64.slack s := by
  have hdefault : env.stepTolerance.Denotes (Binary64.nearest (10 ^ (-9 : ℤ))) :=
    htolerance ▸ Binary64.denotes_relativeTolerance
  have hnonneg : (0 : ℚ) ≤ Binary64.nearest (10 ^ (-9 : ℤ)) :=
    Binary64.nearest_nonneg (zpow_nonneg (by norm_num) _)
  have hsmall : Binary64.nearest (10 ^ (-9 : ℤ)) < 1 := by
    rw [Binary64.nearest_billionth]
    norm_num
  rw [accepts_step_iff]
  exact Num.isMultiple_float_iff hdefault hnonneg hsmall (Num.eqv_float_int_iff.mp hx) hs hs'

/-- Below a billion no remainder is within the slack of the step. -/
theorem not_le_slack (hs : 0 < s) (hbelow : s < 10 ^ 9) (n : Int) :
    ¬ ((s - |n| % s : Int) : ℚ) ≤ Binary64.slack s := by
  intro hle
  have hmissing : 1 ≤ s - |n| % s := by
    have := Int.emod_lt_of_pos |n| hs
    omega
  have hone : (1 : ℚ) ≤ ((s - |n| % s : Int) : ℚ) := by exact_mod_cast hmissing
  exact ((hone.trans hle).trans_lt (Binary64.slack_lt_one hs.le hbelow)).false

/-- From a billion on, the remainder of one less than the step is within the slack, though the step does
not divide it. -/
theorem pred_le_slack (hlarge : 10 ^ 9 ≤ s) :
    ¬ s ∣ s - 1 ∧ ((s - |s - 1| % s : Int) : ℚ) ≤ Binary64.slack s := by
  constructor
  · intro hdvd
    have hone : s ∣ 1 := by simpa using (dvd_sub_right (dvd_refl s)).mp hdvd
    have hle := Int.le_of_dvd one_pos hone
    omega
  · have hmod : |s - 1| % s = s - 1 := by
      rw [abs_of_nonneg (by omega), Int.emod_eq_of_lt (by omega) (by omega)]
    rw [hmod, sub_sub_cancel, Int.cast_one]
    exact Binary64.one_le_slack hlarge

/-- **Integers and floats agree about an integer step below a billion.**  An integer is accepted if it is a
multiple of the step.  A float that equals it is accepted if it is one, or if what the remainder misses of
the whole step is within a billionth of the step, rounded.  So the two agree on all integers that are
floats exactly if the step is below a billion. -/
theorem step_accepts_iff (slot : Nat → Slot) (settings : Settings)
    (htolerance : env.stepTolerance = Settings.standard.stepTolerance) (hs : 0 < s)
    (hs' : s ≤ 2 ^ 53) :
    ∃ v, chain slot settings [("step", .int s)] = .ok v ∧
      (∀ (n : Int) (x : Binary64), (Num.float x).eqv (.int n) = true →
        (Accepts env v (.int n) ↔ s ∣ n) ∧
        (Accepts env v (.float x) ↔ s ∣ n ∨ ((s - |n| % s : Int) : ℚ) ≤ Binary64.slack s)) ∧
      ((∀ (n : Int) (x : Binary64), |n| ≤ 2 ^ 53 → (Num.float x).eqv (.int n) = true →
        (Accepts env v (.int n) ↔ Accepts env v (.float x))) ↔ s < 10 ^ 9) := by
  have hpoint : ∀ (n : Int) (x : Binary64), (Num.float x).eqv (.int n) = true →
      (Accepts env (.leaf (.number (ofCall "step" (.int s)))) (.int n) ↔ s ∣ n) ∧
      (Accepts env (.leaf (.number (ofCall "step" (.int s)))) (.float x) ↔
        s ∣ n ∨ ((s - |n| % s : Int) : ℚ) ≤ Binary64.slack s) := by
    intro n x hx
    refine ⟨?_, accepts_step_float_iff htolerance hs hs' hx⟩
    rw [accepts_step_iff, Num.isMultiple_int_iff]
  refine ⟨_, chain_step slot settings hs, hpoint, ?_⟩
  constructor
  · -- one less than the step is the integer on which they differ
    intro hagree
    by_contra hlarge
    obtain ⟨hdvd, hle⟩ := pred_le_slack (not_lt.mp hlarge)
    have hsize : |s - 1| ≤ 2 ^ 53 := by
      rw [abs_of_nonneg (by omega)]
      omega
    have hfloat := Num.eqv_float_int_iff.mpr (Num.denotes_ofInt hsize)
    obtain ⟨hint, hnear⟩ := hpoint (s - 1) _ hfloat
    exact hdvd (hint.mp ((hagree _ _ hsize hfloat).mpr (hnear.mpr (.inr hle))))
  · intro hbelow n x _ hx
    obtain ⟨hint, hnear⟩ := hpoint n x hx
    rw [hint, hnear, or_iff_left (not_le_slack hs hbelow n)]

/-- A step of ten billion: the float that misses it by one is accepted, and the integer is refused. -/
theorem step_accepts_iff_of_large :
    let slot : Nat → Slot := fun _ => .absent
    let env : Env := ⟨fun _ => none, slot, Settings.standard.stepTolerance⟩
    let n : Int := 10 ^ 10 - 1
    let x : Binary64 := .finite false (10 ^ 10 - 1) 0
    env.stepTolerance = Settings.standard.stepTolerance ∧ (0 : Int) < 10 ^ 10 ∧
      (10 : Int) ^ 10 ≤ 2 ^ 53 ∧ (Num.float x).eqv (.int n) = true ∧
      ∃ v, chain slot Settings.standard [("step", .int (10 ^ 10))] = .ok v ∧
        ¬ Accepts env v (.int n) ∧ Accepts env v (.float x) := by
  intro slot env n x
  have hequal : (Num.float x).eqv (.int n) = true := by decide +kernel
  have htolerance : env.stepTolerance = Settings.standard.stepTolerance := rfl
  have hpositive : (0 : Int) < 10 ^ 10 := by norm_num
  obtain ⟨v, hv, hpoint, -⟩ :=
    step_accepts_iff slot Settings.standard htolerance hpositive (by norm_num)
  obtain ⟨hint, hfloat⟩ := hpoint n x hequal
  refine ⟨htolerance, hpositive, by norm_num, hequal, v, hv, ?_, hfloat.mpr (.inr ?_)⟩
  · rw [hint]
    decide +kernel
  · have hmissing : (10 : Int) ^ 10 - |n| % 10 ^ 10 = 1 := by decide +kernel
    rw [hmissing, Int.cast_one]
    exact Binary64.one_le_slack (by norm_num)

end Builder

end Conformance
