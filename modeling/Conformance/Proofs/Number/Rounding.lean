import Conformance.Proofs.Number.Order
import Mathlib.Algebra.Order.Floor.Ring
import Mathlib.Data.Int.Log
import Mathlib.Data.Rat.Floor

/-!
# The one rounding

Every operation on floats is exact arithmetic followed by one rounding.  What the rounding gives is a
function of the rational number that is rounded: it never turns two numbers around, and it leaves alone
what 53 binary digits are enough for.

## Main Definitions

* `Ratio.value` — the rational number that a ratio denotes
* `roundEven` — the nearest integer, a half going to the even neighbour
* `Binary64.nearest` — the float nearest to a rational number, as a rational number and without an upper
  limit
* `Binary64.Denotes` — a float that is a rational number

## Main statements

* `Ratio.roundHalfEven_eq`, `Ratio.leadingExponent_eq` — a ratio is rounded as what it denotes
* `Binary64.nearest_mono`, `Binary64.nearest_eq_self` — the two laws of rounding
* `Binary64.denotes_ofRatio`, `Binary64.denotes_ofScaled` — what the rounding leaves
-/

namespace Conformance

/-! ## The nearest integer -/

/-- The nearest integer, a half going to the even neighbour. -/
def roundEven (q : ℚ) : ℤ :=
  if Int.fract q < 1 / 2 then ⌊q⌋ else if Int.fract q = 1 / 2 then ⌊q⌋ + ⌊q⌋ % 2 else ⌊q⌋ + 1

/-- The nearest integer is the integer part or the next one. -/
theorem floor_le_roundEven (q : ℚ) : ⌊q⌋ ≤ roundEven q ∧ roundEven q ≤ ⌊q⌋ + 1 := by
  unfold roundEven
  split
  · omega
  · split <;> omega

theorem roundEven_mono {q q' : ℚ} (h : q ≤ q') : roundEven q ≤ roundEven q' := by
  rcases (Int.floor_mono h).lt_or_eq with hlt | heq
  · calc roundEven q ≤ ⌊q⌋ + 1 := (floor_le_roundEven q).2
      _ ≤ ⌊q'⌋ := hlt
      _ ≤ roundEven q' := (floor_le_roundEven q').1
  · -- of two numbers with one integer part, the larger one has the larger rest
    have hfract : Int.fract q ≤ Int.fract q' := by
      rw [Int.fract, Int.fract, heq]
      exact sub_le_sub_right h _
    unfold roundEven
    rw [heq]
    split
    · split
      · exact le_rfl
      · split <;> omega
    · next hq =>
      rw [if_neg fun hq' => hq (hfract.trans_lt hq')]
      split
      · split <;> omega
      · next hne =>
        have hlt : (1 : ℚ) / 2 < Int.fract q := lt_of_le_of_ne (not_lt.mp hq) (Ne.symm hne)
        rw [if_neg (hlt.trans_le hfract).ne']

@[simp]
theorem roundEven_intCast (n : ℤ) : roundEven n = n := by
  rw [roundEven, Int.fract_intCast, if_pos (by norm_num), Int.floor_intCast]

namespace Ratio

/-- The rational number that a ratio denotes. -/
def value (r : Ratio) : ℚ := r.num / r.den

theorem value_ofNat (n : Nat) : (ofNat n).value = n := by
  rw [value, ofNat, Nat.cast_one, div_one]

theorem value_scale (r : Ratio) (e : Int) : (r.scale 2 e).value = r.value * 2 ^ e := by
  unfold scale
  split
  · next h =>
    obtain ⟨k, rfl⟩ := Int.eq_ofNat_of_zero_le h
    simp [value, mul_div_right_comm]
  · next h =>
    obtain ⟨k, hk⟩ := Int.eq_ofNat_of_zero_le (show 0 ≤ -e by omega)
    obtain rfl : e = -(k : Int) := by omega
    simp [value, div_eq_mul_inv, mul_assoc, mul_comm]

theorem den_scale_ne_zero {r : Ratio} (h : r.den ≠ 0) (e : Int) : (r.scale 2 e).den ≠ 0 := by
  unfold scale
  split
  · exact h
  · exact mul_ne_zero h (pow_ne_zero _ two_ne_zero)

/-- **A ratio is rounded as what it denotes.** -/
theorem roundHalfEven_eq {r : Ratio} (h : r.den ≠ 0) : (r.roundHalfEven : ℤ) = roundEven r.value := by
  have hden : (0 : ℚ) < r.den := Nat.cast_pos.mpr (Nat.pos_of_ne_zero h)
  have hfloor : ⌊r.value⌋ = (r.num / r.den : Nat) := by
    rw [value, Rat.floor_natCast_div_natCast, Int.natCast_div]
  have hfract : Int.fract r.value = (r.num % r.den : Nat) / r.den :=
    Int.fract_div_natCast_eq_div_natCast_mod
  have hlt : Int.fract r.value < 1 / 2 ↔ 2 * (r.num % r.den) < r.den := by
    rw [hfract, div_lt_div_iff₀ hden two_pos, one_mul, mul_comm]
    exact_mod_cast Iff.rfl
  have heq : Int.fract r.value = 1 / 2 ↔ 2 * (r.num % r.den) = r.den := by
    rw [hfract, div_eq_div_iff hden.ne' two_ne_zero, one_mul, mul_comm]
    exact_mod_cast Iff.rfl
  unfold roundHalfEven half floor roundEven
  rw [hfloor]
  rcases lt_trichotomy (2 * (r.num % r.den)) r.den with hhalf | hhalf | hhalf
  · rw [compare_lt_iff_lt.mpr hhalf, if_pos (hlt.mpr hhalf)]
  · rw [compare_eq_iff_eq.mpr hhalf, if_neg (mt hlt.mp hhalf.not_lt), if_pos (heq.mpr hhalf)]
    push_cast
    rfl
  · rw [compare_gt_iff_gt.mpr hhalf, if_neg (mt hlt.mp hhalf.not_gt), if_neg (mt heq.mp hhalf.ne')]
    push_cast
    rfl

/-- **The leading exponent** is the one of what a ratio denotes. -/
theorem leadingExponent_eq {r : Ratio} (hnum : r.num ≠ 0) (hden : r.den ≠ 0) :
    r.leadingExponent = Int.log 2 r.value := by
  have hlog : ∀ n : Nat, n ≠ 0 → (2 : ℚ) ^ (n.log2 : ℤ) ≤ n ∧ (n : ℚ) < 2 ^ (n.log2 + 1 : ℤ) := by
    intro n hn
    constructor
    · rw [zpow_natCast]
      exact_mod_cast Nat.log2_self_le hn
    · rw [← Nat.cast_succ, zpow_natCast]
      exact_mod_cast Nat.lt_log2_self
  obtain ⟨hnum₁, hnum₂⟩ := hlog r.num hnum
  obtain ⟨hden₁, hden₂⟩ := hlog r.den hden
  have hpos : (0 : ℚ) < r.den := Nat.cast_pos.mpr (Nat.pos_of_ne_zero hden)
  have hvalue : 0 < r.value := div_pos (Nat.cast_pos.mpr (Nat.pos_of_ne_zero hnum)) hpos
  have htwo : (2 : ℚ) ≠ 0 := two_ne_zero
  -- the quotient of the two leading powers is off by one at most
  have hupper : r.value < 2 ^ ((r.num.log2 : ℤ) - r.den.log2 + 1) := by
    rw [value, div_lt_iff₀ hpos]
    calc (r.num : ℚ) < 2 ^ ((r.num.log2 : ℤ) + 1) := hnum₂
      _ = 2 ^ ((r.num.log2 : ℤ) - r.den.log2 + 1) * 2 ^ (r.den.log2 : ℤ) := by
          rw [← zpow_add₀ htwo]
          congr 1
          omega
      _ ≤ 2 ^ ((r.num.log2 : ℤ) - r.den.log2 + 1) * r.den :=
          mul_le_mul_of_nonneg_left hden₁ (zpow_nonneg two_pos.le _)
  have hlower : 2 ^ ((r.num.log2 : ℤ) - r.den.log2 - 1) ≤ r.value := by
    rw [value, le_div_iff₀ hpos]
    calc (2 : ℚ) ^ ((r.num.log2 : ℤ) - r.den.log2 - 1) * r.den
        ≤ 2 ^ ((r.num.log2 : ℤ) - r.den.log2 - 1) * 2 ^ ((r.den.log2 : ℤ) + 1) :=
          mul_le_mul_of_nonneg_left hden₂.le (zpow_nonneg two_pos.le _)
      _ = 2 ^ (r.num.log2 : ℤ) := by
          rw [← zpow_add₀ htwo]
          congr 1
          omega
      _ ≤ r.num := hnum₁
  have hatLeast : ∀ e : ℤ, (r.scale 2 (-e)).atLeastOne = true ↔ (2 : ℚ) ^ e ≤ r.value := by
    intro e
    have hden' : (0 : ℚ) < (r.scale 2 (-e)).den :=
      Nat.cast_pos.mpr (Nat.pos_of_ne_zero (den_scale_ne_zero hden _))
    rw [atLeastOne, decide_eq_true_iff, ← Nat.cast_le (α := ℚ), ← one_le_div₀ hden', ← value,
      value_scale, zpow_neg, ← div_eq_mul_inv, one_le_div₀ (zpow_pos two_pos e)]
  have hexponent : ∀ e : ℤ, (2 : ℚ) ^ e ≤ r.value → r.value < 2 ^ (e + 1) → e = Int.log 2 r.value := by
    intro e hle hlt
    have h₁ := (Int.zpow_le_iff_le_log one_lt_two hvalue).mp (by exact_mod_cast hle)
    have h₂ := (Int.lt_zpow_iff_log_lt one_lt_two hvalue).mp (by exact_mod_cast hlt)
    omega
  unfold leadingExponent
  dsimp only
  split
  · next h => exact hexponent _ ((hatLeast _).mp h) hupper
  · next h =>
    refine hexponent _ hlower ?_
    rw [sub_add_cancel]
    exact not_le.mp (mt (hatLeast _).mpr h)

end Ratio

/-! ## The nearest float -/

namespace Binary64

/-- The exponent of the float nearest to a rational number, as long as it has no carry. -/
def unit (q : ℚ) : ℤ := max (Int.log 2 q - 52) (-1074)

/-- **The float nearest to a rational number**, as a rational number and without an upper limit. -/
def nearest (q : ℚ) : ℚ := roundEven (q * 2 ^ (-unit q)) * 2 ^ unit q

theorem nearest_zero : nearest 0 = 0 := by
  rw [nearest, zero_mul, ← Int.cast_zero, roundEven_intCast, Int.cast_zero, zero_mul]

variable {q q' : ℚ}

/-- In its own unit, a number is below `2 ^ 53`. -/
theorem scaled_lt (hq : 0 < q) : q * 2 ^ (-unit q) < 2 ^ 53 := by
  have hunit : Int.log 2 q < unit q + 53 := by
    unfold unit
    omega
  rw [zpow_neg, ← div_eq_mul_inv, div_lt_iff₀ (zpow_pos two_pos _)]
  calc q < 2 ^ (unit q + 53) := (Int.lt_zpow_iff_log_lt one_lt_two hq).mpr hunit
    _ = 2 ^ 53 * 2 ^ unit q := by
        rw [zpow_add₀ two_ne_zero, mul_comm]
        norm_num

/-- In its own unit, a number is at least `2 ^ 52`, unless the unit is the least one. -/
theorem le_scaled (hq : 0 < q) (hunit : -1074 < unit q) : 2 ^ 52 ≤ q * 2 ^ (-unit q) := by
  have hlog : unit q + 52 ≤ Int.log 2 q := by
    unfold unit at hunit ⊢
    omega
  rw [zpow_neg, ← div_eq_mul_inv, le_div_iff₀ (zpow_pos two_pos _)]
  calc (2 : ℚ) ^ 52 * 2 ^ unit q = 2 ^ (unit q + 52) := by
        rw [zpow_add₀ two_ne_zero, mul_comm]
        norm_num
    _ ≤ q := (Int.zpow_le_iff_le_log one_lt_two hq).mpr hlog

/-- The significand of the nearest float is at most `2 ^ 53`. -/
theorem roundEven_scaled_le (hq : 0 < q) : roundEven (q * 2 ^ (-unit q)) ≤ 2 ^ 53 := by
  have h := roundEven_mono (scaled_lt hq).le
  rwa [show ((2 : ℚ) ^ 53) = ((2 ^ 53 : ℤ) : ℚ) by norm_num, roundEven_intCast] at h

theorem roundEven_scaled_nonneg (hq : 0 ≤ q) : 0 ≤ roundEven (q * 2 ^ (-unit q)) := by
  have h := roundEven_mono (mul_nonneg hq (zpow_nonneg two_pos.le (-unit q)))
  rwa [← Int.cast_zero, roundEven_intCast] at h

theorem nearest_nonneg (hq : 0 ≤ q) : 0 ≤ nearest q :=
  mul_nonneg (Int.cast_nonneg (roundEven_scaled_nonneg hq)) (zpow_nonneg two_pos.le _)

/-- **Rounding does not turn numbers around.** -/
theorem nearest_mono (hq : 0 ≤ q) (h : q ≤ q') : nearest q ≤ nearest q' := by
  rcases hq.eq_or_lt with rfl | hpos
  · rw [nearest_zero]
    exact nearest_nonneg h
  have hpos' : 0 < q' := hpos.trans_le h
  have hunit : unit q ≤ unit q' :=
    max_le_max_right _ (sub_le_sub_right (Int.log_mono_right hpos h) _)
  rcases hunit.lt_or_eq with hlt | heq
  · -- a larger exponent makes up for the significand
    have hround : (2 ^ 52 : ℤ) ≤ roundEven (q' * 2 ^ (-unit q')) := by
      have hle := roundEven_mono (le_scaled hpos' (lt_of_le_of_lt (le_max_right _ _) hlt))
      rwa [show ((2 : ℚ) ^ 52) = ((2 ^ 52 : ℤ) : ℚ) by norm_num, roundEven_intCast] at hle
    calc nearest q ≤ ((2 ^ 53 : ℤ) : ℚ) * 2 ^ unit q :=
          mul_le_mul_of_nonneg_right (Int.cast_le.mpr (roundEven_scaled_le hpos))
            (zpow_nonneg two_pos.le _)
      _ = ((2 ^ 52 : ℤ) : ℚ) * 2 ^ (unit q + 1) := by
          rw [zpow_add_one₀ two_ne_zero]
          push_cast
          ring
      _ ≤ ((2 ^ 52 : ℤ) : ℚ) * 2 ^ unit q' :=
          mul_le_mul_of_nonneg_left (zpow_le_zpow_right₀ one_le_two hlt) (by norm_num)
      _ ≤ nearest q' :=
          mul_le_mul_of_nonneg_right (Int.cast_le.mpr hround) (zpow_nonneg two_pos.le _)
  · rw [nearest, nearest, heq]
    refine mul_le_mul_of_nonneg_right (Int.cast_le.mpr (roundEven_mono ?_)) (zpow_nonneg two_pos.le _)
    exact mul_le_mul_of_nonneg_right h (zpow_nonneg two_pos.le _)

/-- **Rounding leaves alone** what 53 binary digits are enough for. -/
theorem nearest_eq_self {m : ℕ} {e : ℤ} (hm : m < 2 ^ 53) (he : -1074 ≤ e) :
    nearest (m * 2 ^ e) = m * 2 ^ e := by
  rcases Nat.eq_zero_or_pos m with rfl | hpos
  · rw [Nat.cast_zero, zero_mul, nearest_zero]
  have hvalue : (0 : ℚ) < m * 2 ^ e := mul_pos (Nat.cast_pos.mpr hpos) (zpow_pos two_pos _)
  have hlog : Int.log 2 ((m : ℚ) * 2 ^ e) < 53 + e := by
    refine (Int.lt_zpow_iff_log_lt one_lt_two hvalue).mp ?_
    rw [Nat.cast_ofNat, zpow_add₀ two_ne_zero]
    refine mul_lt_mul_of_pos_right ?_ (zpow_pos two_pos _)
    exact_mod_cast hm
  have hunit : unit ((m : ℚ) * 2 ^ e) ≤ e := by
    unfold unit
    omega
  -- in its unit the number is an integer
  obtain ⟨k, hk⟩ := Int.eq_ofNat_of_zero_le (sub_nonneg.mpr hunit)
  have hscaled : (m : ℚ) * 2 ^ e * 2 ^ (-unit ((m : ℚ) * 2 ^ e)) = ((m * 2 ^ k : ℤ) : ℚ) := by
    rw [mul_assoc, ← zpow_add₀ two_ne_zero, ← sub_eq_add_neg, hk]
    push_cast
    rw [zpow_natCast]
  rw [nearest, hscaled, roundEven_intCast, ← hscaled, mul_assoc, ← zpow_add₀ two_ne_zero,
    neg_add_cancel, zpow_zero, mul_one]

/-- Integers of at most 53 binary digits stay what they are, and so does `2 ^ 53`. -/
theorem nearest_natCast {m : ℕ} (hm : m ≤ 2 ^ 53) : nearest m = m := by
  rcases hm.lt_or_eq with hlt | rfl
  · simpa using nearest_eq_self hlt (show (-1074 : ℤ) ≤ 0 by norm_num)
  · have h := nearest_eq_self (m := 2 ^ 52) (e := 1) (by norm_num) (by norm_num)
    norm_num at h ⊢
    exact h

theorem nearest_intCast {n : ℤ} (hn : 0 ≤ n) (hn' : n ≤ 2 ^ 53) : nearest n = n := by
  obtain ⟨m, rfl⟩ := Int.eq_ofNat_of_zero_le hn
  rw [Int.cast_natCast]
  exact nearest_natCast (by exact_mod_cast hn')

/-! ## What rounding leaves -/

/-- **A float is a rational number.** -/
def Denotes (x : Binary64) (q : ℚ) : Prop := x.value? = some ((q : WithTop ℚ) : ExtendedRat)

variable {x : Binary64}

theorem denotes_finite (negative : Bool) (m : Nat) (e : ℤ) :
    Denotes (.finite negative m e) (signed negative m * 2 ^ e) := rfl

/-- Only finite floats are rational numbers. -/
theorem Denotes.exists_finite (h : Denotes x q) :
    ∃ negative m e, x = .finite negative m e ∧ signed negative m * 2 ^ e = q := by
  cases x with
  | nan => cases h
  | infinite negative => cases negative <;> cases h
  | finite negative m e =>
    exact ⟨negative, m, e, rfl, WithTop.coe_injective (WithBot.coe_injective (Option.some.inj h))⟩

theorem Denotes.unique (h : Denotes x q) (h' : Denotes x q') : q = q' :=
  WithTop.coe_injective (WithBot.coe_injective (Option.some.inj (h.symm.trans h')))

/-- A number with a sign in front. -/
theorem denotes_signed (negative : Bool) {m : Nat} {e : ℤ} (h : (m : ℚ) * 2 ^ e = q) :
    Denotes (.finite negative m e) (if negative then -q else q) := by
  subst h
  cases negative <;> simp [Denotes, value?, signed]

/-- **The rounding of a ratio** that is not beyond the floats leaves the nearest float. -/
theorem denotes_ofRatio {r : Ratio} (hden : r.den ≠ 0) (hbound : r.value < 2 ^ (1000 : ℤ))
    (negative : Bool) :
    Denotes (ofRatio negative r) (if negative then -nearest r.value else nearest r.value) := by
  unfold ofRatio
  split
  · next hzero =>
    rw [Ratio.value, hzero, Nat.cast_zero, zero_div, nearest_zero]
    exact denotes_signed negative (by simp)
  · next hnum =>
    have hpos : 0 < r.value :=
      div_pos (Nat.cast_pos.mpr (Nat.pos_of_ne_zero hnum)) (Nat.cast_pos.mpr (Nat.pos_of_ne_zero hden))
    have hunit : max (r.leadingExponent - (precision - 1)) minExponent = unit r.value := by
      rw [r.leadingExponent_eq hnum hden]
      rfl
    have hlog : Int.log 2 r.value < 1000 :=
      (Int.lt_zpow_iff_log_lt one_lt_two hpos).mp (by rwa [Nat.cast_ofNat])
    have hmax : unit r.value ≤ 947 := by
      unfold unit
      omega
    have hround : ((r.scale 2 (-unit r.value)).roundHalfEven : ℤ) =
        roundEven (r.value * 2 ^ (-unit r.value)) := by
      rw [Ratio.roundHalfEven_eq (Ratio.den_scale_ne_zero hden _), Ratio.value_scale]
    have hvalue : ((r.scale 2 (-unit r.value)).roundHalfEven : ℚ) * 2 ^ unit r.value =
        nearest r.value := by
      rw [nearest, ← hround, Int.cast_natCast]
    dsimp only
    rw [hunit]
    split
    · next hcarry =>
      rw [if_neg (by unfold maxExponent; omega)]
      refine denotes_signed negative ?_
      rw [← hvalue, hcarry, zpow_add_one₀ two_ne_zero]
      norm_num [precision]
      ring
    · rw [if_neg (by unfold maxExponent; omega)]
      exact denotes_signed negative hvalue

/-- **The rounding of an integer times a power of two.** -/
theorem denotes_ofScaled {n e : ℤ} (h : |(n : ℚ)| * 2 ^ e = q) (hbound : q < 2 ^ (1000 : ℤ)) :
    Denotes (ofScaled n e) (if n < 0 then -nearest q else nearest q) := by
  have hvalue : ((Ratio.ofNat n.natAbs).scale 2 e).value = q := by
    rw [Ratio.value_scale, Ratio.value_ofNat, Nat.cast_natAbs, Int.cast_abs, h]
  have hratio := denotes_ofRatio (Ratio.den_scale_ne_zero (r := Ratio.ofNat n.natAbs) one_ne_zero e)
    (hvalue ▸ hbound) (n < 0)
  rw [hvalue] at hratio
  simpa [ofScaled] using hratio

end Binary64

end Conformance
