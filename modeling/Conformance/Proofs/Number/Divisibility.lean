import Conformance.Proofs.Number.Rounding

/-!
# Divisibility of integers and of floats

An integer is a multiple of a step if nothing remains.  A float that equals it has the same remainder, but
the remainder only has to be close to nothing or to the whole step.  Close is what is within the absolute
tolerance, and also what is within a relative tolerance, which for large steps is larger than a unit.

## Main statements

* `Binary64.denotes_distance`, `Binary64.denotes_absProduct`, `Binary64.isClose_iff` — closeness as a
  statement about rational numbers
* `Binary64.exists_denotes_fmod` — the remainder of floats that are integers
* `Num.isMultiple_float_iff` — which floats that are integers are multiples of a step
* `Binary64.slack_lt_one`, `Binary64.one_le_slack` — from which step on the relative tolerance is a unit or
  more
-/

namespace Conformance

namespace Binary64

variable {x y : Binary64} {a b : ℚ}

/-! ## Operations on floats that are rational numbers -/

theorem compare?_of_denotes (hx : Denotes x a) (hy : Denotes y b) : compare? x y = some (cmp a b) := by
  rw [compare?_eq, hx, hy]
  exact congrArg some (ExtendedRat.cmp_coe a b)

theorem eqv_iff_of_denotes (hx : Denotes x a) (hy : Denotes y b) : eqv x y = true ↔ a = b := by
  rw [eqv, compare?_of_denotes hx hy, beq_iff_eq, Option.some_inj, cmp_eq_eq_iff]

theorem lt_iff_of_denotes (hx : Denotes x a) (hy : Denotes y b) : lt x y = true ↔ a < b := by
  rw [lt, compare?_of_denotes hx hy, beq_iff_eq, Option.some_inj, cmp_eq_lt_iff]

theorem le_iff_of_denotes (hx : Denotes x a) (hy : Denotes y b) : le x y = true ↔ a ≤ b := by
  rw [le, compare?_of_denotes hx hy]
  rcases lt_trichotomy a b with h | h | h
  · rw [(cmp_eq_lt_iff a b).mpr h]
    simpa using h.le
  · rw [(cmp_eq_eq_iff a b).mpr h]
    simpa using h.le
  · rw [(cmp_eq_gt_iff a b).mpr h]
    simpa using h

theorem denotes_zero (negative : Bool) : Denotes (zero negative) 0 := by
  have h := denotes_signed negative (m := 0) (e := minExponent) (q := 0) (by simp)
  rwa [neg_zero, ite_self] at h

theorem abs_signed (negative : Bool) (m : Nat) : |((signed negative m : ℤ) : ℚ)| = m := by
  cases negative <;> simp [signed]

/-- The size of a float. -/
theorem denotes_abs (hx : Denotes x a) : Denotes x.abs |a| := by
  obtain ⟨negative, m, e, rfl, rfl⟩ := hx.exists_finite
  rw [abs_mul, abs_signed, abs_of_pos (zpow_pos (two_pos (α := ℚ)) e)]
  exact denotes_finite false m e

/-- **The distance of floats** is rounded once. -/
theorem denotes_distance (hx : Denotes x a) (hy : Denotes y b) (hbound : |a - b| < 2 ^ (1000 : ℤ)) :
    Denotes (distance x y) (nearest |a - b|) := by
  obtain ⟨n, m, e, rfl, rfl⟩ := hx.exists_finite
  obtain ⟨n', m', e', rfl, rfl⟩ := hy.exists_finite
  obtain ⟨hfirst, hsecond⟩ := align_mul (signed n m) e (signed n' m') e'
  have hscaled : ∀ k l : ℤ, |(((k - l).natAbs : ℤ) : ℚ)| * 2 ^ min e e' =
      |(k : ℚ) * 2 ^ min e e' - l * 2 ^ min e e'| := by
    intro k l
    rw [← sub_mul, abs_mul, abs_of_pos (zpow_pos (two_pos (α := ℚ)) (min e e')), Int.natCast_natAbs,
      Int.cast_abs, abs_abs, Int.cast_sub]
  have h := denotes_ofScaled (hscaled (align (signed n m) e (signed n' m') e').1
    (align (signed n m) e (signed n' m') e').2) (by rwa [hfirst, hsecond])
  rwa [if_neg (Int.natCast_nonneg _).not_gt, hfirst, hsecond] at h

/-- **The size of a product** is rounded once. -/
theorem denotes_absProduct (hx : Denotes x a) (hy : Denotes y b) (hbound : |a| * |b| < 2 ^ (1000 : ℤ)) :
    Denotes (absProduct x y) (nearest (|a| * |b|)) := by
  obtain ⟨n, m, e, rfl, rfl⟩ := hx.exists_finite
  obtain ⟨n', m', e', rfl, rfl⟩ := hy.exists_finite
  have hscaled : |(((m * m' : Nat) : ℤ) : ℚ)| * 2 ^ (e + e') =
      |(signed n m * 2 ^ e : ℚ)| * |(signed n' m' * 2 ^ e' : ℚ)| := by
    rw [abs_mul, abs_mul, abs_signed, abs_signed, abs_of_pos (zpow_pos (two_pos (α := ℚ)) e),
      abs_of_pos (zpow_pos (two_pos (α := ℚ)) e'), zpow_add₀ two_ne_zero, Int.cast_natCast, Nat.abs_cast,
      Nat.cast_mul]
    ring
  have h := denotes_ofScaled hscaled hbound
  rwa [if_neg (Int.natCast_nonneg _).not_gt] at h

/-- The relative tolerance of closeness is the float nearest to a billionth. -/
theorem denotes_relativeTolerance : Denotes relativeTolerance (nearest (10 ^ (-9 : ℤ))) := by
  have hvalue : ((Ratio.ofNat 1).scale 10 (-9)).value = 10 ^ (-9 : ℤ) := by
    simp [Ratio.value, Ratio.scale, Ratio.ofNat, zpow_neg]
    norm_num
  have h := denotes_ofRatio (r := (Ratio.ofNat 1).scale 10 (-9)) (by decide)
    (by rw [hvalue]; exact lt_of_lt_of_le (by norm_num) (one_le_zpow₀ one_le_two (by norm_num))) false
  rw [hvalue] at h
  exact h

/-- **The float nearest to a billionth** is larger than it, by less than one part in `10 ^ 16`. -/
theorem nearest_billionth : nearest (10 ^ (-9 : ℤ)) = 4835703278458517 * 2 ^ (-82 : ℤ) := by
  have hfloat : relativeTolerance = .finite false 4835703278458517 (-82) := by decide +kernel
  have h := denotes_relativeTolerance
  rw [hfloat] at h
  simpa [signed] using h.unique (denotes_finite false 4835703278458517 (-82))

/-- **Closeness** of floats that are rational numbers: they are equal, or their distance is within the
relative tolerance of one of them or within the absolute one. -/
theorem isClose_iff {absolute : Binary64} {t : ℚ} (htolerance : Denotes absolute t) (hx : Denotes x a)
    (hy : Denotes y b) (ha : |a| < 2 ^ (999 : ℤ)) (hb : |b| < 2 ^ (999 : ℤ)) :
    isClose absolute x y = true ↔ a = b ∨ nearest |a - b| ≤ nearest (nearest (10 ^ (-9 : ℤ)) * |b|) ∨
      nearest |a - b| ≤ nearest (nearest (10 ^ (-9 : ℤ)) * |a|) ∨ nearest |a - b| ≤ t := by
  have hdouble : (2 : ℚ) ^ (1000 : ℤ) = 2 ^ (999 : ℤ) + 2 ^ (999 : ℤ) := by
    rw [← mul_two, ← zpow_add_one₀ two_ne_zero]
    norm_num
  have hdistance : |a - b| < 2 ^ (1000 : ℤ) := by
    rw [hdouble]
    exact (abs_sub a b).trans_lt (add_lt_add ha hb)
  have hnonneg : (0 : ℚ) ≤ nearest (10 ^ (-9 : ℤ)) := nearest_nonneg (zpow_nonneg (by norm_num) _)
  have hsmall : nearest (10 ^ (-9 : ℤ)) ≤ 1 := by
    rw [nearest_billionth]
    norm_num
  have hproduct : ∀ c : ℚ, |c| < 2 ^ (999 : ℤ) →
      |nearest (10 ^ (-9 : ℤ))| * |c| < 2 ^ (1000 : ℤ) := by
    intro c hc
    rw [abs_of_nonneg hnonneg, hdouble]
    calc nearest (10 ^ (-9 : ℤ)) * |c| ≤ 1 * |c| := mul_le_mul_of_nonneg_right hsmall (abs_nonneg c)
      _ < 2 ^ (999 : ℤ) := by rwa [one_mul]
      _ ≤ 2 ^ (999 : ℤ) + 2 ^ (999 : ℤ) := le_add_of_nonneg_left (zpow_nonneg two_pos.le _)
  have hd := denotes_distance hx hy hdistance
  have hpy := denotes_absProduct denotes_relativeTolerance hy (hproduct b hb)
  have hpx := denotes_absProduct denotes_relativeTolerance hx (hproduct a ha)
  rw [abs_of_nonneg hnonneg] at hpx hpy
  have hfinite : ∀ {z : Binary64} {c : ℚ}, Denotes z c → z.isInfinite = false := by
    intro z c hz
    obtain ⟨n, m, e, rfl, -⟩ := hz.exists_finite
    rfl
  have heqv := eqv_iff_of_denotes hx hy
  rw [isClose, hfinite hx, hfinite hy]
  by_cases hab : a = b
  · rw [if_pos (heqv.mpr hab)]
    simp [hab]
  · rw [if_neg (mt heqv.mp hab), Bool.or_self, if_neg Bool.false_ne_true]
    simp only [Bool.or_eq_true, le_iff_of_denotes hd hpy, le_iff_of_denotes hd hpx,
      le_iff_of_denotes hd htolerance, hab, false_or, or_assoc]

/-! ## Remainders -/

/-- Scaling two numbers to integers scales what remains of them. -/
theorem emod_mul_eq {k l n s : ℤ} {t : ℚ} (ht : 0 < t) (hk : k * t = n) (hl : l * t = s) (hs : 0 < s) :
    ((k % l : ℤ) : ℚ) * t = (n % s : ℤ) := by
  have hl' : 0 < l := by
    have hpos : (0 : ℚ) < l * t := by rw [hl]; exact_mod_cast hs
    exact_mod_cast pos_of_mul_pos_left hpos ht.le
  have hrest : ((k % l : ℤ) : ℚ) * t = ((n - s * (k / l) : ℤ) : ℚ) := by
    rw [Int.emod_def]
    push_cast
    rw [← hk, ← hl]
    ring
  have hnonneg : 0 ≤ n - s * (k / l) := by
    have h : (0 : ℚ) ≤ (k % l : ℤ) * t :=
      mul_nonneg (by exact_mod_cast Int.emod_nonneg k hl'.ne') ht.le
    rw [hrest] at h
    exact_mod_cast h
  have hlt : n - s * (k / l) < s := by
    have h : ((k % l : ℤ) : ℚ) * t < l * t :=
      mul_lt_mul_of_pos_right (by exact_mod_cast Int.emod_lt_of_pos k hl') ht
    rw [hrest, hl] at h
    exact_mod_cast h
  rw [hrest, ← Int.emod_eq_of_lt hnonneg hlt, Int.sub_mul_emod_self_left]

/-- **The remainder of floats that are integers** is the one of the integers, with the sign of the
dividend.  It is exact, since it is smaller than the divisor. -/
theorem exists_denotes_fmod {n s : ℤ} (hx : Denotes x n) (hy : Denotes y s) (hs : 0 < s)
    (hs' : s ≤ 2 ^ 53) : ∃ q, Denotes (fmod x y) q ∧ |q| = ((|n| % s : ℤ) : ℚ) := by
  obtain ⟨negative, m, e, rfl, hn⟩ := hx.exists_finite
  obtain ⟨negative', m', e', rfl, hm⟩ := hy.exists_finite
  have hsize : (m : ℚ) * 2 ^ e = ((|n| : ℤ) : ℚ) := by
    rw [Int.cast_abs, ← hn, abs_mul, abs_signed, abs_of_pos (zpow_pos (two_pos (α := ℚ)) e)]
  have hsize' : (m' : ℚ) * 2 ^ e' = (s : ℚ) := by
    rw [← abs_of_pos (show (0 : ℚ) < s by exact_mod_cast hs), ← hm, abs_mul, abs_signed,
      abs_of_pos (zpow_pos (two_pos (α := ℚ)) e')]
  have hne : m' ≠ 0 := by
    rintro rfl
    rw [Nat.cast_zero, zero_mul] at hsize'
    exact hs.ne (by exact_mod_cast hsize')
  obtain ⟨hfirst, hsecond⟩ := align_mul m e m' e'
  rw [Int.cast_natCast] at hfirst hsecond
  have hrest := emod_mul_eq (zpow_pos two_pos (min e e')) (hfirst.trans hsize)
    (hsecond.trans hsize') hs
  have hnonneg : 0 ≤ |n| % s := Int.emod_nonneg _ hs.ne'
  have hlt : |n| % s < s := Int.emod_lt_of_pos _ hs
  rw [fmod, if_neg hne]
  dsimp only
  split
  · next hzero =>
    refine ⟨0, denotes_zero negative, ?_⟩
    rw [← hrest, hzero, Int.cast_zero, zero_mul, abs_zero]
  · -- the remainder is an integer below the step, so it is not rounded
    generalize (align m e m' e').1 % (align m e m' e').2 = r at hrest
    have hsign : ∀ (p : Prop) [Decidable p] (q : ℚ), |if p then -q else q| = |q| := by
      intro p _ q
      split
      · exact abs_neg q
      · rfl
    have hsigned : |((if negative then -r else r : ℤ) : ℚ)| * 2 ^ min e e' = ((|n| % s : ℤ) : ℚ) := by
      rw [apply_ite Int.cast, Int.cast_neg, hsign, ← abs_of_pos (zpow_pos (two_pos (α := ℚ)) (min e e')), ← abs_mul, hrest,
        abs_of_nonneg (by exact_mod_cast hnonneg)]
    have hbound : ((|n| % s : ℤ) : ℚ) < 2 ^ (1000 : ℤ) := by
      have hle : ((|n| % s : ℤ) : ℚ) ≤ 2 ^ (53 : ℤ) := by
        exact_mod_cast (hlt.le.trans hs')
      exact hle.trans_lt (zpow_lt_zpow_right₀ one_lt_two (by norm_num))
    refine ⟨_, denotes_ofScaled hsigned hbound, ?_⟩
    rw [hsign, nearest_intCast hnonneg (hlt.le.trans hs'), abs_of_nonneg (by exact_mod_cast hnonneg)]

/-! ## Closeness of remainders -/

/-- The tolerance of closeness that is relative to a step. -/
def slack (s : ℤ) : ℚ := nearest (nearest (10 ^ (-9 : ℤ)) * s)

theorem slack_mono {k s : ℤ} (hk : 0 ≤ k) (h : k ≤ s) : slack k ≤ slack s := by
  have hnonneg : (0 : ℚ) ≤ nearest (10 ^ (-9 : ℤ)) := nearest_nonneg (zpow_nonneg (by norm_num) _)
  exact nearest_mono (mul_nonneg hnonneg (by exact_mod_cast hk))
    (mul_le_mul_of_nonneg_left (by exact_mod_cast h) hnonneg)

/-- A billionth of a step, and a little more. -/
theorem billionth_mul_le {k : ℤ} (hk : 0 ≤ k) : nearest (10 ^ (-9 : ℤ)) * k ≤ k * 2 ^ (-1 : ℤ) := by
  rw [nearest_billionth, mul_comm]
  exact mul_le_mul_of_nonneg_left (by norm_num) (by exact_mod_cast hk)

/-- The tolerance is smaller than the step itself. -/
theorem slack_lt {k : ℤ} (hk : 0 < k) (hk' : k < 2 ^ 53) : slack k < k := by
  obtain ⟨m, rfl⟩ := Int.eq_ofNat_of_zero_le hk.le
  have hm : (0 : ℚ) < m := by exact_mod_cast hk
  calc slack m ≤ nearest (m * 2 ^ (-1 : ℤ)) :=
        nearest_mono (mul_nonneg (nearest_nonneg (zpow_nonneg (by norm_num) _)) (by exact_mod_cast hk.le))
          (billionth_mul_le hk.le)
    _ = m * 2 ^ (-1 : ℤ) := nearest_eq_self (by exact_mod_cast hk') (by norm_num)
    _ < m := by
        rw [zpow_neg_one]
        linarith

/-- **Below a billion the tolerance is smaller than a unit.** -/
theorem slack_lt_one {s : ℤ} (hs : 0 ≤ s) (hs' : s < 10 ^ 9) : slack s < 1 := by
  have hnonneg : (0 : ℚ) ≤ nearest (10 ^ (-9 : ℤ)) * s :=
    mul_nonneg (nearest_nonneg (zpow_nonneg (by norm_num) _)) (by exact_mod_cast hs)
  have hle : (s : ℚ) ≤ 10 ^ 9 - 1 := by exact_mod_cast Int.le_sub_one_of_lt hs'
  calc slack s ≤ nearest ((2 ^ 30 - 1 : ℕ) * 2 ^ (-30 : ℤ)) := by
        refine nearest_mono hnonneg ?_
        calc nearest (10 ^ (-9 : ℤ)) * s ≤ nearest (10 ^ (-9 : ℤ)) * (10 ^ 9 - 1) :=
              mul_le_mul_of_nonneg_left hle (nearest_nonneg (zpow_nonneg (by norm_num) _))
          _ ≤ ((2 ^ 30 - 1 : ℕ) : ℚ) * 2 ^ (-30 : ℤ) := by
              rw [nearest_billionth]
              norm_num
    _ = ((2 ^ 30 - 1 : ℕ) : ℚ) * 2 ^ (-30 : ℤ) := nearest_eq_self (by norm_num) (by norm_num)
    _ < 1 := by norm_num

/-- **From a billion on the tolerance is a unit at least.** -/
theorem one_le_slack {s : ℤ} (hs : 10 ^ 9 ≤ s) : 1 ≤ slack s := by
  have hle : (10 : ℚ) ^ 9 ≤ s := by exact_mod_cast hs
  calc (1 : ℚ) = nearest 1 := by simpa using (nearest_natCast (m := 1) (by norm_num)).symm
    _ ≤ slack s := by
        refine nearest_mono zero_le_one ?_
        calc (1 : ℚ) ≤ nearest (10 ^ (-9 : ℤ)) * 10 ^ 9 := by
              rw [nearest_billionth]
              norm_num
          _ ≤ nearest (10 ^ (-9 : ℤ)) * s :=
              mul_le_mul_of_nonneg_left hle (nearest_nonneg (zpow_nonneg (by norm_num) _))

variable {tolerance : Binary64} {t : ℚ} {k s : ℤ}

/-- **An integer is close to nothing** only if it is nothing. -/
theorem isClose_zero_iff (htolerance : Denotes tolerance t) (ht : t < 1) (hx : Denotes x a)
    (ha : |a| = k) (hk : k < 2 ^ 53) : isClose tolerance x (zero false) = true ↔ k = 0 := by
  have hnonneg : 0 ≤ k := by
    have h : (0 : ℚ) ≤ k := ha ▸ abs_nonneg a
    exact_mod_cast h
  have hbound : (2 : ℚ) ^ (53 : ℤ) < 2 ^ (999 : ℤ) := zpow_lt_zpow_right₀ one_lt_two (by norm_num)
  have hk' : (k : ℚ) < 2 ^ (53 : ℤ) := by exact_mod_cast hk
  rw [isClose_iff htolerance hx (denotes_zero false) (ha ▸ hk'.trans hbound)
    (by rw [abs_zero]; exact zpow_pos two_pos _), sub_zero, abs_zero, mul_zero, nearest_zero, ha,
    nearest_intCast hnonneg hk.le]
  constructor
  · intro h
    by_contra hne
    have hpos : 0 < k := lt_of_le_of_ne hnonneg (Ne.symm hne)
    have hone : (1 : ℚ) ≤ k := by exact_mod_cast hpos
    rcases h with rfl | h | h | h
    · rw [abs_zero] at ha
      exact hne (by exact_mod_cast ha.symm)
    · linarith
    · exact absurd h (slack_lt hpos hk).not_ge
    · linarith
  · rintro rfl
    exact .inl (abs_eq_zero.mp (by exact_mod_cast ha))

/-- **An integer below a step is close to the step** if what is missing is within the tolerance. -/
theorem isClose_step_iff (htolerance : Denotes tolerance t) (ht : t < 1) (hx : Denotes x k)
    (hy : Denotes y s) (hk : 0 ≤ k) (hlt : k < s) (hs : s ≤ 2 ^ 53) :
    isClose tolerance x y = true ↔ ((s - k : ℤ) : ℚ) ≤ slack s := by
  have hbound : (2 : ℚ) ^ (53 : ℤ) < 2 ^ (999 : ℤ) := zpow_lt_zpow_right₀ one_lt_two (by norm_num)
  have hk₀ : (0 : ℚ) ≤ k := by exact_mod_cast hk
  have hs₀ : (0 : ℚ) ≤ s := by exact_mod_cast (hk.trans hlt.le)
  have hs₁ : (s : ℚ) ≤ 2 ^ (53 : ℤ) := by exact_mod_cast hs
  have hks : (k : ℚ) < s := by exact_mod_cast hlt
  have hdistance : |(k : ℚ) - s| = ((s - k : ℤ) : ℚ) := by
    rw [abs_sub_comm, Int.cast_sub, abs_of_nonneg (sub_nonneg.mpr hks.le)]
  have hone : (1 : ℚ) ≤ ((s - k : ℤ) : ℚ) := by exact_mod_cast (by omega : 1 ≤ s - k)
  rw [isClose_iff htolerance hx hy (by rw [abs_of_nonneg hk₀]; exact (hks.trans_le hs₁).trans hbound)
    (by rw [abs_of_nonneg hs₀]; exact hs₁.trans_lt hbound), hdistance, abs_of_nonneg hk₀, abs_of_nonneg hs₀,
    nearest_intCast (by omega) (by omega)]
  constructor
  · rintro (h | h | h | h)
    · exact absurd h hks.ne
    · exact h
    · exact h.trans (slack_mono hk hlt.le)
    · linarith
  · exact fun h => .inr (.inl h)

end Binary64

/-! ## Divisibility -/

namespace Num

open Binary64

variable {tolerance x : Binary64} {t : ℚ} {n s : ℤ}

/-- Integers of at most 53 binary digits are floats. -/
theorem denotes_ofInt (hs : |s| ≤ 2 ^ 53) : Denotes (ofInt s) s := by
  have hsize : |(s : ℚ)| * 2 ^ (0 : ℤ) = ((|s| : ℤ) : ℚ) := by rw [zpow_zero, mul_one, Int.cast_abs]
  have hbound : ((|s| : ℤ) : ℚ) < 2 ^ (1000 : ℤ) := by
    have hle : ((|s| : ℤ) : ℚ) ≤ 2 ^ (53 : ℤ) := by exact_mod_cast hs
    exact hle.trans_lt (zpow_lt_zpow_right₀ one_lt_two (by norm_num))
  have hsign : (if s < 0 then -((|s| : ℤ) : ℚ) else ((|s| : ℤ) : ℚ)) = s := by
    split
    · next hneg => rw [abs_of_neg hneg, Int.cast_neg, neg_neg]
    · next hneg => rw [abs_of_nonneg (not_lt.mp hneg)]
  have h := denotes_ofScaled hsize hbound
  rwa [nearest_intCast (abs_nonneg s) hs, hsign] at h

/-- Between integers the remainder decides. -/
theorem isMultiple_int_iff : (Num.int n).isMultiple tolerance (.int s) = .ok true ↔ s ∣ n := by
  show Except.ok (decide (n % s = 0)) = Except.ok true ↔ _
  rw [Except.ok.injEq, decide_eq_true_iff, Int.dvd_iff_emod_eq_zero]

/-- **A float that is an integer** is a multiple of a step if nothing remains, or if what is missing to the
whole step is within the relative tolerance. -/
theorem isMultiple_float_iff (htolerance : Denotes tolerance t) (ht₀ : 0 ≤ t) (ht : t < 1)
    (hx : Denotes x n) (hs : 0 < s) (hs' : s ≤ 2 ^ 53) :
    (Num.float x).isMultiple tolerance (.int s) = .ok true ↔
      s ∣ n ∨ ((s - |n| % s : ℤ) : ℚ) ≤ slack s := by
  have hstep : Denotes (ofInt s) s := denotes_ofInt (by rwa [abs_of_pos hs])
  obtain ⟨q, hq, hsize⟩ := exists_denotes_fmod hx hstep hs hs'
  have hnonneg : 0 ≤ |n| % s := Int.emod_nonneg _ hs.ne'
  have hlt : |n| % s < s := Int.emod_lt_of_pos _ hs
  have hfloat : (Num.int s).toFloat = .ok (ofInt s) := by
    obtain ⟨negative, m, e, hfinite, -⟩ := hstep.exists_finite
    rw [toFloat, hfinite]
  have hfinite : x.isFinite = true := by
    obtain ⟨negative, m, e, rfl, -⟩ := hx.exists_finite
    rfl
  have hpositive : Binary64.lt tolerance (zero false) = false :=
    Bool.eq_false_iff.mpr fun h => ((lt_iff_of_denotes htolerance (denotes_zero false)).mp h).not_ge ht₀
  have hresult : (Num.float x).isMultiple tolerance (.int s) =
      .ok (isClose tolerance (fmod x (ofInt s)) (zero false) ||
        isClose tolerance (fmod x (ofInt s)).abs (ofInt s)) := by
    show (if (!x.isFinite) = true then _ else ((Num.int s).toFloat >>= _) : Except Fault Bool) = _
    rw [hfinite, hfloat]
    show (if tolerance.lt (zero false) = true then _ else _ : Except Fault Bool) = _
    rw [hpositive]
    rfl
  have habs : Denotes (fmod x (ofInt s)).abs ((|n| % s : ℤ) : ℚ) := hsize ▸ denotes_abs hq
  rw [hresult, Except.ok.injEq, Bool.or_eq_true,
    isClose_zero_iff htolerance ht hq hsize (hlt.trans_le hs'),
    isClose_step_iff htolerance ht habs hstep hnonneg hlt hs', ← Int.dvd_iff_emod_eq_zero, dvd_abs]

end Num

end Conformance
