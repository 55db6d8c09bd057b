import Conformance.Number.Numeric
import Mathlib.Algebra.Order.Field.Power
import Mathlib.Data.Rat.Cast.Order
import Mathlib.Order.Compare
import Mathlib.Order.WithBot

/-!
# The order of numbers

Integers and floats compare by the rational numbers that they denote, with one infinity below and one
above all of them, at any size.  Only what is not a number stands outside of this order.

## Main Definitions

* `Binary64.value?`, `Num.value?` — the extended rational number that a number denotes

## Main statements

* `Num.compare?_eq` — numbers compare as what they denote
* `Num.lt_iff`, `Num.le_iff`, `Num.eqv_iff` — what that means for the three comparisons
* `Num.eqv_comm`, `Num.eqv_trans`, `Num.eqv_self_iff` — equality of numbers is an equivalence, except
  that not-a-number does not equal itself
-/

namespace Conformance

/-- A rational number or one of two infinities. -/
abbrev ExtendedRat : Type := WithBot (WithTop ℚ)

/-- The order of rational numbers is the one that they have between the infinities. -/
theorem ExtendedRat.cmp_coe (a b : ℚ) :
    cmp ((a : WithTop ℚ) : ExtendedRat) ((b : WithTop ℚ) : ExtendedRat) = cmp a b :=
  (WithBot.coe_strictMono.comp WithTop.coe_strictMono).cmp_map_eq a b

namespace Binary64

/-- What a float denotes, unless it is not a number.  Both zeros denote the same. -/
def value? : Binary64 → Option ExtendedRat
  | nan => none
  | infinite negative => some (if negative then ⊥ else ⊤)
  | finite negative m e => some (((signed negative m * 2 ^ e : ℚ) : WithTop ℚ) : ExtendedRat)

/-- Bringing a number to a smaller power of two leaves it what it is. -/
theorem mul_pow_toNat_sub {low g : Int} (h : low ≤ g) (n : Int) :
    ((n * (Nat.pow 2 (g - low).toNat : Nat) : Int) : ℚ) * 2 ^ low = n * 2 ^ g := by
  have hsum : ((g - low).toNat : Int) + low = g := by omega
  calc ((n * (Nat.pow 2 (g - low).toNat : Nat) : Int) : ℚ) * 2 ^ low
      = n * (2 ^ ((g - low).toNat : Int) * 2 ^ low) := by
        push_cast [Nat.pow_eq]
        rw [zpow_natCast, mul_assoc]
    _ = n * 2 ^ g := by rw [← zpow_add₀ two_ne_zero, hsum]

/-- Two numbers brought to a common power of two are what they were. -/
theorem align_mul (a e b f : Int) : ((align a e b f).1 : ℚ) * 2 ^ min e f = a * 2 ^ e ∧
    ((align a e b f).2 : ℚ) * 2 ^ min e f = b * 2 ^ f :=
  ⟨mul_pow_toNat_sub (min_le_left e f) a, mul_pow_toNat_sub (min_le_right e f) b⟩

/-- Bringing two numbers to a common power of two keeps their order. -/
theorem compareScaled_eq (a e b f : Int) :
    compareScaled a e b f = cmp (a * 2 ^ e : ℚ) (b * 2 ^ f) := by
  have hmono : StrictMono fun n : Int => (n : ℚ) * 2 ^ min e f := fun m n h =>
    mul_lt_mul_of_pos_right (Int.cast_lt.mpr h) (zpow_pos two_pos _)
  obtain ⟨ha, hb⟩ := align_mul a e b f
  calc compareScaled a e b f
      = cmp (align a e b f).1 (align a e b f).2 := (cmp_eq_compare _ _).symm
    _ = cmp (a * 2 ^ e : ℚ) (b * 2 ^ f) := by rw [← hmono.cmp_map_eq, ha, hb]

/-- **Floats compare as what they denote.** -/
theorem compare?_eq (x y : Binary64) :
    compare? x y = x.value?.bind fun a => y.value?.map fun b => cmp a b := by
  have hbot : ∀ q : ℚ, (⊥ : ExtendedRat) < (q : WithTop ℚ) := fun q => WithBot.bot_lt_coe _
  have htop : ∀ q : ℚ, ((q : WithTop ℚ) : ExtendedRat) < ⊤ := fun q =>
    WithBot.coe_lt_coe.mpr (WithTop.coe_lt_top q)
  cases x with
  | nan => rfl
  | infinite n =>
    cases y with
    | nan => rfl
    | infinite n' =>
      cases n <;> cases n'
      · exact congrArg some (cmp_self_eq_eq _).symm
      · exact congrArg some ((cmp_eq_gt_iff _ _).mpr bot_lt_top).symm
      · exact congrArg some ((cmp_eq_lt_iff _ _).mpr bot_lt_top).symm
      · exact congrArg some (cmp_self_eq_eq _).symm
    | finite n' m' e' =>
      cases n
      · exact congrArg some ((cmp_eq_gt_iff _ _).mpr (htop _)).symm
      · exact congrArg some ((cmp_eq_lt_iff _ _).mpr (hbot _)).symm
  | finite n m e =>
    cases y with
    | nan => rfl
    | infinite n' =>
      cases n'
      · exact congrArg some ((cmp_eq_lt_iff _ _).mpr (htop _)).symm
      · exact congrArg some ((cmp_eq_gt_iff _ _).mpr (hbot _)).symm
    | finite n' m' e' =>
      exact congrArg some ((compareScaled_eq _ _ _ _).trans (ExtendedRat.cmp_coe _ _).symm)

end Binary64

namespace Num

variable {a b c : Num}

/-- What a number denotes, unless it is not a number. -/
def value? (a : Num) : Option ExtendedRat := a.exact.value?

/-- Only one float is not a number. -/
theorem value?_eq_none_iff : a.value? = none ↔ a = .float .nan := by
  cases a with
  | int n => simp [value?, exact, Binary64.value?]
  | float x => cases x <;> simp [value?, exact, Binary64.value?]

theorem exists_value (h : a ≠ .float .nan) : ∃ x, a.value? = some x :=
  Option.ne_none_iff_exists'.mp (mt value?_eq_none_iff.mp h)

/-- **Numbers compare as what they denote**, integers and floats alike. -/
theorem compare?_eq (a b : Num) :
    compare? a b = a.value?.bind fun x => b.value?.map fun y => cmp x y :=
  Binary64.compare?_eq a.exact b.exact

theorem compare?_eq_some_iff {o : Ordering} :
    compare? a b = some o ↔ ∃ x y, a.value? = some x ∧ b.value? = some y ∧ cmp x y = o := by
  rw [compare?_eq, Option.bind_eq_some_iff]
  constructor
  · rintro ⟨x, hx, hmap⟩
    obtain ⟨y, hy, ho⟩ := Option.map_eq_some_iff.mp hmap
    exact ⟨x, y, hx, hy, ho⟩
  · rintro ⟨x, y, hx, hy, ho⟩
    exact ⟨x, hx, Option.map_eq_some_iff.mpr ⟨y, hy, ho⟩⟩

theorem lt_iff : a.lt b = true ↔ ∃ x y, a.value? = some x ∧ b.value? = some y ∧ x < y := by
  rw [lt, beq_iff_eq, compare?_eq_some_iff]
  exact exists₂_congr fun x y => and_congr_right' (and_congr_right' (cmp_eq_lt_iff x y))

theorem eqv_iff : a.eqv b = true ↔ ∃ x, a.value? = some x ∧ b.value? = some x := by
  rw [eqv, beq_iff_eq, compare?_eq_some_iff]
  constructor
  · rintro ⟨x, y, hx, hy, hxy⟩
    obtain rfl := (cmp_eq_eq_iff x y).mp hxy
    exact ⟨x, hx, hy⟩
  · rintro ⟨x, hx, hy⟩
    exact ⟨x, x, hx, hy, cmp_self_eq_eq x⟩

theorem le_iff : a.le b = true ↔ ∃ x y, a.value? = some x ∧ b.value? = some y ∧ x ≤ y := by
  rw [le, Bool.or_eq_true, lt_iff, eqv_iff]
  constructor
  · rintro (⟨x, y, hx, hy, hlt⟩ | ⟨x, hx, hy⟩)
    · exact ⟨x, y, hx, hy, hlt.le⟩
    · exact ⟨x, x, hx, hy, le_rfl⟩
  · rintro ⟨x, y, hx, hy, hle⟩
    rcases hle.lt_or_eq with hlt | rfl
    · exact .inl ⟨x, y, hx, hy, hlt⟩
    · exact .inr ⟨x, hx, hy⟩

/-! ## Bounds -/

/-- What is not a number is on no side of a bound. -/
theorem nan_le : (float .nan).le a = false := by
  rw [Bool.eq_false_iff, ne_eq, le_iff]
  rintro ⟨x, y, hx, -⟩
  cases hx

theorem le_nan : a.le (.float .nan) = false := by
  rw [Bool.eq_false_iff, ne_eq, le_iff]
  rintro ⟨x, y, -, hy, -⟩
  cases hy

theorem le_of_lt (h : a.lt b = true) : a.le b = true := by
  rw [le, h, Bool.true_or]

theorem nan_lt : (float .nan).lt a = false :=
  Bool.eq_false_iff.mpr fun h => Bool.eq_false_iff.mp nan_le (le_of_lt h)

theorem lt_nan : a.lt (.float .nan) = false :=
  Bool.eq_false_iff.mpr fun h => Bool.eq_false_iff.mp le_nan (le_of_lt h)

theorem le_trans (hab : a.le b = true) (hbc : b.le c = true) : a.le c = true := by
  obtain ⟨x, y, hx, hy, hxy⟩ := le_iff.mp hab
  obtain ⟨y', z, hy', hz, hyz⟩ := le_iff.mp hbc
  obtain rfl : y = y' := Option.some.inj (hy.symm.trans hy')
  exact le_iff.mpr ⟨x, z, hx, hz, hxy.trans hyz⟩

theorem lt_of_le_of_lt (hab : a.le b = true) (hbc : b.lt c = true) : a.lt c = true := by
  obtain ⟨x, y, hx, hy, hxy⟩ := le_iff.mp hab
  obtain ⟨y', z, hy', hz, hyz⟩ := lt_iff.mp hbc
  obtain rfl : y = y' := Option.some.inj (hy.symm.trans hy')
  exact lt_iff.mpr ⟨x, z, hx, hz, hxy.trans_lt hyz⟩

theorem lt_of_lt_of_le (hab : a.lt b = true) (hbc : b.le c = true) : a.lt c = true := by
  obtain ⟨x, y, hx, hy, hxy⟩ := lt_iff.mp hab
  obtain ⟨y', z, hy', hz, hyz⟩ := le_iff.mp hbc
  obtain rfl : y = y' := Option.some.inj (hy.symm.trans hy')
  exact lt_iff.mpr ⟨x, z, hx, hz, hxy.trans_le hyz⟩

/-- Of two numbers that are both in the order, one is not larger than the other. -/
theorem le_of_not_lt (ha : a ≠ .float .nan) (hb : b ≠ .float .nan) (h : a.lt b = false) :
    b.le a = true := by
  obtain ⟨x, hx⟩ := exists_value ha
  obtain ⟨y, hy⟩ := exists_value hb
  refine le_iff.mpr ⟨y, x, hy, hx, not_lt.mp fun hlt => ?_⟩
  exact Bool.eq_false_iff.mp h (lt_iff.mpr ⟨x, y, hx, hy, hlt⟩)

/-! ## Equality -/

theorem eqv_comm (a b : Num) : a.eqv b = b.eqv a := by
  rw [Bool.eq_iff_iff, eqv_iff, eqv_iff]
  exact exists_congr fun _ => and_comm

theorem eqv_trans (hab : a.eqv b = true) (hbc : b.eqv c = true) : a.eqv c = true := by
  obtain ⟨x, hax, hbx⟩ := eqv_iff.mp hab
  obtain ⟨y, hby, hcy⟩ := eqv_iff.mp hbc
  obtain rfl : x = y := Option.some.inj (hbx.symm.trans hby)
  exact eqv_iff.mpr ⟨x, hax, hcy⟩

/-- A number equals what denotes the same. -/
theorem eqv_iff_of_value {x : ExtendedRat} (h : a.value? = some x) :
    a.eqv b = true ↔ b.value? = some x := by
  rw [eqv_iff]
  constructor
  · rintro ⟨y, hy, hb⟩
    rwa [Option.some.inj (h.symm.trans hy)]
  · exact fun hb => ⟨x, h, hb⟩

/-- Every number equals itself, and what is not a number does not. -/
theorem eqv_self_iff : a.eqv a = true ↔ a ≠ .float .nan := by
  rw [eqv_iff, ne_eq, ← value?_eq_none_iff, ← ne_eq, Option.ne_none_iff_exists']
  exact exists_congr fun _ => and_self_iff

end Num

end Conformance
