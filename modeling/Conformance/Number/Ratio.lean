/-!
# Ratios of natural numbers

What floats and decimals are computed with: a numerator over a denominator, never reduced.

## Main Definitions

* `Ratio` — a numerator over a denominator
* `Ratio.scale` — a ratio times a power of a base, the exponent of either sign
* `Ratio.floor`, `Ratio.half` — the integer part, and how the rest compares with one half
* `Ratio.roundHalfEven` — the nearest integer, a half going to the even neighbour

## Design Notes

Powers are written with `Nat.pow`, which leaves no instance to be chosen.
-/

namespace Conformance

/-- A numerator over a denominator. -/
structure Ratio where
  num : Nat
  den : Nat
  deriving DecidableEq, Repr, Inhabited

namespace Ratio

/-- A natural number as a ratio. -/
def ofNat (n : Nat) : Ratio := ⟨n, 1⟩

/-- A ratio times `base ^ e`: a negative exponent goes into the denominator. -/
def scale (r : Ratio) (base : Nat) (e : Int) : Ratio :=
  if 0 ≤ e then ⟨r.num * Nat.pow base e.toNat, r.den⟩
  else ⟨r.num, r.den * Nat.pow base (-e).toNat⟩

/-- The ratio is at least one. -/
def atLeastOne (r : Ratio) : Bool := r.den ≤ r.num

/-- The integer part. -/
def floor (r : Ratio) : Nat := r.num / r.den

/-- Whether the rest behind the integer part is less than a half, a half, or more. -/
def half (r : Ratio) : Ordering := compare (2 * (r.num % r.den)) r.den

/-- The nearest integer, a half going to the even neighbour. -/
def roundHalfEven (r : Ratio) : Nat :=
  match r.half with
  | .lt => r.floor
  | .eq => r.floor + r.floor % 2
  | .gt => r.floor + 1

/-- The exponent `e` with `2 ^ e ≤ r < 2 ^ (e + 1)`, for a positive ratio. -/
def leadingExponent (r : Ratio) : Int :=
  let e : Int := (Nat.log2 r.num : Int) - (Nat.log2 r.den : Int)
  if (r.scale 2 (-e)).atLeastOne then e else e - 1

end Ratio

end Conformance
