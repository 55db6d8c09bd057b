import Conformance.Number.Ratio

/-!
# Exact binary64 numbers

Floating numbers are kept as what they denote, a sign, a significand and a power of two, and every
operation is written as exact integer arithmetic followed by one rounding.  Nothing here depends on
the machine's floating unit, so a statement about a check that uses floats is a statement about
integers.

## Main Definitions

* `Binary64` — not-a-number, the two infinities, and the finite numbers `± m · 2 ^ e`
* `Binary64.ofRatio` — the rounding every other operation goes through: to nearest, ties to even
* `Binary64.compare?` — the order, undefined exactly when one side is not a number
* `Binary64.fmod` — the remainder that keeps the sign of the dividend, always exact
* `Binary64.isClose` — closeness within a relative and an absolute tolerance

## Design Notes

The significand of a finite number that `ofRatio` builds is below `2 ^ 53`, and it is at least
`2 ^ 52` unless the exponent is the least one, `-1074`.  The comparisons do not rely on that: they
bring both sides to a common power of two and compare integers.
-/

namespace Conformance

/-- A floating number of the binary64 format, by what it denotes. -/
inductive Binary64 where
  /-- Not a number: unordered, and different from itself. -/
  | nan
  /-- One of the two infinities. -/
  | infinite (negative : Bool)
  /-- The number `± significand · 2 ^ exponent`; both zeros are of this form. -/
  | finite (negative : Bool) (significand : Nat) (exponent : Int)
  deriving DecidableEq, Repr, Inhabited

namespace Binary64

/-- The least exponent of a finite number. -/
def minExponent : Int := -1074

/-- The greatest exponent of a finite number. -/
def maxExponent : Int := 971

/-- A zero of the given sign. -/
def zero (negative : Bool) : Binary64 := .finite negative 0 minExponent

/-- Significands are below `2 ^ precision`. -/
def precision : Nat := 53

/-- **The one rounding**: the number nearest to a ratio with a sign, a half going to the even
significand, and an infinity beyond the largest finite number. -/
def ofRatio (negative : Bool) (r : Ratio) : Binary64 :=
  if r.num = 0 then zero negative
  else
    let e := max (r.leadingExponent - (precision - 1)) minExponent
    let m := (r.scale 2 (-e)).roundHalfEven
    let (m, e) := if m = Nat.pow 2 precision then (Nat.pow 2 (precision - 1), e + 1) else (m, e)
    if maxExponent < e then .infinite negative else .finite negative m e

/-- The number nearest to `n · 2 ^ e`. -/
def ofScaled (n : Int) (e : Int) : Binary64 :=
  ofRatio (n < 0) ((Ratio.ofNat n.natAbs).scale 2 e)

/-- The number nearest to an integer; integers beyond the range give an infinity. -/
def ofInt (n : Int) : Binary64 := ofScaled n 0

/-- The number nearest to `± digits · 10 ^ exponent`.  Exponents so far out that the result is
certain to be an infinity or a zero are settled without computing the power. -/
def ofDecimal (negative : Bool) (digits : Nat) (exponent : Int) : Binary64 :=
  if digits = 0 then zero negative
  else
    let size : Int := (Nat.log2 digits : Int) / 3 + 1
    if 400 < exponent then .infinite negative
    else if exponent + size < -400 then zero negative
    else ofRatio negative ((Ratio.ofNat digits).scale 10 exponent)

/-- Neither an infinity nor not-a-number. -/
def isFinite : Binary64 → Bool
  | .finite .. => true
  | _ => false

/-- One of the two infinities. -/
def isInfinite : Binary64 → Bool
  | .infinite _ => true
  | _ => false

/-- Different from zero; not-a-number counts as different. -/
def isNonzero : Binary64 → Bool
  | .finite _ m _ => m ≠ 0
  | _ => true

/-- The sign removed. -/
def abs : Binary64 → Binary64
  | .nan => .nan
  | .infinite _ => .infinite false
  | .finite _ m e => .finite false m e

/-- The significand with its sign. -/
def signed (negative : Bool) (m : Nat) : Int := if negative then -(m : Int) else m

/-- `a · 2 ^ e` and `b · 2 ^ f` brought to their smaller power of two. -/
def align (a e b f : Int) : Int × Int :=
  let low := min e f
  let up (n : Int) : Int := (Nat.pow 2 (n - low).toNat : Nat)
  (a * up e, b * up f)

/-- The order of `a · 2 ^ e` and `b · 2 ^ f`. -/
def compareScaled (a e b f : Int) : Ordering :=
  let (x, y) := align a e b f
  compare x y

/-- The order of two numbers: by value, both zeros equal, and none when one is not a number. -/
def compare? : Binary64 → Binary64 → Option Ordering
  | .nan, _ => none
  | _, .nan => none
  | .infinite n, .infinite n' => some (compare n'.toNat n.toNat)
  | .infinite n, _ => some (if n then .lt else .gt)
  | _, .infinite n => some (if n then .gt else .lt)
  | .finite n m e, .finite n' m' e' => some (compareScaled (signed n m) e (signed n' m') e')

/-- The remainder of division truncated towards zero: it has the sign of the dividend and is
smaller than the divisor.  It is exact, since it is a multiple of the finer of the two units. -/
def fmod : Binary64 → Binary64 → Binary64
  | .finite n m e, .finite _ m' e' =>
    if m' = 0 then .nan
    else
      let (x, y) := align m e m' e'
      let r := x % y
      if r = 0 then zero n else ofScaled (if n then -r else r) (min e e')
  | .finite n m e, .infinite _ => .finite n m e
  | _, _ => .nan

/-- The distance of two numbers. -/
def distance : Binary64 → Binary64 → Binary64
  | .finite n m e, .finite n' m' e' =>
    let (x, y) := align (signed n m) e (signed n' m') e'
    ofScaled ((x - y).natAbs : Int) (min e e')
  | .nan, _ => .nan
  | _, .nan => .nan
  | .infinite n, .infinite n' => if n = n' then .nan else .infinite false
  | _, _ => .infinite false

/-- The size of the product of two numbers. -/
def absProduct : Binary64 → Binary64 → Binary64
  | .finite _ m e, .finite _ m' e' => ofScaled ((m * m' : Nat) : Int) (e + e')
  | .nan, _ => .nan
  | _, .nan => .nan
  | .infinite _, x => if x.isNonzero then .infinite false else .nan
  | x, .infinite _ => if x.isNonzero then .infinite false else .nan

/-- `x ≤ y`; false when one side is not a number. -/
def le (x y : Binary64) : Bool :=
  match compare? x y with
  | some .lt | some .eq => true
  | _ => false

/-- `x < y`; false when one side is not a number. -/
def lt (x y : Binary64) : Bool := compare? x y == some .lt

/-- Equal values; not-a-number equals nothing. -/
def eqv (x y : Binary64) : Bool := compare? x y == some .eq

/-- The relative tolerance of closeness, `10 ^ -9`. -/
def relativeTolerance : Binary64 := ofDecimal false 1 (-9)

/-- **Closeness**: equal, or at a distance within the relative tolerance of either side or within
the absolute one.  An infinity is close to nothing but itself. -/
def isClose (absolute x y : Binary64) : Bool :=
  if eqv x y then true
  else if x.isInfinite || y.isInfinite then false
  else
    let d := distance x y
    le d (absProduct relativeTolerance y) || le d (absProduct relativeTolerance x) || le d absolute

end Binary64

end Conformance
