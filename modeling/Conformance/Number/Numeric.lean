import Conformance.Number.Binary64
import Conformance.Fault

/-!
# Numbers: integers and floats together

A number of the value language is an integer of any size or a float.  The two kinds compare by
value, exactly at any size, and never by converting one into the other.

## Main Definitions

* `Num` — an integer or a float
* `Num.compare?` — the order across both kinds
* `Num.isMultiple` — divisibility: exact between integers, within a tolerance as soon as one side
  is a float
-/

namespace Conformance

/-- A number: an integer of any size, or a float. -/
inductive Num where
  | int (n : Int)
  | float (x : Binary64)
  deriving DecidableEq, Repr, Inhabited

namespace Num

/-- The value as a sign, a significand of any size and a power of two.  An integer keeps all its
digits here, so comparisons through this view are exact. -/
def exact : Num → Binary64
  | int n => .finite (n < 0) n.natAbs 0
  | float x => x

/-- The order of two numbers by value, and none when one is not a number. -/
def compare? (a b : Num) : Option Ordering := Binary64.compare? a.exact b.exact

/-- Equal values, across both kinds. -/
def eqv (a b : Num) : Bool := compare? a b == some .eq

/-- `a < b`; false when one side is not a number. -/
def lt (a b : Num) : Bool := compare? a b == some .lt

/-- `a ≤ b`; false when one side is not a number. -/
def le (a b : Num) : Bool := lt a b || eqv a b

/-- Different from zero. -/
def isNonzero (a : Num) : Bool := a.exact.isNonzero

/-- Greater than zero. -/
def isPositive (a : Num) : Bool := lt (int 0) a

/-- The float nearest to a number; an integer beyond the range of floats has none. -/
def toFloat : Num → Except Fault Binary64
  | float x => .ok x
  | int n =>
    match Binary64.ofInt n with
    | .infinite _ => .error .beyondFloat
    | x => .ok x

/-- **Divisibility.**  Between integers the remainder decides.  With a float on either side both
are taken as floats, and the remainder has to be close to zero or to the whole step; what is not
finite is a multiple of nothing. -/
def isMultiple (tolerance : Binary64) (value step : Num) : Except Fault Bool := do
  match value, step with
  | int n, int s => return n % s = 0
  | _, _ =>
    let x ← value.toFloat
    if !x.isFinite then return false
    let s ← step.toFloat
    let r := Binary64.fmod x s
    if Binary64.lt tolerance (Binary64.zero false) then throw .negativeTolerance
    return Binary64.isClose tolerance r (Binary64.zero false) || Binary64.isClose tolerance r.abs s

end Num

end Conformance
