import Conformance.Validator.Leaf

/-!
# Building number rules

## Main Definitions

* `Bounds.atLeast`, `Bounds.atMost`, `Bounds.above`, `Bounds.below` — bounds that only ever narrow
* `Bounds.multipleOf` — a further step

A bound that is set already is replaced only by one that is strictly narrower.
-/

namespace Conformance

/-- A value that is a number; truth values are none. -/
def Value.number? : Value → Option Num
  | .number n => some n
  | _ => none

namespace Bounds

/-- The argument of a call, which has to be a number. -/
def argument (call : String) (v : Value) : Except BuilderError Num :=
  match v.number? with
  | some n => .ok n
  | none => .error (.notNumber call v)

/-- The larger of two lower bounds, the first unless the second is strictly larger. -/
def raise (current : Option Num) (bound : Num) : Num :=
  match current with
  | none => bound
  | some c => if c.lt bound then bound else c

/-- The smaller of two upper bounds, the first unless the second is strictly smaller. -/
def lower (current : Option Num) (bound : Num) : Num :=
  match current with
  | none => bound
  | some c => if bound.lt c then bound else c

/-- An inclusive lower bound. -/
def atLeast (b : Bounds) (v : Value) : Except BuilderError Bounds := do
  let n ← argument "min" v
  return { b with minimum := some (raise b.minimum n) }

/-- An inclusive upper bound. -/
def atMost (b : Bounds) (v : Value) : Except BuilderError Bounds := do
  let n ← argument "max" v
  return { b with maximum := some (lower b.maximum n) }

/-- An exclusive lower bound. -/
def above (b : Bounds) (v : Value) : Except BuilderError Bounds := do
  let n ← argument "above" v
  return { b with exclusiveMinimum := some (raise b.exclusiveMinimum n) }

/-- An exclusive upper bound. -/
def below (b : Bounds) (v : Value) : Except BuilderError Bounds := do
  let n ← argument "below" v
  return { b with exclusiveMaximum := some (lower b.exclusiveMaximum n) }

/-- A positive number that values have to be multiples of. -/
def multipleOf (b : Bounds) (v : Value) : Except BuilderError Bounds := do
  let n ← argument "step" v
  if n.isPositive then return { b with steps := b.steps ++ [n] }
  else throw (.stepNotPositive v)

end Bounds

end Conformance
