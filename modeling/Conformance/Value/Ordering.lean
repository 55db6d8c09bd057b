import Conformance.Value.Equality
import Conformance.Fault

/-!
# Sorting values

## Main Definitions

* `Value.order?` — the order of two values, for those that have one
* `Value.sort?` — a list of values in ascending order

Texts are ordered by code points, numbers and truth values by value, strings of bytes member by
member, and tuples by the first members that are not equal as keys.  Members in front of those need no
order of their own.  Values of different kinds have no order.
-/

namespace Conformance.Value

/-- The order of two lists, member by member. -/
def lexicographic {α : Type} (order : α → α → Option Ordering) : List α → List α → Option Ordering
  | [], [] => some .eq
  | [], _ :: _ => some .lt
  | _ :: _, [] => some .gt
  | x :: xs, y :: ys =>
    match order x y with
    | some .eq => lexicographic order xs ys
    | other => other

mutual

/-- The order of two values, if they have one. -/
def order? : Value → Value → Option Ordering
  | text a, text b => some (compare a b)
  | bytes a, bytes b => lexicographic (fun x y => some (compare x.toNat y.toNat)) a b
  | bool a, bool b => some (compare a.toNat b.toNat)
  | bool a, number n => some (((Num.int a.toNat).compare? n).getD .eq)
  | number n, bool b => some ((n.compare? (.int b.toNat)).getD .eq)
  | number m, number n => some ((m.compare? n).getD .eq)
  | seq .tuple _ xs, seq .tuple _ ys => orderAll? xs ys
  | _, _ => none

/-- The order of two tuples: that of the first members that differ, and that of their lengths where
none do. -/
def orderAll? : List Value → List Value → Option Ordering
  | [], [] => some .eq
  | [], _ :: _ => some .lt
  | _ :: _, [] => some .gt
  | x :: xs, y :: ys => if keyEq x y then orderAll? xs ys else order? x y

end

/-- A value put in front of the first one that is not smaller. -/
def insertSorted (v : Value) : List Value → Except Fault (List Value)
  | [] => .ok [v]
  | w :: ws =>
    match order? w v with
    | some .lt => return w :: (← insertSorted v ws)
    | some _ => .ok (v :: w :: ws)
    | none => .error .unordered

/-- A list of values in ascending order. -/
def sort? : List Value → Except Fault (List Value)
  | [] => .ok []
  | v :: vs => do insertSorted v (← sort? vs)

end Conformance.Value
