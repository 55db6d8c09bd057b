import Conformance.Validator.Checking

/-!
# Rebinding references

A fragment is compiled before it is known which schema it will be part of, and its references belong
to no session.  A session that takes the fragment in works on a copy in which these references are
its own.

## Main Definitions

* `Rebound` — the copy, if there is anything to change, and the number of references taken over
* `Validator.rebind` — one layer of a validator
* `Validator.rebindTo` — a validator rebound through its delegates

## Design Notes

A part without references of no session stays the very part it was: the result says so by holding no
copy of it.  Under the keys of an object pattern such a part keeps its identity in the copy, either
the one it was taken in with or its place in the validator that was copied.
-/

namespace Conformance

/-- The place of a part under a validator's own label. -/
def Label.child (l : Label) (i : Nat) : Label := ⟨l.base, l.path ++ [i]⟩

/-- The outcome of rebinding: how many references were taken over, and the copy, or none when
nothing had to change. -/
structure Rebound (α : Type) where
  adopted : Nat
  copy : Option α
  deriving Inhabited

namespace Rebound

variable {α β : Type}

/-- Nothing had to change. -/
def unchanged : Rebound α := ⟨0, none⟩

/-- The copy of a whole made from the copy of its only part. -/
def map (f : α → β) (r : Rebound α) : Rebound β := ⟨r.adopted, r.copy.map f⟩

/-- The copy of a list from the copies of its head and its tail. -/
def cons (a : α) (as : List α) (head : Rebound α) (tail : Rebound (List α)) : Rebound (List α) :=
  ⟨head.adopted + tail.adopted,
    if head.copy.isNone && tail.copy.isNone then none
    else some (head.copy.getD a :: tail.copy.getD as)⟩

end Rebound

namespace Validator

/-- The identities that parts under the keys of an object pattern keep in a copy, the first key being
the `i`-th. -/
def keepPlaces (label : Option Label) (i : Nat) (ps : List (Property Validator)) :
    List (Property Validator) :=
  (ps.zipIdx i).map fun (p, i) => { p with label := p.label <|> label.map (·.child i) }

mutual

/-- A validator with its references of no session made references of `session`, live delegates left
to `follow`.  `label` is the identity of the validator itself, if it has one. -/
def rebind (slot : Nat → Slot) (session : Nat)
    (follow : Validator → Except Fault (Rebound Validator)) (label : Option Label) :
    Validator → Except Fault (Rebound Validator)
  | leaf _ => .ok .unchanged
  | delegate t =>
    match slot t.id with
    | .validator h => return (← follow h.validator).map (delegateTo t)
    | _ => .ok .unchanged
  | delegateTo t copy => return (← rebind slot session follow none copy).map (delegateTo t)
  | anyOf alternatives => return (← rebindEach slot session follow alternatives).map anyOf
  | object properties =>
    return (← rebindProperties slot session follow label 0 properties).map object
  | arrayOf items least most =>
    return (← rebind slot session follow none items).map fun items => arrayOf items least most
  | selfRef (some _) => .ok .unchanged
  | selfRef none => .ok ⟨1, some (selfRef (some session))⟩
  | external _ => .ok .unchanged

/-- Alternatives with their references rebound. -/
def rebindEach (slot : Nat → Slot) (session : Nat)
    (follow : Validator → Except Fault (Rebound Validator)) :
    List Validator → Except Fault (Rebound (List Validator))
  | [] => .ok .unchanged
  | v :: vs => do
    let head ← rebind slot session follow none v
    let tail ← rebindEach slot session follow vs
    return Rebound.cons v vs head tail

/-- What stands under the keys of an object pattern, rebound, the first key being the `i`-th. -/
def rebindProperties (slot : Nat → Slot) (session : Nat)
    (follow : Validator → Except Fault (Rebound Validator)) (label : Option Label) (i : Nat) :
    List (Property Validator) → Except Fault (Rebound (List (Property Validator)))
  | [] => .ok .unchanged
  | ⟨key, own, rule⟩ :: ps => do
    let place := own <|> label.map (·.child i)
    let head ← rebind slot session follow place rule
    let tail ← rebindProperties slot session follow label (i + 1) ps
    return Rebound.cons ⟨key, place, rule⟩
      (if tail.copy.isNone then keepPlaces label (i + 1) ps else ps)
      (head.map fun copy => ⟨key, none, copy⟩) tail

end

/-- A validator rebound to a session through its delegates, of which at most `depth` may lead to one
another. -/
def rebindTo (slot : Nat → Slot) (session : Nat) :
    Nat → Option Label → Validator → Except Fault (Rebound Validator)
  | 0, _, _ => .error .endless
  | depth + 1, label, v => rebind slot session (rebindTo slot session depth none) label v

end Validator

end Conformance
