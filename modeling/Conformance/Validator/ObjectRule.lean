import Conformance.Validator.Basic

/-!
# The rule of object patterns

Which keys are about a property, and what the number of properties that a key is about says.  Both
are shared by the two ways to check a value.

## Main Definitions

* `claimants` — the keys that are about a property: all that match its name, and the catch-all key
  where none does
* `specific` — the keys other than the catch-all
* `Key.judge` — whether a number of properties is what a key allows
* `requiredMismatch`, `countMismatch` — the mismatches of a key that is not satisfied
-/

namespace Conformance

variable {V : Type}

/-- The keys of an object pattern other than the catch-all. -/
def specific (ps : List (Property V)) : List (Property V) := ps.filter fun p => !p.key.isCatchAll

/-- **The keys that are about a property**: all specific ones that match its name, and where there is
none the first catch-all key. -/
def claimants (ps : List (Property V)) (name : String) : List (Property V) :=
  match (specific ps).filter fun p => p.key.claims name with
  | [] => (ps.find? fun p => p.key.isCatchAll).toList
  | claiming => claiming

/-- The names of the properties of a mapping, one for each entry. -/
def propertyNames (entries : List (Value × Value)) : List String := entries.map fun e => e.1.nameText

/-- What a number of properties means to a key. -/
inductive CountVerdict where
  | allowed
  /-- More or fewer than the quantifier allows. -/
  | violated (expected : String)
  /-- A literal name is absent: the pattern under it decides. -/
  | absent
  deriving DecidableEq, Repr, Inhabited

namespace Key

/-- The number of properties a key is about. -/
def count (k : Key) (names : List String) : Nat := names.countP k.claims

/-- Judge the number of properties a key is about. -/
def judge (k : Key) (count : Nat) : CountVerdict :=
  match k.quantifier with
  | .optional =>
    if 1 < count then .violated s!"at most one property matching /{k.sourceText}/" else .allowed
  | .atLeastOne =>
    if count = 0 then .violated s!"at least one property matching /{k.sourceText}/" else .allowed
  | .exact => if k.isLiteral && count = 0 then .absent else .allowed
  | .any => .allowed
  | .catchAll => .allowed

end Key

/-- The mismatch of a key whose count is violated. -/
def countMismatch (path expected : String) (count : Nat) : Mismatch :=
  .leaf path "quantifier" expected s!"{count} matching properties"

/-- The mismatch of a literal name that is absent. -/
def requiredMismatch (path : String) (k : Key) (ruleName : String) : Mismatch :=
  .leaf (Path.member path k.sourceText) "required"
    s!"property {Text.quote k.sourceText} ({ruleName})" Value.missing.represent

/-- The walk on an absent property, ended by a fault with `false`. -/
def absenceWalk (k : Key) (w : Walk Bool) : Walk Bool :=
  w.guarded fun f => .absenceCheckCrashed k.written f.message f.kind

/-- A number of elements within two lengths. -/
def withinLengths (least : Nat) (most : Option Nat) (length : Nat) : Bool :=
  least ≤ length && most.all fun m => length ≤ m

/-- The mismatch of a sequence of the wrong length. -/
def lengthMismatch (path : String) (least : Nat) (most : Option Nat) (length : Nat) : Mismatch :=
  let upper := match most with
    | none => ""
    | some m => toString m
  .leaf path "length" s!"length {least}..{upper}" s!"length {length}"

end Conformance
