import Conformance.Validator.Leaf
import Conformance.Key
import Conformance.Walk

/-!
# Validators

## Main Definitions

* `Validator` — a compiled pattern: leaf rules, choices, object patterns, arrays, delegates and
  references
* `Property` — one key of an object pattern with what stands under it
* `Handle` — a validator with its identity
* `Slot`, `Env` — the surroundings a validator is checked in
* `Validator.name`, `Validator.typeName` — a validator in messages

## Design Notes

A validator is a finite tree.  What makes schemas recursive is kept out of it: a reference only
names the session that made it, and a delegate only names an object of the host.  Both lead to
another validator through the surroundings, `Env`.
-/

namespace Conformance

/-- An object of the host that takes part as a validator through its `schema`. -/
structure Target where
  id : Nat
  /-- The name of the object in messages. -/
  name : String
  deriving DecidableEq, Repr, Inhabited

/-- A validator made by the host, known by what it answers. -/
structure External where
  typeName : String
  name : String
  verdict : Value → Except Fault Bool
  description : Value

/-- One key of an object pattern, with what stands under it. -/
structure Property (V : Type) where
  key : Key
  /-- The identity of what stands under the key, when it was taken in as it was. -/
  label : Option Label
  rule : V
  deriving Repr, Inhabited

/-- A compiled pattern. -/
inductive Validator where
  | leaf (rule : Leaf)
  /-- What the `schema` of an object of the host says now. -/
  | delegate (target : Target)
  /-- A copy of the validator that the `schema` of an object was when the copy was made. -/
  | delegateTo (target : Target) (copy : Validator)
  /-- One of several alternatives. -/
  | anyOf (alternatives : List Validator)
  | object (properties : List (Property Validator))
  /-- A sequence with a number of elements within two lengths. -/
  | arrayOf (items : Validator) (least : Nat) (most : Option Nat)
  /-- The root of a session, or of none yet. -/
  | selfRef (session : Option Nat)
  | external (e : External)

instance : Inhabited Validator := ⟨.leaf .anything⟩

namespace Validator

/-- The name of the kind of a validator. -/
def typeName : Validator → String
  | leaf rule => rule.typeName
  | delegate _ => "DelegatingValidator"
  | delegateTo .. => "DelegatingValidator"
  | anyOf _ => "AnyOfValidator"
  | object _ => "ObjectPatternValidator"
  | arrayOf .. => "ArrayValidator"
  | selfRef _ => "SelfReferenceValidator"
  | external e => e.typeName

/-- The lengths of an array in messages. -/
def lengthText (least : Nat) : Option Nat → String
  | none => if least = 0 then "" else s!"{least}+"
  | some most => if least = most then s!"{least}" else s!"{least}..{most}"

mutual

/-- The name of a validator in messages. -/
def name : Validator → String
  | leaf rule => rule.name
  | delegate t => "schema of " ++ t.name
  | delegateTo t _ => "schema of " ++ t.name
  | anyOf alternatives => "one of [" ++ String.intercalate ", " (names alternatives) ++ "]"
  | object properties =>
    "object \x7b" ++ String.intercalate ", " (properties.map fun p => Text.quote p.key.written) ++ "\x7d"
  | arrayOf items least most =>
    let length := lengthText least most
    "array of " ++ (if length.isEmpty then "" else length ++ " ") ++ name items
  | selfRef _ => "self"
  | external e => e.name

/-- The names of validators. -/
def names : List Validator → List String
  | [] => []
  | v :: vs => name v :: names vs

end

/-- The written form of a validator. -/
def render (v : Validator) : String := s!"<{v.typeName} {v.name}>"

end Validator

/-- A validator with its identity. -/
structure Handle where
  label : Label
  validator : Validator
  deriving Inhabited

/-- A validator as a value. -/
def Handle.face (h : Handle) : ValidatorFace := ⟨h.label, h.validator.typeName, h.validator.name⟩

/-- What the `schema` of an object of the host is. -/
inductive Slot where
  /-- There is none. -/
  | absent
  /-- Looking for it fails. -/
  | failing
  | validator (h : Handle)
  /-- A function, whose result counts by its truth. -/
  | function (verdict : Value → Except Fault Bool)
  /-- Something that is no validator and cannot be called. -/
  | other (typeName : String)

/-- The surroundings a validator is checked in. -/
structure Env where
  /-- The roots of the sessions. -/
  root : Nat → Option Validator
  /-- The `schema` of each object of the host. -/
  slot : Nat → Slot
  /-- How far a remainder may be from a multiple of a step. -/
  stepTolerance : Binary64

end Conformance
