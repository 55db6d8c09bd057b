import Conformance.Validator.ObjectRule

/-!
# Checking: does a value conform?

The check that only answers yes or no stops as soon as the answer is certain.

## Main Definitions

* `Check` — a walk for every value and path
* `Check.anyOf`, `Check.arrayOf`, `Check.object` — checks put together from checks
* `Validator.check` — one layer of a validator, down to the references and delegates in it
* `Env.check` — a validator checked through its references, to a bounded depth
* `Env.validate` — the answer for a whole value

## Design Notes

`Validator.check` is recursive on the validator alone.  Where it meets a reference or a live
delegate it hands on to `follow`, and `Env.check` ties the knot: each step through a reference or a
delegate uses up one unit of depth, and `depthLimit` such steps on the way to one place count as a
recursion without end.
-/

namespace Conformance

/-- A walk for every value, at the path where it is found. -/
abbrev Check := Value → String → Walk Bool

/-- The number of steps through references and delegates after which a walk is taken to be
endless. -/
def depthLimit : Nat := 1000

/-- Tests one after another, up to the first that fails. -/
def Test.checkAll (tests : List Test) : Walk Bool := Walk.all (fun t => .ofExcept t.holds) tests

/-- The test that a function of the host puts on a value.  It is never asked about absence. -/
def Target.test (t : Target) (v : Value) (verdict : Value → Except Fault Bool) : Test :=
  ⟨"schema", "schema of " ++ t.name, v.represent,
    match v with
    | .missing => .ok false
    | v => verdict v⟩

/-- The test that the `schema` of an object puts on a value when it is no validator. -/
def Slot.test (t : Target) (v : Value) : Slot → Test
  | .function verdict => t.test v verdict
  | .other typeName => t.test v fun _ => .error (.notCallable typeName)
  | _ => ⟨"schema", "schema of " ++ t.name, v.represent, .error (.noSuchMember t.name "schema")⟩

namespace Check

/-- Accept what one of several checks accepts. -/
def anyOf (checks : List Check) : Check := fun v path => Walk.any (fun c => c v path) checks

/-- Accept sequences within two lengths of whose elements a check accepts each. -/
def arrayOf (least : Nat) (most : Option Nat) (item : Check) : Check := fun v path =>
  match v with
  | .seq _ _ items =>
    if withinLengths least most items.length then
      Walk.all (fun (x, i) => item x (Path.index path i)) items.zipIdx
    else pure false
  | _ => pure false

/-- The properties of a mapping, each by all the keys that are about it. -/
def entries (ps : List (Property Check)) (path : String) (entries : List (Value × Value)) : Walk Bool :=
  Walk.all (fun (key, item) =>
    let name := key.nameText
    Walk.all (fun p => p.rule item (Path.member path name)) (claimants ps name)) entries

/-- The number of properties that a key is about. -/
def count (names : List String) (p : Property Check) : Walk Bool :=
  match p.key.judge (p.key.count names) with
  | .allowed => pure true
  | .violated _ => pure false
  | .absent => absenceWalk p.key (p.rule .missing "")

/-- Accept mappings whose properties conform to the keys about them, in the right numbers. -/
def object (ps : List (Property Check)) : Check := fun v path =>
  match v with
  | .mapping _ _ es => do
    if ← entries ps path es then Walk.all (count (propertyNames es)) (specific ps) else pure false
  | _ => pure false

end Check

namespace Validator

mutual

/-- A validator's check, references and live delegates left to `follow`. -/
def check (env : Env) (follow : Validator → Check) : Validator → Check
  | leaf rule => fun v _ => Test.checkAll (rule.tests env.stepTolerance v)
  | delegate t => fun v path =>
    match env.slot t.id with
    | .validator h => follow h.validator v path
    | slot => Test.checkAll [slot.test t v]
  | delegateTo _ copy => check env follow copy
  | anyOf alternatives => .anyOf (checks env follow alternatives)
  | object properties => .object (propertyChecks env follow properties)
  | arrayOf items least most => .arrayOf least most (check env follow items)
  | selfRef session => fun v path =>
    match session.bind env.root with
    | some root => follow root v path
    | none => do
      Walk.log (.referenceUnbound path)
      pure false
  | external e => fun v _ => .ofExcept (e.verdict v)

/-- The checks of validators. -/
def checks (env : Env) (follow : Validator → Check) : List Validator → List Check
  | [] => []
  | v :: vs => check env follow v :: checks env follow vs

/-- The checks under the keys of an object pattern. -/
def propertyChecks (env : Env) (follow : Validator → Check) :
    List (Property Validator) → List (Property Check)
  | [] => []
  | ⟨key, label, rule⟩ :: ps => ⟨key, label, check env follow rule⟩ :: propertyChecks env follow ps

end

end Validator

namespace Env

/-- A validator's check through all its references and delegates, of which at most `depth` may lead
to one another. -/
def check (env : Env) : Nat → Validator → Check
  | 0, _ => fun _ _ => .fail .endless
  | depth + 1, v => v.check env (env.check depth)

/-- The check of a property that is absent, to a depth. -/
def absence (env : Env) (depth : Nat) (key : Key) (v : Validator) : Walk Bool :=
  absenceWalk key (env.check depth v .missing "")

/-- The check of a property that is absent. -/
def admitsAbsence (env : Env) (key : Key) (v : Validator) : Walk Bool :=
  env.absence depthLimit key v

/-- The event of a check that a fault has ended. -/
def crashed (v : Validator) (f : Fault) : Event := .validationCrashed v.name f.message f.kind

/-- **Validation**: a value conforms when the check accepts it, and a fault is non-conformance. -/
def validate (env : Env) (v : Validator) (x : Value) : Walk Bool :=
  (env.check depthLimit v x Path.root).guarded (crashed v)

end Env

end Conformance
