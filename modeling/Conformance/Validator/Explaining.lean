import Conformance.Validator.Checking

/-!
# Explaining: why does a value not conform?

The check that explains goes on after a failure and notes every mismatch.

## Main Definitions

* `Explain.anyOf`, `Explain.arrayOf`, `Explain.object` — explaining checks put together
* `Validator.explain` — one layer of a validator
* `Env.explain` — a validator explained through its references, to a bounded depth
* `Env.report` — the mismatches of a whole value

## Design Notes

The failures of an alternative are collected aside: they are dropped when a later alternative
accepts the value, and otherwise become a group of the one mismatch of the choice.  Absence is judged
by the check that only answers yes or no, in both ways to walk.
-/

namespace Conformance

/-- A test, noting its mismatch when it fails. -/
def Test.explain (path : String) (t : Test) : Walk Bool := do
  if ← Walk.ofExcept t.holds then pure true else Walk.reject (t.mismatch path)

/-- All tests, noting the mismatch of each that fails. -/
def Test.explainAll (path : String) (tests : List Test) : Walk Bool :=
  Walk.every (Test.explain path) tests

/-- An explaining check under the name it has in messages. -/
structure Named where
  name : String
  check : Check

namespace Explain

/-- The failures of each alternative, or none as soon as one accepts.  An alternative that fails
without a mismatch of its own stands with its name. -/
def groups (v : Value) (path : String) : List Named → Walk (Option (List (List Mismatch)))
  | [] => pure (some [])
  | alternative :: rest => do
    let (accepted, found) ← (alternative.check v path).aside
    if accepted then pure none
    else
      let group := if found.isEmpty then
          [Mismatch.leaf path alternative.name alternative.name v.represent]
        else found
      return (← groups v path rest).map (group :: ·)

/-- A choice, with one group of mismatches for each alternative when all fail. -/
def anyOf (name : String) (alternatives : List Named) : Check := fun v path => do
  match ← groups v path alternatives with
  | none => pure true
  | some groups => Walk.reject ⟨path, "any_of", name, v.represent, groups⟩

/-- A sequence: its length, then each of its elements. -/
def arrayOf (least : Nat) (most : Option Nat) (item : Check) : Check := fun v path =>
  match v with
  | .seq _ _ items => do
    let fits ← if withinLengths least most items.length then pure true
      else Walk.reject (lengthMismatch path least most items.length)
    let conform ← Walk.every (fun (x, i) => item x (Path.index path i)) items.zipIdx
    pure (fits && conform)
  | _ => Walk.reject ((Leaf.sequenceTest v).mismatch path)

/-- The properties of a mapping, each by all the keys that are about it. -/
def entries (ps : List (Property Check)) (path : String) (entries : List (Value × Value)) : Walk Bool :=
  Walk.every (fun (key, item) =>
    let name := key.nameText
    Walk.every (fun p => p.rule item (Path.member path name)) (claimants ps name)) entries

/-- The number of properties that a key is about.  `absent` judges an absent property. -/
def count (absent : Property Validator → Walk Bool) (path : String) (names : List String)
    (p : Property Validator) : Walk Bool :=
  let n := p.key.count names
  match p.key.judge n with
  | .allowed => pure true
  | .violated expected => Walk.reject (countMismatch path expected n)
  | .absent => do
    if ← absent p then pure true else Walk.reject (requiredMismatch path p.key p.rule.name)

/-- A mapping: all its properties, then all keys. -/
def object (absent : Property Validator → Walk Bool) (keys : List (Property Validator))
    (ps : List (Property Check)) : Check := fun v path =>
  match v with
  | .mapping _ _ es => do
    let conform ← entries ps path es
    let counted ← Walk.every (count absent path (propertyNames es)) (specific keys)
    pure (conform && counted)
  | _ => Walk.reject ((Leaf.mappingTest v).mismatch path)

end Explain

namespace Validator

mutual

/-- A validator's explaining check, references and live delegates left to `follow`, and absent
properties to `absent`. -/
def explain (env : Env) (absent : Property Validator → Walk Bool) (follow : Validator → Check) :
    Validator → Check
  | leaf rule => fun v path => Test.explainAll path (rule.tests env.stepTolerance v)
  | delegate t => fun v path =>
    match env.slot t.id with
    | .validator h => follow h.validator v path
    | slot => Test.explain path (slot.test t v)
  | delegateTo _ copy => explain env absent follow copy
  | anyOf alternatives =>
    Explain.anyOf (name (anyOf alternatives)) (explainEach env absent follow alternatives)
  | object properties =>
    Explain.object absent properties (propertyExplains env absent follow properties)
  | arrayOf items least most => Explain.arrayOf least most (explain env absent follow items)
  | selfRef session => fun v path =>
    match session.bind env.root with
    | some root => follow root v path
    | none => do
      Walk.log (.referenceUnbound path)
      Walk.reject (.leaf path "self_reference" "a bound self-reference" v.represent)
  | external e => fun v _ => .ofExcept (e.verdict v)

/-- The explaining checks of alternatives, under their names. -/
def explainEach (env : Env) (absent : Property Validator → Walk Bool) (follow : Validator → Check) :
    List Validator → List Named
  | [] => []
  | v :: vs => ⟨name v, explain env absent follow v⟩ :: explainEach env absent follow vs

/-- The explaining checks under the keys of an object pattern. -/
def propertyExplains (env : Env) (absent : Property Validator → Walk Bool)
    (follow : Validator → Check) : List (Property Validator) → List (Property Check)
  | [] => []
  | ⟨key, label, rule⟩ :: ps =>
    ⟨key, label, explain env absent follow rule⟩ :: propertyExplains env absent follow ps

end

end Validator

namespace Env

/-- A validator's explaining check through all its references and delegates, of which at most
`depth` may lead to one another. -/
def explain (env : Env) : Nat → Validator → Check
  | 0, _ => fun _ _ => .fail .endless
  | depth + 1, v =>
    v.explain env (fun p => env.absence (depth + 1) p.key p.rule) (env.explain depth)

/-- The mismatch that stands for a fault. -/
def internalError (v : Validator) (f : Fault) : Mismatch :=
  .leaf Path.root "internal_error" v.name (f.kind ++ ": " ++ f.message)

/-- The mismatches of a walk over a whole value: none when it accepts, and at least one when it does
not.  A fault is a mismatch behind those that were noted before it. -/
def mismatchesOf (v : Validator) (x : Value) (w : Walk Bool) : List Mismatch :=
  match w.outcome with
  | .ok true => []
  | .ok false =>
    if w.found.isEmpty then [.leaf Path.root v.name v.name x.represent] else w.found
  | .error f => w.found ++ [internalError v f]

/-- **Explanation**: the events of the explaining walk, and the mismatches of a whole value. -/
def report (env : Env) (v : Validator) (x : Value) : List Event × List Mismatch :=
  let w := env.explain depthLimit v x Path.root
  let events := match w.outcome with
    | .ok _ => w.events
    | .error f => w.events ++ [crashed v f]
  (events, mismatchesOf v x w)

end Env

end Conformance
