import Conformance.Session.Store
import Conformance.Builder.Call
import Conformance.Descriptor.Decoding

/-!
# Schemas: the operations on patterns, validators and descriptors

## Main Definitions

* `Schema.compile`, `Schema.fragment` — a pattern compiled with a session of its own, or without one
* `Schema.decode` — a descriptor read back
* `Schema.describe`, `Schema.descriptor` — a validator described
* `Schema.validate`, `Schema.report` — a value judged
* `Schema.call` — a builder refined
* `Schema.part`, `Schema.admitsAbsence` — the keys of an object pattern

Each is an `Action`: it logs what it does and may change the store.
-/

namespace Conformance.Schema

/-- **Compile a pattern** with a session of its own, so that its references mean the result. -/
def compile (host : Host) (pattern : Pattern) : Action Handle := do
  let session ← Action.begin
  let v ← Action.ofExcept (pattern.compile host.slot (some session) false)
  let root ← match pattern with
    | .validator h => pure h
    | _ => Action.hold v
  let bound ← Action.bindRoot host session root
  let kind ← Action.ofExcept ((pattern.kind host.slot false).mapError .compile)
  Action.log (.patternCompiled kind.name bound.validator.typeName)
  return bound

/-- Compile a pattern without a session: its references wait for the schema that takes it in. -/
def fragment (host : Host) (pattern : Pattern) : Action Handle := do
  let v ← Action.ofExcept (pattern.compile host.slot none false)
  match pattern with
  | .validator h => return h
  | _ => Action.hold v

/-- Log the refusal of a descriptor. -/
def logRefused (e : DecodeError) : Action Unit :=
  Action.log (.descriptorRefused e.cause.code.name e.cause.message e.pointer)

/-- **Read a descriptor**, given as a value or as a JSON text, with a session of its own. -/
def decode (host : Host) (document : Value) : Action Handle := do
  let descriptor ← Action.ofExcept (Descriptor.ofDocument document)
  let session ← Action.begin
  match Descriptor.decode session descriptor with
  | .error (.decode e) => do
    logRefused e
    Action.refuse (.decode e)
  | .error other => Action.refuse other
  | .ok v => do
    let root ← Action.hold v
    let bound ← Action.bindRoot host session root
    Action.log (.descriptorDecoded bound.validator.typeName)
    return bound

/-- The descriptor of a validator. -/
def describe (host : Host) (h : Handle) : Action Value := do
  let s ← Action.store
  Action.ofWalk ((s.env host).describe h.validator)

/-- The descriptor of a validator, its dialect declared if the settings ask for it. -/
def descriptor (host : Host) (h : Handle) : Action Value := do
  return host.settings.declareDialect (← describe host h)

/-- The descriptor of a pattern, which is compiled first unless it is a validator. -/
def descriptorOf (host : Host) (pattern : Pattern) : Action Value := do
  match pattern with
  | .validator h => descriptor host h
  | other => descriptor host (← compile host other)

/-- Whether a value conforms. -/
def validate (host : Host) (h : Handle) (x : Value) : Action Bool := do
  let s ← Action.store
  Action.ofWalk ((s.env host).validate h.validator x)

/-- Why a value does not conform. -/
def report (host : Host) (h : Handle) (x : Value) : Action (List Mismatch) := do
  let s ← Action.store
  let (events, mismatches) := (s.env host).report h.validator x
  Action.logAll events
  return mismatches

/-- The validator that a call on a builder gives. -/
def call (host : Host) (h : Handle) (name : String) (args : List Pattern) : Action Handle := do
  let v ← Action.ofExcept (Builder.call host.slot host.settings h.validator name args)
  Action.hold v

/-- The keys of an object pattern; no other validator has any. -/
def properties (h : Handle) : Option (List (Property Validator)) :=
  match h.validator with
  | .object ps => some ps
  | _ => none

/-- What stands under one key of an object pattern, with its identity. -/
def part (h : Handle) (i : Nat) : Option Handle := do
  let p ← (← properties h)[i]?
  return ⟨p.label.getD (h.label.child i), p.rule⟩

/-- Whether what stands under a key admits absence. -/
def admitsAbsence (host : Host) (p : Property Validator) : Action Bool := do
  let s ← Action.store
  Action.ofWalk ((s.env host).admitsAbsence p.key p.rule)

end Conformance.Schema
