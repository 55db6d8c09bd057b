import Conformance.Validator.Checking
import Conformance.Settings

/-!
# Descriptors of validators

A validator is described by a fragment of JSON Schema.

## Main Definitions

* `Described` — what is known of one key of an object pattern
* `describeObject` — the descriptor of an object pattern
* `Validator.describe` — one layer of a validator
* `Env.describe` — the descriptor of a validator
* `Env.descriptor` — the same with the dialect in front, if the settings ask for it

## Design Notes

A literal name becomes a member of `properties`, and is listed as required when the pattern under it
does not admit absence.  Any other name becomes a member of `patternProperties`, anchored at both
ends, and the quantifiers that JSON Schema has no words for stand in `x-quantifiers`.  Writing a
member twice keeps its place and its last content.
-/

namespace Conformance

/-- What is known of one key: the descriptor of what stands under it, and whether the name has to be
there. -/
structure Described where
  key : Key
  descriptor : Value
  required : Bool
  deriving Inhabited

/-- A name as a pattern for whole names. -/
def anchored (source : String) : String := "^(?:" ++ source ++ ")$"

/-- The key is written as a member of `properties`. -/
def Key.isProperty (k : Key) : Bool :=
  k.isLiteral && (k.quantifier = .exact || k.quantifier = .optional)

/-- The key asks for a judgement of its absence: it is unmarked and its name is literal. -/
def Key.asksAbsence (k : Key) : Bool := k.isLiteral && k.quantifier = .exact

/-- A dictionary under construction, with texts as keys. -/
def putMember (name : String) (v : Value) (members : List (Value × Value)) : List (Value × Value) :=
  Entries.insert (.text name) v members

/-- The parts of an object's descriptor under construction. -/
structure ObjectParts where
  /-- The members of the descriptor itself. -/
  own : List (Value × Value)
  properties : List (Value × Value)
  required : List Value
  patterns : List (Value × Value)
  quantifiers : List (Value × Value)
  deriving Inhabited

/-- Take one key in. -/
def ObjectParts.add (parts : ObjectParts) (d : Described) : ObjectParts :=
  if d.key.isCatchAll then
    { parts with own := putMember "additionalProperties" d.descriptor parts.own }
  else if d.key.isProperty then
    { parts with
      properties := putMember d.key.sourceText d.descriptor parts.properties
      required := if d.required then parts.required ++ [.text d.key.sourceText] else parts.required }
  else
    let pattern := anchored d.key.sourceText
    { parts with
      patterns := putMember pattern d.descriptor parts.patterns
      quantifiers :=
        if d.key.quantifier = .optional || d.key.quantifier = .atLeastOne then
          putMember pattern (.text d.key.quantifier.symbol) parts.quantifiers
        else parts.quantifiers }

/-- A member, unless it is empty. -/
def memberUnlessEmpty (name : String) (empty : Bool) (v : Value) : List (Value × Value) :=
  if empty then [] else [(.text name, v)]

/-- The descriptor of an object pattern, key by key. -/
def describeObject (ds : List Described) : Value :=
  let parts := ds.foldl ObjectParts.add ⟨[(.text "type", .text "object")], [], [], [], []⟩
  .dict <| parts.own ++
    memberUnlessEmpty "properties" parts.properties.isEmpty (.dict parts.properties) ++
    memberUnlessEmpty "required" parts.required.isEmpty (.list parts.required) ++
    memberUnlessEmpty "patternProperties" parts.patterns.isEmpty (.dict parts.patterns) ++
    memberUnlessEmpty "x-quantifiers" parts.quantifiers.isEmpty (.dict parts.quantifiers)

/-- The descriptor of an array. -/
def describeArray (least : Nat) (most : Option Nat) (items : Value) : Value :=
  .record <| [("type", .text "array"), ("items", items)] ++
    (if least = 0 then [] else [("minItems", .int least)]) ++
    match most with
    | none => []
    | some m => [("maxItems", .int m)]

namespace Validator

mutual

/-- The descriptor of a validator, live delegates left to `follow`, and absent properties to
`absent`. -/
def describe (env : Env) (absent : Key → Validator → Walk Bool) (follow : Validator → Walk Value) :
    Validator → Walk Value
  | leaf rule => pure rule.describe
  | delegate t =>
    match env.slot t.id with
    | .validator h => follow h.validator
    | _ => pure (.record [("x-delegate", .text t.name)])
  | delegateTo _ copy => describe env absent follow copy
  | anyOf alternatives => do
    return .record [("anyOf", .list (← describeEach env absent follow alternatives))]
  | object properties => return describeObject (← describeProperties env absent follow properties)
  | arrayOf items least most => return describeArray least most (← describe env absent follow items)
  | selfRef _ => pure (.record [("$ref", .text "#")])
  | external e => pure e.description

/-- The descriptors of alternatives. -/
def describeEach (env : Env) (absent : Key → Validator → Walk Bool)
    (follow : Validator → Walk Value) : List Validator → Walk (List Value)
  | [] => pure []
  | v :: vs => do
    let d ← describe env absent follow v
    return d :: (← describeEach env absent follow vs)

/-- What is known of each key of an object pattern. -/
def describeProperties (env : Env) (absent : Key → Validator → Walk Bool)
    (follow : Validator → Walk Value) : List (Property Validator) → Walk (List Described)
  | [] => pure []
  | ⟨key, _, rule⟩ :: ps => do
    let d ← describe env absent follow rule
    let required ← if key.asksAbsence then (!·) <$> absent key rule else pure false
    return ⟨key, d, required⟩ :: (← describeProperties env absent follow ps)

end

end Validator

namespace Env

/-- The descriptor of a validator, of whose delegates at most `depth` may lead to one another. -/
def describeTo (env : Env) : Nat → Validator → Walk Value
  | 0, _ => .fail .endless
  | depth + 1, v => v.describe env env.admitsAbsence (env.describeTo depth)

/-- The descriptor of a validator. -/
def describe (env : Env) (v : Validator) : Walk Value := env.describeTo depthLimit v

end Env

/-- A descriptor with its dialect in front, if the settings ask for it. -/
def Settings.declareDialect (settings : Settings) (descriptor : Value) : Value :=
  if settings.emitSchemaDialect then
    match descriptor with
    | .mapping _ _ entries =>
      .dict (entries.foldl (fun done (k, v) => Entries.insert k v done)
        [(.text "$schema", .text settings.schemaDialect)])
    | other => other
  else descriptor

end Conformance
