import Conformance.Descriptor.StringRule
import Conformance.Builder.Number
import Conformance.Validator.Describing
import Conformance.Value.Ordering
import Conformance.Json.Reading

/-!
# Decoding descriptors

A descriptor is a fragment of JSON Schema; the fragments that describe a validator are read back
into one.

## Main Definitions

* `Descriptor.decodeNode` — one node of a descriptor, the nodes inside it left to `decode`
* `Descriptor.decode` — a whole descriptor
* `Descriptor.ofDocument` — a descriptor given as a value or as a JSON text

## Design Notes

The first keyword in a fixed order decides what a node is; every other keyword that is no annotation
has to belong to it.  A node is read under its pointer, which a refusal names.

Descriptors are taken as they come.  Where one holds something that JSON cannot hold, such as a
mapping with numbers as keys, it may end in a fault instead of a refusal.
-/

namespace Conformance.Descriptor

/-- The keywords that say nothing about values. -/
def annotations : List String :=
  ["$schema", "$id", "$comment", "title", "description", "default", "examples"]

/-- The keywords that name classes, objects and functions of the host, in ascending order. -/
def identityKeywords : List String := ["x-delegate", "x-instanceOf", "x-reference"]

/-- Members of a mapping. -/
abbrev Members := List (Value × Value)

/-- The member of a name. -/
def member? (name : String) (ms : Members) : Option Value := Entries.find? (.text name) ms

/-- A value is one of some texts. -/
def isOneOf (names : List String) : Value → Bool
  | .text s => names.contains s
  | _ => false

/-- The keywords of a node that are no annotations. -/
def keywords (ms : Members) : List Value :=
  (ms.map Prod.fst).filter fun k => !isOneOf annotations k

/-- Refuse a place of a descriptor. -/
def refuse {α : Type} (pointer : String) (cause : DecodeCause) : Except Refusal α :=
  .error (.decode ⟨cause, some pointer⟩)

/-- A fault in a place of a descriptor. -/
def fault {α : Type} (f : Fault) : Except Refusal α := .error (.fault f)

/-- A result that may be a fault. -/
def ofFault {α : Type} (r : Except Fault α) : Except Refusal α := r.mapError .fault

/-- Refuse keywords other than some. -/
def only (pointer : String) (allowed : List String) (ms : Members) : Except Refusal Unit := do
  let extra := (keywords ms).filter fun k => !isOneOf allowed k
  if extra.isEmpty then return
  else refuse pointer (.unsupportedKeywords (← ofFault (Value.sort? extra)))

/-! ## Leaves -/

/-- A constant. -/
def decodeConst : Value → Validator
  | .bool b => .leaf (.equals (.bool b))
  | .number n => .leaf (.equals (.number n))
  | .text s => .leaf (.equals (.text s))
  | v => .leaf (.literal v)

/-- An enumeration.  Without a type it holds literals; with the type of sequences or of mappings it
holds a single one. -/
def decodeEnum (pointer : String) (ms : Members) (values : Value) : Except Refusal Validator := do
  only pointer ["enum", "type"] ms
  match values with
  | .seq .list _ (v :: vs) =>
    match (member? "type" ms).getD .null with
    | .null =>
      if vs.isEmpty then return .leaf (.literal v)
      else return .anyOf ((v :: vs).map fun x => .leaf (.literal x))
    | type =>
      if !type.isHashable then fault (.unhashable type.typeName)
      if isOneOf ["array"] type && vs.isEmpty then return .leaf (.sequenceLike v)
      else if isOneOf ["object"] type && vs.isEmpty then return .leaf (.mappingLike v)
      else refuse pointer (.enumWithType type)
  | _ => refuse pointer .enumNotList

/-- A regex, from a source that is not the one of a string rule. -/
def decodeRegex (pointer source : String) : Except Refusal Validator :=
  match Regex.ofSource source .none with
  | .ok r => .ok (.leaf (.regex r))
  | .error .invalid => refuse pointer (.invalidPattern source)
  | .error (.fault f) => fault f

/-- A string, with a pattern or without.  A pattern of the shape of a string rule is one, as long as
its character set makes a valid regex. -/
def decodeString (pointer : String) (ms : Members) : Except Refusal Validator := do
  only pointer ["type", "pattern"] ms
  match member? "pattern" ms with
  | none => return .leaf .string
  | some (.text source) =>
    match StringRule.split? source with
    | none => decodeRegex pointer source
    | some (charset, counts) =>
      let (least, most) ← ofFault (StringRule.lengths counts)
      match CharsetRule.make charset least most with
      | .ok rule => return .leaf (.stringOf rule)
      | .error (.compile _) => decodeRegex pointer source
      | .error other => throw other
  | some _ => refuse pointer .patternNotText

/-- A number under a keyword. -/
def numberUnder (pointer keyword : String) (v : Value) : Except Refusal Num :=
  match v.number? with
  | some n => .ok n
  | none => refuse pointer (.notNumber keyword v)

/-- A number under a keyword that may be absent. -/
def numberMember (pointer keyword : String) (ms : Members) : Except Refusal (Option Num) :=
  match member? keyword ms with
  | none => .ok none
  | some v => (numberUnder pointer keyword v).map some

/-- Further steps. -/
def stepList (pointer : String) (ms : Members) : Except Refusal (List Num) :=
  match member? "x-multipleOf" ms with
  | none => .ok []
  | some (.seq .list _ vs) => vs.mapM (numberUnder pointer "x-multipleOf")
  | some _ => refuse pointer .stepsNotList

/-- A number with bounds and steps. -/
def decodeNumber (pointer : String) (ms : Members) : Except Refusal Validator := do
  only pointer ["type", "minimum", "maximum", "exclusiveMinimum", "exclusiveMaximum", "multipleOf",
    "x-multipleOf"] ms
  let minimum ← numberMember pointer "minimum" ms
  let maximum ← numberMember pointer "maximum" ms
  let exclusiveMinimum ← numberMember pointer "exclusiveMinimum" ms
  let exclusiveMaximum ← numberMember pointer "exclusiveMaximum" ms
  let step ← numberMember pointer "multipleOf" ms
  let steps := step.toList ++ (← stepList pointer ms)
  if steps.all Num.isPositive then
    return .leaf (.number ⟨minimum, maximum, exclusiveMinimum, exclusiveMaximum, steps⟩)
  else refuse pointer .stepNotPositive

/-- A node that is told by its type alone. -/
def decodeSimple (pointer : String) (ms : Members) (rule : Leaf) : Except Refusal Validator := do
  only pointer ["type"] ms
  return .leaf rule

/-! ## Nodes with nodes inside -/

/-- The reader of a node at a pointer. -/
abbrev NodeReader := Value → String → Except Refusal Validator

/-- The nodes of a list, each under its index. -/
def decodeEach (decode : NodeReader) (pointer : String) : Nat → List Value → Except Refusal (List Validator)
  | _, [] => .ok []
  | i, v :: vs => do
    let d ← decode v s!"{pointer}/{i}"
    return d :: (← decodeEach decode pointer (i + 1) vs)

/-- A length under a keyword. -/
def lengthUnder (pointer keyword : String) (v : Value) : Except Refusal Nat :=
  match v.length? with
  | some n => .ok n
  | none => refuse pointer (.notLength keyword v)

/-- An array, with elements and lengths or bare. -/
def decodeArray (decode : NodeReader) (pointer : String) (ms : Members) : Except Refusal Validator := do
  only pointer ["type", "items", "minItems", "maxItems"] ms
  match member? "items" ms with
  | none =>
    if (member? "minItems" ms).isSome || (member? "maxItems" ms).isSome then
      refuse pointer .lengthWithoutItems
    else return .leaf .array
  | some items =>
    let least ← lengthUnder pointer "minItems" ((member? "minItems" ms).getD (.int 0))
    let most ← match (member? "maxItems" ms).getD .null with
      | .null => pure none
      | v => some <$> lengthUnder pointer "maxItems" v
    return .arrayOf (← decode items s!"{pointer}/items") least most

/-- The property of a key that is written in full. -/
def property (pointer written : String) (rule : Validator) : Except Refusal (Property Validator) :=
  match Key.ofWritten written with
  | .ok key => .ok ⟨key, none, rule⟩
  | .error (.compile e) => refuse pointer (.key e)
  | .error other => .error other

/-- Undo the anchors that a name gets in a descriptor, if what is left is a regex of its own. -/
def unanchor (source : String) : Except Refusal String :=
  let cs := source.toList
  if source.startsWith "^(?:" && source.endsWith ")$" then
    let inner := String.ofList ((cs.drop 4).dropLast.dropLast)
    match Regex.ofSource inner .none with
    | .ok _ => .ok inner
    | .error .invalid => .ok source
    | .error (.fault f) => fault f
  else .ok source

/-- The regex of the names without special characters. -/
@[irreducible] def literalNames : Except Regex.Refusal Regex :=
  Regex.ofSource "[^.^$*+?\x7b\x7d\\[\\]\\\\|()]*" .none

/-- The name of a property has no special characters. -/
def hasLiteralForm (name : String) : Bool := literalNames.toOption.any fun r => r.matchesAll name

/-- A member of `properties`: a required one has to be a literal name, any other is optional. -/
def decodeProperty (decode : NodeReader) (pointer : String) (required : List Value)
    (name node : Value) : Except Refusal (Property Validator) := do
  let rule ← decode node s!"{pointer}/properties/{name.nameText}"
  match name with
  | .text s =>
    let isRequired := required.any (Value.keyEq name)
    if !hasLiteralForm s then
      if isRequired then refuse pointer (.requiredNotLiteral s)
      else property pointer ("?" ++ Regex.escapeName s) rule
    else if isRequired then property pointer s rule
    else property pointer ("?" ++ s) rule
  | _ => fault .nameNotText

/-- The quantifier sign of a member of `patternProperties`. -/
def patternSign (quantifiers : Members) (source : Value) : Except Refusal String :=
  match Entries.find? source quantifiers with
  | none => .ok "*"
  | some v =>
    if !v.isHashable then fault (.unhashable v.typeName)
    else if isOneOf ["?", "+"] v then .ok v.nameText
    else .ok "*"

/-- A member of `patternProperties`. -/
def decodePatternProperty (decode : NodeReader) (pointer : String) (quantifiers : Members)
    (source node : Value) : Except Refusal (Property Validator) := do
  let rule ← decode node s!"{pointer}/patternProperties/{source.nameText}"
  let sign ← patternSign quantifiers source
  match source with
  | .text s => property pointer (sign ++ (← unanchor s)) rule
  | .bytes _ => fault .nameNotText
  | v => fault (.noSuchMember v.typeName "startswith")

/-- Members one after another. -/
def decodeMembers (decode : Value → Value → Except Refusal (Property Validator)) :
    Members → Except Refusal (List (Property Validator))
  | [] => .ok []
  | (name, node) :: rest => do
    let p ← decode name node
    return p :: (← decodeMembers decode rest)

/-- The additional properties: a descriptor for the catch-all key, or nothing to say. -/
def decodeAdditional (decode : NodeReader) (pointer : String) (ms : Members) :
    Except Refusal (List (Property Validator)) := do
  match (member? "additionalProperties" ms).getD (.bool true) with
  | .mapping .dict tag entries =>
    let rule ← decode (.mapping .dict tag entries) s!"{pointer}/additionalProperties"
    return [← property pointer "*" rule]
  | .bool true => return []
  | _ => refuse pointer .closedObject

/-- The members of a part of an object's descriptor. -/
def part? (name : String) (ms : Members) : Option Members :=
  match member? name ms with
  | none => some []
  | some (.mapping .dict _ entries) => some entries
  | some _ => none

/-- The required names. -/
def requiredNames (pointer : String) (ms properties : Members) : Except Refusal (List Value) := do
  match (member? "required" ms).getD (.list []) with
  | .seq .list _ names =>
    match names.find? fun v => !v.isHashable with
    | some v => fault (.unhashable v.typeName)
    | none =>
      let unknown := names.foldl (fun seen v =>
        if properties.any (fun p => Value.keyEq v p.1) || seen.any (Value.keyEq v) then seen
        else seen ++ [v]) []
      if unknown.isEmpty then return names
      else refuse pointer (.requiredUnknown (← ofFault (Value.sort? unknown)))
  | _ => refuse pointer .requiredNotList

/-- An object pattern. -/
def decodeObject (decode : NodeReader) (pointer : String) (ms : Members) : Except Refusal Validator := do
  only pointer ["type", "properties", "required", "patternProperties", "additionalProperties",
    "x-quantifiers"] ms
  match part? "properties" ms, part? "patternProperties" ms, part? "x-quantifiers" ms with
  | some properties, some patterns, some quantifiers =>
    let required ← requiredNames pointer ms properties
    let named ← decodeMembers (decodeProperty decode pointer required) properties
    let matched ← decodeMembers (decodePatternProperty decode pointer quantifiers) patterns
    let additional ← decodeAdditional decode pointer ms
    return .object (named ++ matched ++ additional)
  | _, _, _ => refuse pointer .partsNotObjects

/-- A node with a type. -/
def decodeTyped (decode : NodeReader) (pointer : String) (ms : Members) (type : String) :
    Except Refusal Validator :=
  match type with
  | "null" => decodeSimple pointer ms .null
  | "boolean" => decodeSimple pointer ms (.instanceOf (.builtin .bool))
  | "integer" => decodeSimple pointer ms (.instanceOf (.builtin .int))
  | "string" => decodeString pointer ms
  | "number" => decodeNumber pointer ms
  | "array" => decodeArray decode pointer ms
  | "object" => decodeObject decode pointer ms
  | _ => refuse pointer (.unsupportedType type)

/-- A node by its members. -/
def decodeMembersOf (session : Nat) (decode : NodeReader) (pointer : String) (ms : Members) :
    Except Refusal Validator := do
  let words := keywords ms
  if words.isEmpty then return .leaf .anything
  match identityKeywords.find? fun k => (member? k ms).isSome with
  | some k => refuse pointer (.identity k)
  | none =>
  match member? "$ref" ms with
  | some target =>
    only pointer ["$ref"] ms
    if isOneOf ["#"] target then return .selfRef (some session)
    else refuse pointer (.foreignReference target)
  | none =>
  match member? "anyOf" ms with
  | some branches =>
    only pointer ["anyOf"] ms
    match branches with
    | .seq .list _ (b :: bs) => return .anyOf (← decodeEach decode s!"{pointer}/anyOf" 0 (b :: bs))
    | _ => refuse pointer .anyOfNotList
  | none =>
  match member? "const" ms with
  | some v =>
    only pointer ["const"] ms
    return decodeConst v
  | none =>
  match member? "enum" ms with
  | some values => decodeEnum pointer ms values
  | none =>
  match member? "type" ms with
  | none => refuse pointer (.unsupportedKeywords (← ofFault (Value.sort? words)))
  | some (.seq .list _ types) =>
    only pointer ["type"] ms
    let nodes := types.map fun t => Value.record [("type", t)]
    return .anyOf (← decodeEach decode s!"{pointer}/type" 0 nodes)
  | some (.text type) => decodeTyped decode pointer ms type
  | some v => refuse pointer (.typeForm v)

/-- One node of a descriptor, the nodes inside it left to `decode`. -/
def decodeNode (session : Nat) (decode : NodeReader) : NodeReader := fun node pointer =>
  match node with
  | .mapping .dict _ ms => decodeMembersOf session decode pointer ms
  | v => refuse pointer (.notObject v)

end Conformance.Descriptor

namespace Conformance.Value

mutual

/-- How deep containers are nested in a value. -/
def depth : Value → Nat
  | seq _ _ items => depthAll items + 1
  | mapping _ _ entries => depthUnder entries + 1
  | _ => 0

/-- The greatest depth of members. -/
def depthAll : List Value → Nat
  | [] => 0
  | v :: vs => max (depth v) (depthAll vs)

/-- The greatest depth under keys. -/
def depthUnder : List (Value × Value) → Nat
  | [] => 0
  | (_, v) :: rest => max (depth v) (depthUnder rest)

end

end Conformance.Value

namespace Conformance.Descriptor

/-- The nodes of a descriptor down to a depth. -/
def decodeTo (session : Nat) : Nat → NodeReader
  | 0 => fun _ _ => fault .endless
  | depth + 1 => decodeNode session (decodeTo session depth)

/-- **A whole descriptor**, its references made for a session. -/
def decode (session : Nat) (descriptor : Value) : Except Refusal Validator :=
  decodeTo session (descriptor.depth + 2) descriptor "#"

/-- The value of a descriptor that may be given as a JSON text. -/
def ofDocument (document : Value) : Except Refusal Value :=
  let lift (r : Except Json.Failure Value) : Except Refusal Value :=
    match r with
    | .ok v => .ok v
    | .error .malformed => .error (.decode ⟨.notJson, none⟩)
    | .error (.fault f) => .error (.fault f)
  match document with
  | .text s => lift (Json.read s)
  | .bytes bs => lift (Json.readBytes bs)
  | v => .ok v

end Conformance.Descriptor
