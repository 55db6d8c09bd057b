import Conformance.Value.Printing

/-!
# Refusals of patterns and descriptors

A pattern, a key, an argument of a builder or a descriptor that is not well formed is refused.  A
refusal is kept as its cause; its code and its text are functions of the cause.

## Main Definitions

* `ErrorCode` — the codes under which refusals are reported
* `BuilderError`, `CompileError`, `DecodeError` — the causes
* `CompileError.message`, `DecodeError.message` — the texts
* `Refusal` — any way in which an operation can fail
* `Refusal.text` — the whole text of a refusal: code, message and place
-/

namespace Conformance

/-- The codes of refusals. -/
inductive ErrorCode where
  | patternUnrecognized
  | keyMalformed
  | keyInvalidRegex
  | builderInvalidArgument
  | sessionAlreadyBound
  | descriptorMalformed
  | descriptorUnsupported
  | descriptorIdentity
  deriving DecidableEq, Repr, Inhabited

/-- A code as it is written. -/
def ErrorCode.name : ErrorCode → String
  | patternUnrecognized => "PATTERN_UNRECOGNIZED"
  | keyMalformed => "KEY_MALFORMED"
  | keyInvalidRegex => "KEY_INVALID_REGEX"
  | builderInvalidArgument => "BUILDER_INVALID_ARGUMENT"
  | sessionAlreadyBound => "SESSION_ALREADY_BOUND"
  | descriptorMalformed => "DESCRIPTOR_MALFORMED"
  | descriptorUnsupported => "DESCRIPTOR_UNSUPPORTED"
  | descriptorIdentity => "DESCRIPTOR_IDENTITY"

/-- The place of the reason in a message about a text that does not read as a regex or as JSON.  The
reason itself belongs to the reader of such texts and is no part of the message. -/
def detail : String := "<detail>"

/-- Why a builder refuses its arguments. -/
inductive BuilderError where
  /-- A bound or step that is no number. -/
  | notNumber (call : String) (given : Value)
  | stepNotPositive (step : Value)
  /-- `of` was called on a builder that already has its elements or characters. -/
  | alreadyApplied (builder : String)
  | emptyCharset
  | notLength (builder : String) (given : Value)
  | lengthOrder (builder : String) (least most : Nat)
  | stringArguments (count : Nat)
  | arrayArguments (count : Nat)
  | charsetInvalid (charset : String)
  | notSequence (given : Value)
  | notMapping (given : Value)
  | notCallable (given : Value)
  deriving Repr, Inhabited

/-- The text of a builder's refusal. -/
def BuilderError.message : BuilderError → String
  | notNumber call v => s!"number.{call}() expects an int or float, got {v.render}"
  | stepNotPositive v => s!"number.step() expects a positive step, got {v.render}"
  | alreadyApplied builder => s!"{builder}.of() was already applied"
  | emptyCharset => "string.of() charset must not be empty"
  | notLength builder v => s!"{builder}.of() lengths must be non-negative integers, got {v.render}"
  | lengthOrder builder least most =>
    s!"{builder}.of() min length {least} exceeds max length {most}"
  | stringArguments count => s!"string.of() takes at most 3 arguments, got {count}"
  | arrayArguments count => s!"array.of() takes 1 to 3 arguments, got {count}"
  | charsetInvalid charset =>
    s!"charset {Text.quote charset} does not form a valid regex: {detail}"
  | notSequence v => s!"array.like() expects a list or tuple, got {v.render}"
  | notMapping v => s!"obj.like() expects a mapping, got {v.render}"
  | notCallable v => s!"function.reference() expects a callable, got {v.render}"

/-- Why a pattern is refused. -/
inductive CompileError where
  /-- The pattern is of none of the forms. -/
  | unrecognized (pattern : Value)
  | keyNotText (key : Value)
  /-- A key that is a quantifier sign and nothing else. -/
  | keyWithoutName (key : String)
  | keyInvalidRegex (key : String)
  | builder (cause : BuilderError)
  | alreadyBound
  deriving Repr, Inhabited

namespace CompileError

/-- The code of a refused pattern. -/
def code : CompileError → ErrorCode
  | unrecognized _ => .patternUnrecognized
  | keyNotText _ => .keyMalformed
  | keyWithoutName _ => .keyMalformed
  | keyInvalidRegex _ => .keyInvalidRegex
  | builder _ => .builderInvalidArgument
  | alreadyBound => .sessionAlreadyBound

/-- The text of a refused pattern. -/
def message : CompileError → String
  | unrecognized v => s!"{v.represent} ({v.typeName}) is not a recognized pattern"
  | keyNotText key => s!"object-pattern keys must be strings, got {key.represent}"
  | keyWithoutName key => s!"quantifier {Text.quote key} is missing a property-name regex"
  | keyInvalidRegex key => s!"object-pattern key {Text.quote key} is not a valid regex: {detail}"
  | builder cause => cause.message
  | alreadyBound => "compilation session is already bound"

end CompileError

/-- What is wrong at a place of a descriptor. -/
inductive DecodeCause where
  | notJson
  | notObject (given : Value)
  /-- A keyword that names a class, an object or a function of the host. -/
  | identity (keyword : String)
  | foreignReference (target : Value)
  | unsupportedKeywords (keywords : List Value)
  | anyOfNotList
  | typeForm (given : Value)
  | unsupportedType (name : String)
  | enumNotList
  | enumWithType (given : Value)
  | patternNotText
  | invalidPattern (source : String)
  | stepsNotList
  | stepNotPositive
  | notNumber (keyword : String) (given : Value)
  | notLength (keyword : String) (given : Value)
  | lengthWithoutItems
  | partsNotObjects
  | requiredNotList
  /-- Required names that no property is described for. -/
  | requiredUnknown (names : List Value)
  | requiredNotLiteral (name : String)
  | closedObject
  /-- A name that makes no key. -/
  | key (cause : CompileError)
  deriving Repr, Inhabited

namespace DecodeCause

/-- The code of a refused descriptor. -/
def code : DecodeCause → ErrorCode
  | notJson => .descriptorMalformed
  | notObject _ => .descriptorMalformed
  | identity _ => .descriptorIdentity
  | foreignReference _ => .descriptorUnsupported
  | unsupportedKeywords _ => .descriptorUnsupported
  | anyOfNotList => .descriptorMalformed
  | typeForm _ => .descriptorMalformed
  | unsupportedType _ => .descriptorUnsupported
  | enumNotList => .descriptorMalformed
  | enumWithType _ => .descriptorUnsupported
  | patternNotText => .descriptorMalformed
  | invalidPattern _ => .descriptorMalformed
  | stepsNotList => .descriptorMalformed
  | stepNotPositive => .descriptorMalformed
  | notNumber .. => .descriptorMalformed
  | notLength .. => .descriptorMalformed
  | lengthWithoutItems => .descriptorUnsupported
  | partsNotObjects => .descriptorMalformed
  | requiredNotList => .descriptorMalformed
  | requiredUnknown _ => .descriptorUnsupported
  | requiredNotLiteral _ => .descriptorUnsupported
  | closedObject => .descriptorUnsupported
  | key _ => .descriptorMalformed

/-- The text of a refused descriptor. -/
def message : DecodeCause → String
  | notJson => s!"descriptor is not valid JSON: {detail}"
  | notObject v => s!"expected a JSON object, got {v.render}"
  | identity keyword => s!"{keyword} describes a host-identity pattern that cannot be rebuilt"
  | foreignReference v => s!"only self references ('#') are supported, got {v.render}"
  | unsupportedKeywords names => s!"unsupported keywords {(Value.list names).render}"
  | anyOfNotList => "anyOf must be a non-empty list"
  | typeForm v => s!"type must be a string or a list, got {v.render}"
  | unsupportedType name => s!"unsupported type {Text.quote name}"
  | enumNotList => "enum must be a non-empty list"
  | enumWithType v => s!"enum with type {v.render} is not supported"
  | patternNotText => "pattern must be a string"
  | invalidPattern source => s!"invalid pattern {Text.quote source}: {detail}"
  | stepsNotList => "x-multipleOf must be a list"
  | stepNotPositive => "multipleOf must be positive"
  | notNumber keyword v => s!"{keyword} must be a number, got {v.render}"
  | notLength keyword v => s!"{keyword} must be a non-negative integer, got {v.render}"
  | lengthWithoutItems => "length bounds without items are not supported"
  | partsNotObjects => "properties, patternProperties and x-quantifiers must be objects"
  | requiredNotList => "required must be a list"
  | requiredUnknown names => s!"required names without properties: {(Value.list names).render}"
  | requiredNotLiteral name => s!"required property {Text.quote name} is not a literal name"
  | closedObject => "closed objects (additionalProperties: false) are not supported"
  | key cause => cause.message

end DecodeCause

/-- A refused descriptor: what is wrong, and at which place of it. -/
structure DecodeError where
  cause : DecodeCause
  pointer : Option String
  deriving Repr, Inhabited

/-- Any way in which an operation can fail. -/
inductive Refusal where
  | compile (e : CompileError)
  | decode (e : DecodeError)
  | fault (f : Fault)
  deriving Repr, Inhabited

/-- The whole text of a refusal: the code in brackets, the message, and the place if there is
one. -/
def refusalText (code : ErrorCode) (message : String) (place : Option String) : String :=
  let head := s!"[{code.name}] {message}"
  match place with
  | none => head
  | some "" => head
  | some p => s!"{head} (at {p})"

end Conformance
