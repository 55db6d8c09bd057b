import Conformance.Validator.Basic
import Conformance.Value.Equality

/-!
# Patterns

A pattern is written as data: primitives, lists of alternatives, mappings with quantified keys,
classes, regexes, and among them validators that are compiled already.

## Main Definitions

* `Pattern` — a pattern as it is written
* `Pattern.toValue` — a pattern as the value it is
* `PatternKind` — the ten forms
* `Pattern.kind` — which of them a pattern is of

## Design Notes

The same data means different things at different places: directly inside a list of alternatives a
list of one item is a literal, and the ellipsis is the schema being defined.  `Pattern.kind` takes
the place as an argument, and everything that reads a pattern goes by it.
-/

namespace Conformance

/-- A pattern as it is written. -/
inductive Pattern where
  /-- A value without parts. -/
  | value (v : Value)
  | seq (form : SeqForm) (tag : Nat) (items : List Pattern)
  | mapping (form : MapForm) (tag : Nat) (entries : List (Value × Pattern))
  /-- A validator that is compiled already. -/
  | validator (h : Handle)

instance : Inhabited Pattern := ⟨.value .null⟩

namespace Pattern

mutual

/-- A pattern as the value it is. -/
def toValue : Pattern → Value
  | value v => v
  | seq form tag items => .seq form tag (toValues items)
  | mapping form tag entries => .mapping form tag (toEntries entries)
  | validator h => .validator h.face

/-- Patterns as values. -/
def toValues : List Pattern → List Value
  | [] => []
  | p :: ps => toValue p :: toValues ps

/-- Entries of a mapping as values. -/
def toEntries : List (Value × Pattern) → List (Value × Value)
  | [] => []
  | (k, p) :: rest => (k, toValue p) :: toEntries rest

end

end Pattern

/-- The forms of patterns. -/
inductive PatternKind where
  /-- A validator, or an object of the host with a `schema`. -/
  | schemaClass
  | constructor
  | regex
  | literal
  | or
  | object
  | primitive
  | null
  | anything
  | self
  deriving DecidableEq, Repr, Inhabited

/-- The name of a form. -/
def PatternKind.name : PatternKind → String
  | schemaClass => "schema_class"
  | constructor => "constructor"
  | regex => "regex"
  | literal => "literal"
  | or => "or"
  | object => "object"
  | primitive => "primitive"
  | null => "null"
  | anything => "anything"
  | self => "self"

namespace Pattern

/-- The form of a value without parts, `inOr` telling whether it stands directly inside a list of
alternatives.  An object of the host is a pattern by its `schema`: by a validator in any case, and by
a function if the object can itself be called; a class with anything else than a validator is a class
pattern. -/
def kindOfValue (slot : Nat → Slot) (inOr : Bool) : Value → Option PatternKind
  | .cls (.host c) =>
    match slot c.id with
    | .validator _ => some .schemaClass
    | _ => some .constructor
  | .cls (.builtin _) => some .constructor
  | .host h =>
    match slot h.id with
    | .validator _ => some .schemaClass
    | .function _ => if h.callable then some .schemaClass else none
    | _ => none
  | .regex _ => some .regex
  | .bool _ => some .primitive
  | .number _ => some .primitive
  | .text _ => some .primitive
  | .null => some .null
  | .ellipsis => some (if inOr then .self else .anything)
  | .selfMarker => some .self
  | _ => none

/-- **The form of a pattern**, or that it is of none. -/
def kind (slot : Nat → Slot) (inOr : Bool) : Pattern → Except CompileError PatternKind
  | validator _ => .ok .schemaClass
  | seq _ _ items => .ok (if inOr && items.length = 1 then .literal else .or)
  | mapping .. => .ok .object
  | value v =>
    match kindOfValue slot inOr v with
    | some kind => .ok kind
    | none => .error (.unrecognized v)

end Pattern

end Conformance
