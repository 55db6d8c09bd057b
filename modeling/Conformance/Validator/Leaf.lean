import Conformance.Value.Equality
import Conformance.Error
import Conformance.Mismatch

/-!
# Leaf rules

A leaf rule judges a value by itself, without looking at other validators.

## Main Definitions

* `Primitive`, `Bounds`, `CharsetRule` — what leaf rules are made of
* `Leaf` — the leaf rules
* `Test`, `Leaf.tests` — the conditions that a leaf puts on a value, in the order they are looked at
* `Leaf.name`, `Leaf.describe` — a leaf in messages and in descriptors

## Design Notes

A leaf accepts a value when all its tests hold.  A test is written with everything that a report says
when it fails, so that the two ways to check a value, stopping at the first failure and collecting
all of them, walk along the same list.
-/

namespace Conformance

/-- A truth value, number or text: a pattern that stands for itself. -/
inductive Primitive where
  | bool (b : Bool)
  | number (n : Num)
  | text (s : String)
  deriving DecidableEq, Repr, Inhabited

/-- A primitive as a value. -/
def Primitive.toValue : Primitive → Value
  | bool b => .bool b
  | number n => .number n
  | text s => .text s

/-- Bounds and steps of numbers. -/
structure Bounds where
  minimum : Option Num
  maximum : Option Num
  exclusiveMinimum : Option Num
  exclusiveMaximum : Option Num
  /-- The numbers of which a value has to be a multiple. -/
  steps : List Num
  deriving DecidableEq, Repr, Inhabited

/-- Every number. -/
def Bounds.unbounded : Bounds := ⟨none, none, none, none, []⟩

/-- Texts of some number of characters of a set, as the regex that is searched for. -/
structure CharsetRule where
  /-- The inside of a bracket expression. -/
  charset : String
  least : Nat
  most : Option Nat
  regex : Regex
  deriving DecidableEq, Repr, Inhabited

/-- The source of the regex for a character set and two lengths. -/
def CharsetRule.source (charset : String) (least : Nat) (most : Option Nat) : String :=
  let counts := match most with
    | none => s!"\x7b{least},\x7d"
    | some most => if least = most then s!"\x7b{least}\x7d" else s!"\x7b{least},{most}\x7d"
  s!"^[{charset}]{counts}$"

/-- The rules that judge a value by itself. -/
inductive Leaf where
  | instanceOf (c : Class)
  /-- A text in which a regex finds a match. -/
  | regex (r : Regex)
  /-- Structural equality. -/
  | literal (x : Value)
  /-- Equality with a primitive. -/
  | equals (x : Primitive)
  /-- Null or absent. -/
  | null
  | anything
  | number (bounds : Bounds)
  | string
  | stringOf (rule : CharsetRule)
  | array
  /-- A sequence that is structurally equal. -/
  | sequenceLike (x : Value)
  /-- A mapping that is structurally equal. -/
  | mappingLike (x : Value)
  /-- The very same object. -/
  | reference (x : Value)
  | mapping
  | callable
  deriving Repr, Inhabited

/-! ## Tests -/

/-- One condition on a value, with what a report says when it fails. -/
structure Test where
  rule : String
  expected : String
  actual : String
  holds : Except Fault Bool
  deriving Inhabited

/-- The mismatch of a failed test. -/
def Test.mismatch (t : Test) (path : String) : Mismatch := .leaf path t.rule t.expected t.actual

/-- A condition without a fault, failing on a value as it is. -/
def Test.plain (rule expected : String) (v : Value) (holds : Bool) : Test :=
  ⟨rule, expected, v.represent, .ok holds⟩

namespace Bounds

/-- The bounds that are set, with the sign they are written with. -/
def parts (b : Bounds) : List String :=
  let bound (sign : String) : Option Num → List String
    | none => []
    | some n => [s!"{sign} {n.render}"]
  bound ">=" b.minimum ++ bound ">" b.exclusiveMinimum ++ bound "<=" b.maximum ++
    bound "<" b.exclusiveMaximum ++ b.steps.map fun s => s!"multiple of {s.render}"

/-- The test for one bound, if it is set. -/
def boundTest (v : Value) (rule sign : String) (holds : Num → Bool) : Option Num → List Test
  | none => []
  | some bound => [.plain rule s!"a number {sign} {bound.render}" v (holds bound)]

/-- The tests that bounds and steps put on a number. -/
def tests (b : Bounds) (tolerance : Binary64) (v : Value) (n : Num) : List Test :=
  boundTest v "minimum" ">=" (fun bound => bound.le n) b.minimum ++
    boundTest v "maximum" "<=" (fun bound => n.le bound) b.maximum ++
    boundTest v "exclusive_minimum" ">" (fun bound => bound.lt n) b.exclusiveMinimum ++
    boundTest v "exclusive_maximum" "<" (fun bound => n.lt bound) b.exclusiveMaximum ++
    b.steps.map fun s =>
      ⟨"step", s!"a multiple of {s.render}", v.represent, n.isMultiple tolerance s⟩

end Bounds

namespace Leaf

/-- The name of a leaf in messages. -/
def name : Leaf → String
  | instanceOf c => s!"instance of {c.name}"
  | regex r => s!"string matching /{r.source}/"
  | literal x => s!"value deep-equal to {x.represent}"
  | equals x => s!"value equal to {x.toValue.render}"
  | null => "None or absent"
  | anything => "anything"
  | number b => if b.parts.isEmpty then "number" else "number (" ++ String.intercalate ", " b.parts ++ ")"
  | string => "string"
  | stringOf rule => s!"string matching /{rule.regex.source}/"
  | array => "array"
  | sequenceLike x => s!"value deep-equal to {x.represent}"
  | mappingLike x => s!"value deep-equal to {x.represent}"
  | reference x => s!"reference to {x.represent}"
  | mapping => "object"
  | callable => "callable"

/-- The name of the kind of a leaf. -/
def typeName : Leaf → String
  | instanceOf _ => "InstanceOfValidator"
  | regex _ => "RegexValidator"
  | literal _ => "LiteralValidator"
  | equals _ => "EqualsValidator"
  | null => "NullValidator"
  | anything => "AnythingValidator"
  | number _ => "NumberValidator"
  | string => "StringValidator"
  | stringOf _ => "StringValidator"
  | array => "ArrayValidator"
  | sequenceLike _ => "SequenceLiteralValidator"
  | mappingLike _ => "MappingLiteralValidator"
  | reference _ => "ReferenceValidator"
  | mapping => "ObjectBuilder"
  | callable => "FunctionBuilder"

/-- The failed test of a value that is no text. -/
def textTest (v : Value) : Test := .plain "string" "a string" v false

/-- The test that a value is a sequence. -/
def sequenceTest (v : Value) : Test := .plain "array" "a list or tuple" v v.isSequence

/-- The test that a value is a mapping. -/
def mappingTest (v : Value) : Test := .plain "object" "a mapping" v v.isMapping

/-- The conditions that a leaf puts on a value.  Those that only make sense for values of one type
are left out when the value is not of it. -/
def tests (tolerance : Binary64) (leaf : Leaf) (v : Value) : List Test :=
  match leaf with
  | instanceOf c => [.plain "instance_of" leaf.name v (v.isInstance c)]
  | regex r =>
    [⟨"regex", leaf.name, v.represent, match v with | .text s => r.findsIn? s | _ => .ok false⟩]
  | literal x => [.plain "literal" leaf.name v (v.deepEqual x)]
  | equals x => [.plain "equals" leaf.name v (v.deepEqual x.toValue)]
  | null => [.plain "null" leaf.name v (match v with | .null => true | .missing => true | _ => false)]
  | anything => []
  | number b =>
    match v with
    | .number n => b.tests tolerance v n
    | _ => [.plain "number" "a number" v false]
  | string =>
    match v with
    | .text _ => []
    | _ => [textTest v]
  | stringOf rule =>
    match v with
    | .text s => [⟨"charset", leaf.name, v.represent, rule.regex.findsIn? s⟩]
    | _ => [textTest v]
  | array => [sequenceTest v]
  | sequenceLike x =>
    if v.isSequence then [.plain "literal" leaf.name v (v.deepEqual x)] else [sequenceTest v]
  | mappingLike x =>
    if v.isMapping then [.plain "literal" leaf.name v (v.deepEqual x)] else [mappingTest v]
  | reference x => [.plain "reference" leaf.name v (v.identical x)]
  | mapping => [mappingTest v]
  | callable => [.plain "function" "a callable" v v.isCallable]

end Leaf

/-! ## Descriptors -/

/-- A dictionary with texts as keys. -/
def Value.record (fields : List (String × Value)) : Value :=
  .dict (fields.map fun (k, v) => (.text k, v))

/-- The type that descriptors give a built-in class, for the classes that have one. -/
def Class.jsonType? : Class → Option String
  | .builtin .str => some "string"
  | .builtin .int => some "integer"
  | .builtin .float => some "number"
  | .builtin .bool => some "boolean"
  | .builtin .dict => some "object"
  | .builtin .list => some "array"
  | _ => none

/-- The name that an object is referred to by: the name it was defined under, or its short form. -/
def Value.referenceName : Value → String
  | .cls c => c.name
  | .host h =>
    match h.name with
    | some name => if name.isEmpty then (Value.host h).represent else name
    | none => (Value.host h).represent
  | v => v.represent

/-- The descriptor of bounds and steps. -/
def Bounds.describe (b : Bounds) : Value :=
  let bound (keyword : String) : Option Num → List (String × Value)
    | none => []
    | some n => [(keyword, .number n)]
  .record <| [("type", .text "number")] ++ bound "minimum" b.minimum ++ bound "maximum" b.maximum ++
    bound "exclusiveMinimum" b.exclusiveMinimum ++ bound "exclusiveMaximum" b.exclusiveMaximum ++
    match b.steps with
    | [] => []
    | [s] => [("multipleOf", .number s)]
    | steps => [("x-multipleOf", .list (steps.map .number))]

/-- The descriptor of a leaf. -/
def Leaf.describe : Leaf → Value
  | instanceOf c =>
    match c.jsonType? with
    | some name => .record [("type", .text name)]
    | none => .record [("type", .text "object"), ("x-instanceOf", .text s!"{c.home}.{c.name}")]
  | regex r => .record [("type", .text "string"), ("pattern", .text r.source)]
  | literal x => .record [("enum", .list [x.jsonable])]
  | equals x => .record [("const", x.toValue)]
  | null => .record [("type", .text "null")]
  | anything => .record []
  | number b => b.describe
  | string => .record [("type", .text "string")]
  | stringOf rule =>
    .record [("type", .text "string"),
      ("pattern", .text (CharsetRule.source rule.charset rule.least rule.most))]
  | array => .record [("type", .text "array")]
  | sequenceLike x => .record [("type", .text "array"), ("enum", .list [x.jsonable])]
  | mappingLike x => .record [("type", .text "object"), ("enum", .list [x.jsonable])]
  | reference x => .record [("x-reference", .text x.referenceName)]
  | mapping => .record [("type", .text "object")]
  | callable => .record [("x-instanceOf", .text "callable")]

end Conformance
