/-!
# Faults

A fault is what goes wrong inside a run that is neither non-conformance nor a refused pattern: a
host function that fails, an integer beyond the floating range, a recursion without end.  Checks
turn a fault into non-conformance and report its kind and its text; the other operations hand it on.

## Main Definitions

* `Fault` — the causes
* `Fault.kind`, `Fault.message` — the two texts a report of a fault is written from
-/

namespace Conformance

/-- The causes of a fault. -/
inductive Fault where
  /-- A reference led back to itself on the same value without end. -/
  | endless
  /-- A float was needed, and the integer is beyond the range of floats. -/
  | beyondFloat
  /-- Closeness was asked for within a negative tolerance. -/
  | negativeTolerance
  /-- A function of the host failed in a way of its own. -/
  | host (kind message : String)
  /-- A host object took the place of a function and cannot be called. -/
  | notCallable (typeName : String)
  /-- A value that can be no key stands where a key is needed. -/
  | unhashable (typeName : String)
  /-- Values without a common order were to be sorted. -/
  | unordered
  /-- A name is not a text. -/
  | nameNotText
  /-- An operation is not defined for a value of this type. -/
  | noSuchMember (typeName member : String)
  /-- A built-in function was given a value outside its domain. -/
  | unsupportedOperand (message : String)
  /-- A repeat count of a regex is beyond the largest one. -/
  | repeatTooLarge
  /-- A regex asks for the ASCII and for the Unicode classes. -/
  | classConflict
  /-- A group of a regex ended before it started. -/
  | crossedGroup
  /-- A numeral has more digits than the reader takes. -/
  | tooManyDigits
  /-- Bytes that are no text in their encoding. -/
  | undecodable
  deriving DecidableEq, Repr, Inhabited

namespace Fault

/-- The name of the kind that a fault is reported under. -/
def kind : Fault → String
  | endless => "RecursionError"
  | beyondFloat => "OverflowError"
  | negativeTolerance => "ValueError"
  | host kind _ => kind
  | notCallable _ => "TypeError"
  | unhashable _ => "TypeError"
  | unordered => "TypeError"
  | nameNotText => "TypeError"
  | noSuchMember .. => "AttributeError"
  | unsupportedOperand _ => "TypeError"
  | repeatTooLarge => "OverflowError"
  | classConflict => "ValueError"
  | crossedGroup => "SystemError"
  | tooManyDigits => "ValueError"
  | undecodable => "UnicodeDecodeError"

/-- The text of a fault. -/
def message : Fault → String
  | endless => "maximum recursion depth exceeded"
  | beyondFloat => "int too large to convert to float"
  | negativeTolerance => "tolerances must be non-negative"
  | host _ message => message
  | notCallable typeName => s!"'{typeName}' object is not callable"
  | unhashable typeName => s!"unhashable type: '{typeName}'"
  | unordered => "values of different types have no order"
  | nameNotText => "a name must be a text"
  | noSuchMember typeName member => s!"'{typeName}' object has no attribute '{member}'"
  | unsupportedOperand message => message
  | repeatTooLarge => "the repetition number is too large"
  | classConflict => "ASCII and UNICODE flags are incompatible"
  | crossedGroup =>
    "The span of capturing group is wrong, please report a bug for the re module."
  | tooManyDigits => "the numeral has too many digits"
  | undecodable => "the bytes are no text"

end Fault

end Conformance
