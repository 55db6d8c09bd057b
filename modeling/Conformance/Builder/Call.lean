import Conformance.Builder.Number
import Conformance.Builder.Text
import Conformance.Pattern.Compiling

/-!
# Builders

Five validators can be refined by calls: the bare number, string, array, mapping and callable.  Each
call gives a new validator and leaves the old one as it was.

## Main Definitions

* `Builder.array` — an array of a pattern, with lengths
* `Builder.call` — the validator that a call on a validator gives
-/

namespace Conformance.Builder

/-- A refused argument. -/
def refuse {α : Type} (e : BuilderError) : Except Refusal α := .error (.compile (.builder e))

/-- An argument's refusal as a refusal of the call. -/
def liftBuilder {α : Type} (r : Except BuilderError α) : Except Refusal α :=
  r.mapError fun e => .compile (.builder e)

/-- The lengths before the pattern of an array. -/
def arrayLengths : List Value → Except BuilderError (Nat × Option Nat)
  | [] => .ok (0, none)
  | [v] => (lengthArgument "array" v).map fun n => (n, some n)
  | least :: most :: _ => lengthArguments "array" least most

/-- An array of a pattern, with lengths before it: `pattern`, `length, pattern` or
`least, most, pattern`.  The pattern is compiled as a fragment. -/
def array (slot : Nat → Slot) (args : List Pattern) : Except Refusal Validator := do
  match args.getLast? with
  | none => refuse (.arrayArguments 0)
  | some pattern =>
    if 3 < args.length then refuse (.arrayArguments args.length)
    let (least, most) ← liftBuilder (arrayLengths (args.dropLast.map Pattern.toValue))
    return .arrayOf (← pattern.compile slot none false) least most

/-- A call with the wrong number of arguments. -/
def wrongCount {α : Type} (call : String) : Except Refusal α :=
  .error (.fault (.unsupportedOperand s!"{call}() takes exactly one argument"))

/-- A call on a number. -/
def callNumber (b : Bounds) (call : String) (arg : Value) : Except Refusal Validator := do
  let refined ← liftBuilder <| match call with
    | "min" => b.atLeast arg
    | "max" => b.atMost arg
    | "above" => b.above arg
    | "below" => b.below arg
    | _ => b.multipleOf arg
  return .leaf (.number refined)

/-- A structurally equal sequence. -/
def sequenceLike (arg : Value) : Except Refusal Validator :=
  if arg.isSequence then .ok (.leaf (.sequenceLike arg)) else refuse (.notSequence arg)

/-- A structurally equal mapping. -/
def mappingLike (arg : Value) : Except Refusal Validator :=
  if arg.isMapping then .ok (.leaf (.mappingLike arg)) else refuse (.notMapping arg)

/-- The very same callable object. -/
def callableReference (arg : Value) : Except Refusal Validator :=
  if arg.isCallable then .ok (.leaf (.reference arg)) else refuse (.notCallable arg)

/-- A call that takes one argument. -/
def unary (call : String) (args : List Pattern) (f : Value → Except Refusal Validator) :
    Except Refusal Validator :=
  match args with
  | [p] => f p.toValue
  | _ => wrongCount call

/-- **The validator that a call gives.**  A call that a validator does not have is a fault. -/
def call (slot : Nat → Slot) (settings : Settings) (v : Validator) (name : String)
    (args : List Pattern) : Except Refusal Validator :=
  match v, name with
  | .leaf (.number b), name =>
    if ["min", "max", "above", "below", "step"].contains name then
      unary name args (callNumber b name)
    else missing
  | .leaf .string, "of" => do
    return .leaf (.stringOf (← CharsetRule.ofArguments settings.defaultCharset (args.map Pattern.toValue)))
  | .leaf (.stringOf _), "of" => refuse (.alreadyApplied "string")
  | .leaf .array, "of" => array slot args
  | .arrayOf .., "of" => refuse (.alreadyApplied "array")
  | .leaf .array, "like" => unary name args sequenceLike
  | .arrayOf .., "like" => unary name args sequenceLike
  | .leaf .mapping, "reference" => unary name args fun x => .ok (.leaf (.reference x))
  | .leaf .mapping, "like" => unary name args mappingLike
  | .leaf .callable, "reference" => unary name args callableReference
  | _, _ => missing
where
  /-- The call does not exist. -/
  missing : Except Refusal Validator := .error (.fault (.noSuchMember v.typeName name))

end Conformance.Builder
