import Conformance.Validator.Leaf
import Conformance.Settings

/-!
# Building text rules

## Main Definitions

* `Value.length?` — a value that can be a length
* `CharsetRule.make` — the rule of a character set and two lengths
* `CharsetRule.ofArguments` — the rule of the arguments `charset`, `length, charset` or
  `least, most, charset`, the character set being optional
-/

namespace Conformance

/-- A non-negative integer; truth values are none. -/
def Value.length? : Value → Option Nat
  | .number (.int n) => if 0 ≤ n then some n.toNat else none
  | _ => none

/-- A length among the arguments of a builder. -/
def lengthArgument (builder : String) (v : Value) : Except BuilderError Nat :=
  match v.length? with
  | some n => .ok n
  | none => .error (.notLength builder v)

/-- An upper length among the arguments of a builder, null being none. -/
def mostArgument (builder : String) : Value → Except BuilderError (Option Nat)
  | .null => .ok none
  | v => (lengthArgument builder v).map some

/-- A least and an upper length, in this order. -/
def lengthArguments (builder : String) (least most : Value) : Except BuilderError (Nat × Option Nat) := do
  let low ← lengthArgument builder least
  let high ← mostArgument builder most
  match high with
  | some m => if m < low then throw (.lengthOrder builder low m) else return (low, high)
  | none => return (low, high)

namespace CharsetRule

/-- A length has more digits than a numeral is written with. -/
def tooLong (length : Nat) : Bool := Decimal.digitLimit < (toString length).length

/-- The rule of a character set and two lengths; the set has to make a valid regex, and the lengths
have to be short enough to be written. -/
def make (charset : String) (least : Nat) (most : Option Nat) : Except Refusal CharsetRule :=
  if tooLong least || most.any tooLong then .error (.fault .tooManyDigits)
  else
    match Regex.ofSource (source charset least most) .none with
    | .ok regex => .ok ⟨charset, least, most, regex⟩
    | .error .invalid => .error (.compile (.builder (.charsetInvalid charset)))
    | .error (.fault f) => .error (.fault f)

/-- The character set at the end of the arguments, or the one given instead, and the lengths before
it. -/
def splitArguments (defaultCharset : String) (args : List Value) : String × List Value :=
  match args.getLast? with
  | some (.text charset) => (charset, args.dropLast)
  | _ => (defaultCharset, args)

/-- The lengths that some arguments give. -/
def lengths (count : Nat) : List Value → Except BuilderError (Nat × Option Nat)
  | [] => .ok (0, none)
  | [v] => (lengthArgument "string" v).map fun n => (n, some n)
  | [least, most] => lengthArguments "string" least most
  | _ => .error (.stringArguments count)

/-- The rule of a call's arguments. -/
def ofArguments (defaultCharset : String) (args : List Value) : Except Refusal CharsetRule := do
  let (charset, rest) := splitArguments defaultCharset args
  if charset.isEmpty then throw (.compile (.builder .emptyCharset))
  let (least, most) ← (lengths args.length rest).mapError fun e => Refusal.compile (.builder e)
  make charset least most

end CharsetRule

end Conformance
