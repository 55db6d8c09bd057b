import Conformance.Json.Encoding
import Conformance.Value.Equality
import Conformance.Decimal.Reading

/-!
# Reading JSON

## Main Definitions

* `Json.Failure` — why a text is not read
* `Json.read` — the value of a JSON text
* `Json.readBytes` — the value of a JSON text that comes as bytes

## Design Notes

Integers and floats are kept apart by how they are written.  Beyond the standard, the words `NaN`,
`Infinity` and `-Infinity` are numbers.  Of members with the same name the last one counts, at the
place of the first.
-/

namespace Conformance.Json

/-- Why a text is not read. -/
inductive Failure where
  | malformed
  | fault (f : Fault)
  deriving DecidableEq, Repr, Inhabited

/-- A reader: what was read, and the rest of the text. -/
abbrev Reader (α : Type) := List Char → Except Failure (α × List Char)

/-- Blanks between the parts of a text. -/
def isBlank (c : Char) : Bool := c = ' ' || c = '\t' || c = '\n' || c = '\r'

/-- Skip blanks. -/
def skip (cs : List Char) : List Char := cs.dropWhile isBlank

/-- What follows a word, if the text begins with it. -/
def after? : List Char → List Char → Option (List Char)
  | [], cs => some cs
  | w :: ws, c :: cs => if w = c then after? ws cs else none
  | _ :: _, [] => none

/-- Four hexadecimal digits. -/
def hex4? : List Char → Option (Nat × List Char)
  | a :: b :: c :: d :: rest => do
    let code ← [a, b, c, d].foldlM (fun n h => (Regex.hexValue? h).map fun v => 16 * n + v) 0
    return (code, rest)
  | _ => none

/-- The character that an escape of one letter stands for. -/
def letterEscape? : Char → Option Char
  | '"' => some '"'
  | '\\' => some '\\'
  | '/' => some '/'
  | 'b' => some '\x08'
  | 'f' => some '\x0c'
  | 'n' => some '\n'
  | 'r' => some '\r'
  | 't' => some '\t'
  | _ => none

/-- An escape by code point; two halves of a surrogate pair make one character. -/
def unicodeEscape? (cs : List Char) : Option (Char × List Char) := do
  let (code, rest) ← hex4? cs
  if 0xd800 ≤ code && code < 0xdc00 then
    match rest with
    | '\\' :: 'u' :: tail =>
      match hex4? tail with
      | some (low, tail') =>
        if 0xdc00 ≤ low && low < 0xe000 then
          return (Char.ofNat (0x10000 + (code - 0xd800) * 0x400 + (low - 0xdc00)), tail')
        else return (charOf code, rest)
      | none => none
    | _ => return (charOf code, rest)
  else return (charOf code, rest)

/-- The rest of a string, its opening quote consumed. -/
def string : Nat → Reader (List Char)
  | 0, _ => .error .malformed
  | _, [] => .error .malformed
  | fuel + 1, c :: cs =>
    if c = '"' then .ok ([], cs)
    else if c = '\\' then
      match cs with
      | 'u' :: cs =>
        match unicodeEscape? cs with
        | some (d, cs) => do
          let (ds, rest) ← string fuel cs
          return (d :: ds, rest)
        | none => .error .malformed
      | e :: cs =>
        match letterEscape? e with
        | some d => do
          let (ds, rest) ← string fuel cs
          return (d :: ds, rest)
        | none => .error .malformed
      | [] => .error .malformed
    else if c.toNat < 0x20 then .error .malformed
    else do
      let (ds, rest) ← string fuel cs
      return (c :: ds, rest)

/-- A fraction: a point and digits, or nothing. -/
def fraction (cs : List Char) : List Char × List Char :=
  match cs with
  | '.' :: d :: rest =>
    if Decimal.isDigit d then ((d :: rest).takeWhile Decimal.isDigit, rest.dropWhile Decimal.isDigit)
    else ([], cs)
  | _ => ([], cs)

/-- An exponent: a mark, a sign and digits, or nothing. -/
def exponent (cs : List Char) : Option Int × List Char :=
  match cs with
  | e :: rest =>
    if e = 'e' || e = 'E' then
      let (negative, ds) := Decimal.takeSign rest
      match ds.takeWhile Decimal.isDigit with
      | [] => (none, cs)
      | digits =>
        let n : Int := Decimal.natOfDigits digits
        (some (if negative then -n else n), ds.dropWhile Decimal.isDigit)
    else (none, cs)
  | [] => (none, cs)

/-- A number, its sign consumed. -/
def number (negative : Bool) : Reader Value := fun cs =>
  let whole := match cs with
    | '0' :: _ => ['0']
    | cs => cs.takeWhile Decimal.isDigit
  if whole.isEmpty then .error .malformed
  else
    let (decimals, rest) := fraction (cs.drop whole.length)
    let (scale, rest') := exponent rest
    if decimals.isEmpty && scale.isNone then
      if Decimal.digitLimit < whole.length then .error (.fault .tooManyDigits)
      else
        let n : Int := Decimal.natOfDigits whole
        .ok (.int (if negative then -n else n), rest')
    else
      .ok (.float (.ofDecimal negative (Decimal.natOfDigits (whole ++ decimals))
        (scale.getD 0 - decimals.length)), rest')

/-- A word that is a value. -/
def word? (cs : List Char) : Option (Value × List Char) :=
  let words : List (String × Value) :=
    [("null", .null), ("true", .bool true), ("false", .bool false), ("NaN", .float .nan),
      ("Infinity", .float (.infinite false)), ("-Infinity", .float (.infinite true))]
  words.findSome? fun (w, v) => (after? w.toList cs).map fun rest => (v, rest)

/-- A word or a number. -/
def atom : Reader Value := fun cs =>
  match word? cs with
  | some found => .ok found
  | none =>
    match cs with
    | '-' :: rest => number true rest
    | cs => number false cs

mutual

/-- A value. -/
def value : Nat → Reader Value
  | 0, _ => .error .malformed
  | fuel + 1, cs =>
    match cs with
    | '"' :: rest => do
      let (s, rest) ← string (rest.length + 1) rest
      return (.text (String.ofList s), rest)
    | '[' :: rest =>
      match skip rest with
      | ']' :: rest => .ok (.list [], rest)
      | rest => do
        let (items, rest) ← elements fuel rest
        return (.list items, rest)
    | '\x7b' :: rest =>
      match skip rest with
      | '\x7d' :: rest => .ok (.dict [], rest)
      | rest => do
        let (pairs, rest) ← members fuel rest
        return (.dict (Entries.ofPairs pairs), rest)
    | cs => atom cs

/-- The elements of a list up to its closing bracket. -/
def elements : Nat → Reader (List Value)
  | 0, _ => .error .malformed
  | fuel + 1, cs => do
    let (v, rest) ← value fuel cs
    match skip rest with
    | ']' :: rest => return ([v], rest)
    | ',' :: rest =>
      let (vs, rest) ← elements fuel (skip rest)
      return (v :: vs, rest)
    | _ => throw .malformed

/-- The members of an object up to its closing brace. -/
def members : Nat → Reader (List (Value × Value))
  | 0, _ => .error .malformed
  | fuel + 1, cs => do
    match cs with
    | '"' :: rest =>
      let (name, rest) ← string (rest.length + 1) rest
      match skip rest with
      | ':' :: rest =>
        let (v, rest) ← value fuel (skip rest)
        let entry := (Value.text (String.ofList name), v)
        match skip rest with
        | '\x7d' :: rest => return ([entry], rest)
        | ',' :: rest =>
          let (more, rest) ← members fuel (skip rest)
          return (entry :: more, rest)
        | _ => throw .malformed
      | _ => throw .malformed
    | _ => throw .malformed

end

/-- **The value of a JSON text.**  Nothing but blanks may stand around it, not even a byte order
mark. -/
def read (text : String) : Except Failure Value := do
  let cs := text.toList
  if cs.head? = some '\ufeff' then throw .malformed
  let (v, rest) ← value (2 * cs.length + 2) (skip cs)
  if (skip rest).isEmpty then return v else throw .malformed

/-- The value of a JSON text that comes as bytes. -/
def readBytes (bytes : List UInt8) : Except Failure Value :=
  match decodeText? bytes with
  | none => .error (.fault .undecodable)
  | some text => read text

end Conformance.Json
