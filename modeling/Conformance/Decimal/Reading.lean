import Conformance.Number.Numeric
import Conformance.Text.Word

/-!
# Reading decimal numerals

## Main Definitions

* `Decimal.natOfDigits?` — a non-empty run of ASCII digits
* `Decimal.splitNumeral?` — sign, digits, fraction and exponent of a written float
* `Decimal.readFloat?` — the float a text denotes: a decimal numeral, an infinity or not-a-number
* `Decimal.digitLimit` — the longest integer numeral that is read

Letters are compared without case, and blanks around a numeral are ignored.  Digits of any script
count, and a single underscore between two digits is ignored.
-/

namespace Conformance.Decimal

/-- The longest numeral that is read as an integer. -/
def digitLimit : Nat := 4300

/-- An ASCII digit. -/
def isDigit (c : Char) : Bool := '0' ≤ c && c ≤ '9'

/-- The value of an ASCII digit. -/
def digitValue (c : Char) : Nat := c.toNat - '0'.toNat

/-- The number written by ASCII digits, the empty run being zero. -/
def natOfDigits (cs : List Char) : Nat := cs.foldl (fun n c => 10 * n + digitValue c) 0

/-- The number written by a non-empty run of ASCII digits. -/
def natOfDigits? (cs : List Char) : Option Nat :=
  if cs.isEmpty || !cs.all isDigit then none else some (natOfDigits cs)

/-- A leading sign, and what follows it. -/
def takeSign : List Char → Bool × List Char
  | '-' :: cs => (true, cs)
  | '+' :: cs => (false, cs)
  | cs => (false, cs)

/-- A text without the blanks at its two ends. -/
def trim (cs : List Char) : List Char :=
  ((cs.dropWhile Text.isBlankUnicode).reverse.dropWhile Text.isBlankUnicode).reverse

/-- A digit of any script as one of ASCII. -/
def toAsciiDigit (c : Char) : Char :=
  match Text.decimalValue? c with
  | some d => Char.ofNat ('0'.toNat + d)
  | none => c

/-- A text without the underscores between two ASCII digits, `afterDigit` telling whether a digit
stands in front of it.  Other underscores stay. -/
def joinDigits (afterDigit : Bool) : List Char → List Char
  | [] => []
  | c :: cs =>
    if c = '_' && afterDigit && cs.head?.any isDigit then joinDigits false cs
    else c :: joinDigits (isDigit c) cs

/-- The exponent part of a numeral: absent, or a mark, a sign and digits. -/
def exponent? : List Char → Option Int
  | [] => some 0
  | c :: cs =>
    if c = 'e' || c = 'E' then
      let (negative, ds) := takeSign cs
      (natOfDigits? ds).map fun n => if negative then -(n : Int) else n
    else none

/-- A decimal numeral without its sign: digits, a fraction and an exponent, with a digit before or
after the point.  The result is the digits as one integer and the power of ten they are scaled by. -/
def unsigned? (cs : List Char) : Option (Nat × Int) :=
  let whole := cs.takeWhile isDigit
  let rest := cs.dropWhile isDigit
  let (fraction, rest) := match rest with
    | '.' :: rest => (rest.takeWhile isDigit, rest.dropWhile isDigit)
    | rest => ([], rest)
  if whole.isEmpty && fraction.isEmpty then none
  else (exponent? rest).map fun e => (natOfDigits (whole ++ fraction), e - fraction.length)

/-- The float a text denotes. -/
def readFloat? (text : String) : Option Binary64 :=
  let (negative, cs) := takeSign (joinDigits false ((trim text.toList).map toAsciiDigit))
  let word := String.ofList (cs.map Char.toLower)
  if word = "inf" || word = "infinity" then some (.infinite negative)
  else if word = "nan" then some .nan
  else (unsigned? cs).map fun (digits, e) => .ofDecimal negative digits e

end Conformance.Decimal
