import Conformance.Builder.Text

/-!
# Recognising string rules in regexes

A descriptor holds the rule of a string builder as the source of a regex, `^[charset]{least,most}$`.
Reading such a source gives the rule back.

## Main Definitions

* `StringRule.split?` — a source of that shape, cut into the character set and the counts
* `StringRule.lengths` — the two lengths that the counts mean

The character set reaches up to the last closing bracket, holds at least one character and no
newline.  Counts are digits of any script.
-/

namespace Conformance.StringRule

/-- The text before the last closing bracket and the text behind it. -/
def splitAtLastBracket? (cs : List Char) : Option (List Char × List Char) :=
  let back := cs.reverse
  let tail := back.takeWhile (· ≠ ']')
  match back.dropWhile (· ≠ ']') with
  | _ :: before => some (before.reverse, tail.reverse)
  | [] => none

/-- A decimal digit of any script. -/
def isDigit (c : Char) : Bool := (Text.decimalValue? c).isSome

/-- The counts of a repeat as they are written: least digits, a comma or none, and further
digits. -/
structure Counts where
  least : List Char
  comma : Bool
  most : List Char
  deriving DecidableEq, Repr, Inhabited

/-- Counts in braces at the end of a source. -/
def braces? (cs : List Char) : Option Counts :=
  match cs with
  | '\x7b' :: rest =>
    let least := rest.takeWhile isDigit
    let rest := rest.dropWhile isDigit
    if least.isEmpty then none
    else
      let (comma, rest) := match rest with
        | ',' :: rest => (true, rest)
        | rest => (false, rest)
      let most := rest.takeWhile isDigit
      if rest.dropWhile isDigit = ['\x7d', '$'] then some ⟨least, comma, most⟩ else none
  | _ => none

/-- A source of the shape of a string rule, cut into the character set and the counts. -/
def split? (source : String) : Option (String × Counts) :=
  match source.toList with
  | '^' :: '[' :: rest => do
    let (charset, tail) ← splitAtLastBracket? rest
    if charset.isEmpty || charset.contains '\n' then none
    let counts ← braces? tail
    return (String.ofList charset, counts)
  | _ => none

/-- The number that digits of any script stand for. -/
def numeral (ds : List Char) : Except Fault Nat :=
  if Decimal.digitLimit < ds.length then .error .tooManyDigits
  else .ok (ds.foldl (fun n c => 10 * n + (Text.decimalValue? c).getD 0) 0)

/-- The two lengths that counts mean: a single count is both, and a comma alone leaves the upper one
open. -/
def lengths (c : Counts) : Except Fault (Nat × Option Nat) := do
  let least ← numeral c.least
  if !c.comma then return (least, some least)
  else if c.most.isEmpty then return (least, none)
  else return (least, some (← numeral c.most))

end Conformance.StringRule
