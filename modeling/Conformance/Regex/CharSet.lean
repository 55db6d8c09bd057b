import Conformance.Text.Word
import Conformance.Text.Casing

/-!
# Character sets of a regex

## Main Definitions

* `Regex.Comparison` — how characters are compared
* `Regex.SetItem` — a member of a set in brackets: a character, a range or a named class
* `Regex.CharSet`, `Regex.CharSet.contains` — a set of characters, with its membership test
* `Regex.CharSet.isExact`, `Regex.CharSet.folds` — how a set is looked up when case is ignored

## Design Notes

A character that stands by itself and one inside of brackets are compared alike, with one exception.
When case is ignored, a character in brackets beyond the basic plane, whose code points are those
below 65536, is no longer a letter with two forms but the lower form that it is written as.  So
`[aX]` with a capital `X` beyond the plane holds neither form of `X`, although `X` alone stands for
both.  A range that reaches beyond the plane holds what has its lower form, or the upper form of its
lower form, in the range.
-/

namespace Conformance.Regex

/-! ## Classes and comparison -/

/-- The classes of characters that have a name. -/
inductive ClassName where
  | digit
  | blank
  | word
  deriving DecidableEq, Repr, Inhabited

/-- Membership in a named class, over ASCII or over Unicode. -/
def ClassName.contains (ascii : Bool) (c : Char) : ClassName → Bool
  | digit => if ascii then '0' ≤ c && c ≤ '9' else (Text.decimalValue? c).isSome
  | blank => if ascii then Text.isBlankAscii c else Text.isBlankUnicode c
  | word => if ascii then Text.isWordAscii c else Text.isWordUnicode c

/-- How characters are compared. -/
structure Comparison where
  /-- Letters are compared without regard to case. -/
  ignoreCase : Bool
  /-- Named classes and case are those of ASCII. -/
  ascii : Bool
  deriving DecidableEq, Repr, Inhabited

namespace Comparison

/-- The lower form of a code point. -/
def lower (m : Comparison) (code : Nat) : Nat :=
  if m.ascii then Text.lowerAscii code else Text.lowerCode code

/-- The code points that count as a given one. -/
def variants (m : Comparison) (code : Nat) : List Nat :=
  if !m.ignoreCase then [code]
  else if m.ascii then
    let low := Text.lowerAscii code
    if 97 ≤ low && low ≤ 122 then [low, low - 32] else [low]
  else Text.caseVariants (Text.lowerCode code)

/-- Case is ignored, and some code point between two bounds has another case. -/
def someCased (m : Comparison) (lo hi : Nat) : Bool :=
  m.ignoreCase &&
    if m.ascii then Text.runMeets 65 90 1 lo hi || Text.runMeets 97 122 1 lo hi
    else Text.someCased lo hi

/-- Two characters of a text count as the same. -/
def same (m : Comparison) (c d : Char) : Bool :=
  if m.ignoreCase then m.lower c.toNat = m.lower d.toNat else c = d

end Comparison

/-! ## Members of a set in brackets -/

/-- One member of a set in brackets. -/
inductive SetItem where
  | code (n : Nat)
  | range (lo hi : Nat)
  | named (name : ClassName) (negated : Bool)
  deriving DecidableEq, Repr, Inhabited

namespace SetItem

/-- The last code point of the basic plane. -/
def planeEnd : Nat := 65535

/-- An item holds a character. -/
def holds (m : Comparison) (c : Char) : SetItem → Bool
  | code n =>
    if m.ignoreCase && planeEnd < n then m.lower c.toNat = n else (m.variants c.toNat).contains n
  | range lo hi =>
    let low := m.lower c.toNat
    let within := fun code => lo ≤ code && code ≤ hi
    (m.variants c.toNat).any within ||
      (m.ignoreCase && planeEnd < hi && (within low || within (Text.upperCode low)))
  | named name negated => negated != name.contains m.ascii c

/-- An item for which case matters. -/
def isCased (m : Comparison) : SetItem → Bool
  | code n => m.ignoreCase && (planeEnd < n || m.someCased n n)
  | range lo hi => m.ignoreCase && (planeEnd < hi || m.someCased lo hi)
  | named .. => false

end SetItem

/-! ## Sets -/

/-- A set of characters. -/
inductive CharSet where
  /-- One character. -/
  | one (code : Nat) (comparison : Comparison)
  /-- Every character but one. -/
  | allBut (code : Nat) (comparison : Comparison)
  /-- Every character, the newline only if it is included. -/
  | dot (newline : Bool)
  /-- What the items in brackets hold, or what none of them holds. -/
  | brackets (negated : Bool) (items : List SetItem) (comparison : Comparison)
  deriving DecidableEq, Repr, Inhabited

namespace CharSet

/-- **Membership** of a character in a set. -/
def contains (c : Char) : CharSet → Bool
  | one code m => (m.variants c.toNat).contains code
  | allBut code m => !(m.variants c.toNat).contains code
  | dot newline => newline || c != '\n'
  | brackets negated items m => negated != items.any (SetItem.holds m c)

/-- The set is looked up by the character as it stands: a single character or items in brackets for
which case does not matter. -/
def isExact : CharSet → Bool
  | one code m => !m.someCased code code
  | brackets _ items m => !items.any (SetItem.isCased m)
  | _ => false

/-- A character with several lower forms. -/
def hasFamily (m : Comparison) (code : Nat) : Bool :=
  m.ignoreCase && !m.ascii && 1 < (Text.caseFamily (Text.lowerCode code)).length

/-- The set is looked up by the lower form of the character and among several. -/
def folds : CharSet → Bool
  | one code m => hasFamily m code
  | allBut code m => hasFamily m code
  | dot _ => false
  | brackets _ items m => items.any (SetItem.isCased m)

end CharSet

end Conformance.Regex
