import Conformance.Number.Numeric

/-!
# The shortest decimal that reads back

A float is written with the fewest digits that still denote it: of all decimals that round to the
float those with the fewest digits, and of these the one nearest to its value.

## Main Definitions

* `Decimal.shortest` — the digits and the scale of a finite float
* `FloatStyle` — how digits and scale are laid out
* `Binary64.render`, `Num.render` — the text of a number

## Design Notes

If some decimal of `n` digits rounds to the float, one of the two neighbours of the float's value
on the grid of `n` digits does, so only those two are tried for each `n`.  Seventeen digits always
suffice.
-/

namespace Conformance

namespace Decimal

/-- The least `p` with `r < 10 ^ p`, for a positive ratio: the number of digits before the point, or
minus the number of zeros after it. -/
def magnitude (r : Ratio) : Int :=
  let estimate : Int := ((Nat.log2 r.num : Int) - (Nat.log2 r.den : Int)) * 30103 / 100000
  let below (p : Int) : Bool := !(r.scale 10 (-p)).atLeastOne
  let start := estimate - 1
  if below start then start
  else if below (start + 1) then start + 1
  else if below (start + 2) then start + 2
  else start + 3

/-- The first grid, from `n` digits on, of which a neighbour of `r` rounds back to `x`; of two such
neighbours the nearer, and of two equally near ones the even. -/
def search (x : Binary64) (r : Ratio) (p : Int) : Nat → Nat → Nat × Int
  | 0, n => ((r.scale 10 (n - p)).floor, p - n)
  | fuel + 1, n =>
    let k : Int := n - p
    let s := r.scale 10 k
    let low := s.floor
    let reads (d : Nat) : Bool := Binary64.ofDecimal false d (-k) == x
    match reads low, reads (low + 1) with
    | true, true => (s.roundHalfEven, -k)
    | true, false => (low, -k)
    | false, true => (low + 1, -k)
    | false, false => search x r p fuel (n + 1)

/-- Trailing zeros of the digits moved into the scale. -/
def stripZeros : Nat → Nat → Int → Nat × Int
  | 0, d, e => (d, e)
  | fuel + 1, d, e => if d ≠ 0 && d % 10 = 0 then stripZeros fuel (d / 10) (e + 1) else (d, e)

/-- The digits `d` and the scale `e` of the shortest decimal `d · 10 ^ e` that denotes the positive
float `m · 2 ^ q`. -/
def shortest (m : Nat) (q : Int) : Nat × Int :=
  let r := (Ratio.ofNat m).scale 2 q
  let (d, e) := search (.finite false m q) r (magnitude r) 17 1
  stripZeros 20 d e

end Decimal

/-- How the digits of a float are laid out. -/
structure FloatStyle where
  /-- The least decimal exponent written positionally. -/
  leastPositional : Int
  /-- The first decimal exponent that is no longer written positionally. -/
  firstScientific : Int
  /-- The least number of digits in a written exponent. -/
  exponentDigits : Nat
  /-- What a positional integer is closed with. -/
  wholeSuffix : String

/-- Floats are positional from `0.0001` to below `10 ^ 16`, whole ones close with `.0`, and an
exponent has a sign and two digits at least. -/
def FloatStyle.standard : FloatStyle := ⟨-4, 16, 2, ".0"⟩

namespace Binary64

/-- The text of `digits · 10 ^ exponent` in a style. -/
def layOut (style : FloatStyle) (digits : Nat) (exponent : Int) : String :=
  let ds := (toString digits).toList
  let point : Int := exponent + ds.length
  let zeros (n : Int) : List Char := List.replicate n.toNat '0'
  if style.leastPositional ≤ point - 1 && point - 1 < style.firstScientific then
    if point ≤ 0 then String.ofList ('0' :: '.' :: (zeros (-point) ++ ds))
    else if (ds.length : Int) ≤ point then
      String.ofList (ds ++ zeros (point - ds.length)) ++ style.wholeSuffix
    else String.ofList (ds.take point.toNat ++ '.' :: ds.drop point.toNat)
  else
    let written := (toString (point - 1).natAbs).toList
    let padded := List.replicate (style.exponentDigits - written.length) '0' ++ written
    let mantissa := match ds with
      | d :: d' :: rest => d :: '.' :: d' :: rest
      | ds => ds
    String.ofList (mantissa ++ 'e' :: (if point - 1 < 0 then '-' else '+') :: padded)

/-- The text of a float. -/
def render : Binary64 → String
  | .nan => "nan"
  | .infinite negative => if negative then "-inf" else "inf"
  | .finite negative m q =>
    let text := if m = 0 then "0.0"
      else
        let (d, e) := Decimal.shortest m q
        layOut .standard d e
    if negative then "-" ++ text else text

end Binary64

/-- The text of a number. -/
def Num.render : Num → String
  | .int n => toString n
  | .float x => x.render

end Conformance
