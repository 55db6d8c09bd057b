/-!
# Runs of character names

Characters that follow one another often have names that differ only at the end, and the same endings
come back behind other stems: the letters from `A` to `Z` name small and capital letters, circled and
bold ones.  A table of names is a list of such runs.

## Main Definitions

* `Text.NameRun` — names one after another
* `Text.NameRun.find?` — the code point of a name of the run
-/

namespace Conformance.Text

/-- Names one after another. -/
structure NameRun where
  /-- What the names begin with, each stem with the code point of its first name. -/
  stems : List (String × Nat)
  /-- The distance between the code points of neighbouring names. -/
  step : Nat
  /-- What the names end with, in order: lines of endings separated by semicolons. -/
  endings : List String

namespace NameRun

/-- The place of an ending in the run. -/
def place? (r : NameRun) (ending : List Char) : Option Nat :=
  (r.endings.flatMap fun line => line.splitOn ";").findIdx? fun e => e.toList = ending

/-- The code point of a name of the run. -/
def find? (r : NameRun) (name : List Char) : Option Nat :=
  r.stems.findSome? fun (stem, first) =>
    match stem.toList.isPrefixOf? name with
    | some ending => (r.place? ending).map fun i => first + i * r.step
    | none => none

end NameRun

end Conformance.Text
