/-!
# The switches of a regex

## Main Definitions

* `Regex.Flags` — the switches a regex is read under
* `Regex.Flags.within` — the switches inside a group that turns some on and some off
-/

namespace Conformance.Regex

/-- The switches of a regex. -/
structure Flags where
  /-- Letters match without regard to case. -/
  ignoreCase : Bool
  /-- `^` and `$` also match at the lines inside the text. -/
  multiline : Bool
  /-- `.` also matches a newline. -/
  dotAll : Bool
  /-- Blanks and comments in the source are skipped. -/
  verbose : Bool
  /-- Classes and case are those of ASCII. -/
  ascii : Bool
  /-- Classes and case of Unicode were asked for by name. -/
  unicode : Bool
  /-- Repeats are not allowed. -/
  template : Bool
  deriving DecidableEq, Repr, Inhabited

namespace Flags

/-- No switch is set. -/
def none : Flags := ⟨false, false, false, false, false, false, false⟩

/-- The switches of both. -/
def union (f g : Flags) : Flags :=
  ⟨f.ignoreCase || g.ignoreCase, f.multiline || g.multiline, f.dotAll || g.dotAll,
    f.verbose || g.verbose, f.ascii || g.ascii, f.unicode || g.unicode, f.template || g.template⟩

/-- The switches of the first that the second does not have. -/
def minus (f g : Flags) : Flags :=
  ⟨f.ignoreCase && !g.ignoreCase, f.multiline && !g.multiline, f.dotAll && !g.dotAll,
    f.verbose && !g.verbose, f.ascii && !g.ascii, f.unicode && !g.unicode,
    f.template && !g.template⟩

/-- Some switch is set in both. -/
def overlaps (f g : Flags) : Bool :=
  (f.ignoreCase && g.ignoreCase) || (f.multiline && g.multiline) || (f.dotAll && g.dotAll) ||
    (f.verbose && g.verbose) || (f.ascii && g.ascii) || (f.unicode && g.unicode) ||
    (f.template && g.template)

/-- The switches inside a group that turns some on and some off; naming the classes anew replaces
the choice made outside. -/
def within (f on off : Flags) : Flags :=
  let kept := if on.ascii || on.unicode then ⟨f.ignoreCase, f.multiline, f.dotAll, f.verbose, false, false,
    f.template⟩ else f
  (kept.union on).minus off

/-- The switch that a letter stands for. -/
def ofLetter? : Char → Option Flags
  | 'i' => some { none with ignoreCase := true }
  | 'm' => some { none with multiline := true }
  | 's' => some { none with dotAll := true }
  | 'x' => some { none with verbose := true }
  | 'a' => some { none with ascii := true }
  | 'u' => some { none with unicode := true }
  | 't' => some { none with template := true }
  | _ => Option.none

end Flags

end Conformance.Regex
