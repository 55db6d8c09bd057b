import Conformance.Regex.Parsing
import Conformance.Regex.Matching
import Conformance.Text.Quoted

/-!
# Regexes

A regex is the text it was written as together with its switches; the tree it is matched by is a
function of the two.

## Main Definitions

* `Regex` — source, switches and tree
* `Regex.ofSource` — reading one
* `Regex.findsIn?`, `Regex.matchesAll?` — searching and matching whole texts, with the fault of a
  group that is crossed
* `Regex.matchesAll` — matching whole texts, a crossed group being a match
* `Regex.render` — its written form
* `Regex.escapeName` — a text as the source of a regex that matches it alone
-/

namespace Conformance

/-- A regex. -/
structure Regex where
  source : String
  flags : Regex.Flags
  tree : Regex.Node
  deriving DecidableEq, Repr, Inhabited

namespace Regex

/-- The regex written by a source, under switches that the source can add to. -/
def ofSource (source : String) (flags : Flags) : Except Refusal Regex := do
  let (tree, flags) ← read source flags
  return ⟨source, flags, tree⟩

/-- The whole text is a match. -/
def matchesAll (r : Regex) (text : String) : Bool := (r.tree.matchWhole text).isSome

/-- What it means to have found a match or none.  A match with a group that ends before it starts is
a fault. -/
def verdict : Option Trail → Except Fault Bool
  | none => .ok false
  | some t => if t.isCrossed then .error .crossedGroup else .ok true

/-- A match is looked for in the text. -/
def findsIn? (r : Regex) (text : String) : Except Fault Bool := verdict (r.tree.search text)

/-- The whole text is matched. -/
def matchesAll? (r : Regex) (text : String) : Except Fault Bool := verdict (r.tree.matchWhole text)

/-- The switches by the names they are written with. -/
def flagNames (f : Flags) : List String :=
  [(f.template, "re.TEMPLATE"), (f.ignoreCase, "re.IGNORECASE"), (f.multiline, "re.MULTILINE"),
    (f.dotAll, "re.DOTALL"), (f.verbose, "re.VERBOSE"), (f.ascii, "re.ASCII")].filterMap
    fun (set, name) => if set then some name else none

/-- The written form of a regex: its quoted source, cut at 200 characters, and its switches. -/
def render (r : Regex) : String :=
  let source := String.ofList ((Text.quote r.source).toList.take 200)
  let names := flagNames r.flags
  if names.isEmpty then s!"re.compile({source})"
  else "re.compile(" ++ source ++ ", " ++ String.intercalate "|" names ++ ")"

/-- The characters that are written behind a backslash to stand for themselves. -/
def escapedChars : List Char :=
  "()[]\x7b\x7d?*+-|^$\\.&~# \t\n\r\x0b\x0c".toList

/-- The source of a regex that matches a text and nothing else. -/
def escapeName (text : String) : String :=
  String.ofList (text.toList.flatMap fun c => if escapedChars.contains c then ['\\', c] else [c])

end Regex

end Conformance
