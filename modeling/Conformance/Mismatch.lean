import Conformance.Value.Printing

/-!
# Mismatches and reports

## Main Definitions

* `Path.root`, `Path.member`, `Path.index`, `Path.child` — where in a value a finding lies
* `Mismatch` — one failure at one path, with the failures of each alternative of a choice
* `Mismatch.render` — a mismatch as one message
* `messages` — a report as one message a path

## Design Notes

A report is a list of mismatches, and it is empty exactly when the value conforms.  Text is only made
of it at the end, by `messages`.
-/

namespace Conformance

namespace Path

/-- The path of the whole value. -/
def root : String := "$"

/-- The path of a property. -/
def member (path name : String) : String := path ++ "." ++ name

/-- The path of an element. -/
def index (path : String) (i : Nat) : String := path ++ "[" ++ toString i ++ "]"

/-- The path under any key: integers and truth values are indices, all others are names. -/
def child (path : String) : Value → String
  | .number (.int n) => path ++ "[" ++ toString n ++ "]"
  | .bool b => path ++ "[" ++ (Value.bool b).render ++ "]"
  | key => member path key.nameText

end Path

/-- One failure at one path.  A failed choice holds one group of mismatches for each of its
alternatives. -/
structure Mismatch where
  path : String
  rule : String
  expected : String
  actual : String
  alternatives : List (List Mismatch)
  deriving Repr, Inhabited

namespace Mismatch

/-- A failure without alternatives. -/
def leaf (path rule expected actual : String) : Mismatch := ⟨path, rule, expected, actual, []⟩

mutual

/-- A mismatch as one message.  A failed choice names the reasons of every alternative. -/
def render : Mismatch → String
  | ⟨_, rule, expected, actual, []⟩ => rule ++ ": expected " ++ expected ++ ", got " ++ actual
  | ⟨path, _, _, _, groups⟩ =>
    "none of the alternatives matched: " ++ String.intercalate " AND " (renderGroups path groups)

/-- The reasons of each alternative, in parentheses. -/
def renderGroups (path : String) : List (List Mismatch) → List String
  | [] => []
  | group :: groups =>
    ("(" ++ String.intercalate "; " (renderGroup path group) ++ ")") :: renderGroups path groups

/-- The reasons of one alternative; those of other places begin with their path. -/
def renderGroup (path : String) : List Mismatch → List String
  | [] => []
  | m :: ms =>
    (if m.path = path then render m else m.path ++ ": " ++ render m) :: renderGroup path ms

end

end Mismatch

/-- Add a message at a path, behind what is there already. -/
def addMessage (path text : String) : List (String × String) → List (String × String)
  | [] => [(path, text)]
  | (p, t) :: rest =>
    if p = path then (p, t ++ "; " ++ text) :: rest else (p, t) :: addMessage path text rest

/-- A report as one message a path, in the order in which the paths first occur. -/
def messages (report : List Mismatch) : List (String × String) :=
  report.foldl (fun done m => addMessage m.path m.render done) []

end Conformance
