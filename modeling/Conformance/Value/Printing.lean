import Conformance.Value.Basic
import Conformance.Decimal.Shortest

/-!
# Written forms of values

## Main Definitions

* `Value.render` — the full written form
* `Value.represent` — the short form that messages show
* `Value.nameText` — the text that a key is known by as the name of a property
-/

namespace Conformance

/-- The longest written form that a message shows in full. -/
def representLimit : Nat := 80

namespace Value

mutual

/-- The full written form of a value. -/
def render : Value → String
  | null => "None"
  | bool b => if b then "True" else "False"
  | number n => n.render
  | text s => Text.quote s
  | bytes bs => Text.quoteBytes bs
  | seq .list _ items => "[" ++ renderAll items ++ "]"
  | seq .tuple _ [v] => "(" ++ render v ++ ",)"
  | seq .tuple _ items => "(" ++ renderAll items ++ ")"
  | mapping .dict _ entries => "\x7b" ++ renderEntries entries ++ "\x7d"
  | mapping .view _ entries => "mappingproxy(\x7b" ++ renderEntries entries ++ "\x7d)"
  | set _ [] => "set()"
  | set _ members => "\x7b" ++ renderAll members ++ "\x7d"
  | cls c => "<class '" ++ c.path ++ "'>"
  | regex r => r.render
  | ellipsis => "Ellipsis"
  | selfMarker => "SELF"
  | missing => "<missing>"
  | host h => h.text
  | validator f => "<" ++ f.typeName ++ " " ++ f.name ++ ">"

/-- Written forms with commas between them. -/
def renderAll : List Value → String
  | [] => ""
  | [v] => render v
  | v :: vs => render v ++ ", " ++ renderAll vs

/-- Written entries with commas between them. -/
def renderEntries : List (Value × Value) → String
  | [] => ""
  | [(k, v)] => render k ++ ": " ++ render v
  | (k, v) :: rest => render k ++ ": " ++ render v ++ ", " ++ renderEntries rest

end

/-- The short form that messages show: a class by its name alone, and any other value by its written
form, cut at 80 characters. -/
def represent : Value → String
  | cls c => "<class " ++ c.name ++ ">"
  | v => Text.clip representLimit v.render

/-- A key as the name of a property: a text is its own name, and any other key goes by its written
form. -/
def nameText : Value → String
  | text s => s
  | v => v.render

end Value

end Conformance
