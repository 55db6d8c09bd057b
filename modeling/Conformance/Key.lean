import Conformance.Error

/-!
# Keys of object patterns

A key says which properties an entry of an object pattern is about and how many of them there may
be.  A sign in front is the quantifier and what follows it is a regex for the whole name:

* `name` — every property of that name; a name without special characters has to be there
* `?name` — at most one property
* `+name` — at least one property
* `*name` — any number of properties
* `*` — the properties that no other key is about

## Main Definitions

* `Quantifier`, `Quantifier.symbol` — how many properties a key allows
* `Key.split` — the quantifier and the source of the name
* `Key`, `Key.ofWritten` — a key that is ready to be matched
* `Key.claims` — the key is about a property
* `Key.isLiteral` — the name is written without special characters
-/

namespace Conformance

/-- How many properties a key allows. -/
inductive Quantifier where
  /-- At most one. -/
  | optional
  /-- Any number. -/
  | any
  /-- At least one. -/
  | atLeastOne
  /-- Any number, but at least one if the name is literal and does not admit absence. -/
  | exact
  /-- The properties that no other key is about. -/
  | catchAll
  deriving DecidableEq, Repr, Inhabited

namespace Quantifier

/-- The name a quantifier is listed under. -/
def name : Quantifier → String
  | optional => "OPTIONAL"
  | any => "ANY"
  | atLeastOne => "AT_LEAST_ONE"
  | exact => "EXACT"
  | catchAll => "CATCH_ALL"

/-- The sign of a quantifier. -/
def symbol : Quantifier → String
  | optional => "?"
  | any => "*"
  | atLeastOne => "+"
  | exact => ""
  | catchAll => "**"

/-- The quantifier that a first character stands for. -/
def ofSign? : Char → Option Quantifier
  | '?' => some optional
  | '+' => some atLeastOne
  | '*' => some any
  | _ => none

end Quantifier

/-- The characters with a meaning of their own in a name. -/
def specialChars : List Char := ".^$*+?\x7b\x7d[]\\|()".toList

/-- A name without special characters stands for itself. -/
def isLiteralName (name : String) : Bool := name.toList.all fun c => !specialChars.contains c

/-- A key, its name read as a regex; the catch-all key has no name. -/
structure Key where
  written : String
  quantifier : Quantifier
  name : Option Regex
  deriving DecidableEq, Repr, Inhabited

namespace Key

/-- **The grammar of keys**: the quantifier, and the source of the name. -/
def split (key : String) : Except CompileError (Quantifier × Option String) :=
  if key = "*" then .ok (.catchAll, none)
  else
    match key.toList with
    | c :: body =>
      match Quantifier.ofSign? c with
      | some q => if body.isEmpty then .error (.keyWithoutName key) else .ok (q, some (String.ofList body))
      | none => .ok (.exact, some key)
    | [] => .ok (.exact, some key)

/-- `split` on any value; only a text is a key. -/
def splitValue : Value → Except CompileError (Quantifier × Option String)
  | .text s => split s
  | v => .error (.keyNotText v)

/-- Read the name of a key that was split. -/
def ofParts (written : String) (quantifier : Quantifier) : Option String → Except Refusal Key
  | none => .ok ⟨written, quantifier, none⟩
  | some source =>
    match Regex.ofSource source .none with
    | .ok r => .ok ⟨written, quantifier, some r⟩
    | .error .invalid => .error (.compile (.keyInvalidRegex written))
    | .error (.fault f) => .error (.fault f)

/-- The key that a text stands for. -/
def ofWritten (written : String) : Except Refusal Key :=
  match split written with
  | .ok (quantifier, source) => ofParts written quantifier source
  | .error e => .error (.compile e)

/-- The source of a key's name. -/
def source (k : Key) : Option String := k.name.map (·.source)

/-- The source of a key's name, empty for the catch-all key. -/
def sourceText (k : Key) : String := k.source.getD ""

/-- The name is written without special characters. -/
def isLiteral (k : Key) : Bool :=
  match k.name with
  | none => false
  | some r => isLiteralName r.source

/-- The key is about a property: its name matches the whole name of the property. -/
def claims (k : Key) (property : String) : Bool :=
  match k.name with
  | none => true
  | some r => r.matchesAll property

/-- The name of a property is matched against the key's name. -/
def matchesName? (k : Key) (property : String) : Except Fault Bool :=
  match k.name with
  | none => .ok true
  | some r => r.matchesAll? property

/-- The key is the catch-all key. -/
def isCatchAll (k : Key) : Bool := k.quantifier = .catchAll

/-- The written form of a key that is ready to be matched. -/
def render (k : Key) : String := s!"<PropertyMatcher {Text.quote k.written} {k.quantifier.name}>"

end Key

end Conformance
