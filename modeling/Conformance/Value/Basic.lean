import Conformance.Number.Numeric
import Conformance.Regex.Compiled

/-!
# Values

The values that patterns are written with and that validators judge: data as in JSON, the other
built-in data of the host, its classes, and objects of its own that are only known by their face.

## Main Definitions

* `Value` — a value
* `Class`, `HostClass`, `HostObject` — the host's classes and objects
* `ValidatorFace` — a compiled validator that stands among values
* `Value.isInstance`, `Value.isCallable`, `Value.truth` — what the host tells of any value
* `Value.typeName` — the name of a value's class

## Design Notes

Containers carry a `tag`, and the host's objects and validators an identity of their own, so that
"the very same object" can be told from "an equal object".  Data without parts are the same when
they are equal.
-/

namespace Conformance

/-! ## The host's classes and objects -/

/-- A class of the host's own. -/
structure HostClass where
  id : Nat
  /-- Where the class is defined. -/
  home : String
  name : String
  /-- The classes it derives from, itself not included. -/
  ancestors : List Nat
  deriving DecidableEq, Repr, Inhabited

/-- The classes every host has. -/
inductive BuiltinClass where
  | str | int | float | bool | dict | list | tuple | bytes | set | object | type | nullType | mapping
  deriving DecidableEq, Repr, Inhabited

namespace BuiltinClass

/-- The name of a built-in class. -/
def name : BuiltinClass → String
  | str => "str"
  | int => "int"
  | float => "float"
  | bool => "bool"
  | dict => "dict"
  | list => "list"
  | tuple => "tuple"
  | bytes => "bytes"
  | set => "set"
  | object => "object"
  | type => "type"
  | nullType => "NoneType"
  | mapping => "Mapping"

/-- Where a built-in class is defined. -/
def home : BuiltinClass → String
  | mapping => "collections.abc"
  | _ => "builtins"

end BuiltinClass

/-- A class. -/
inductive Class where
  | builtin (b : BuiltinClass)
  | host (c : HostClass)
  deriving DecidableEq, Repr, Inhabited

namespace Class

/-- The name of a class. -/
def name : Class → String
  | builtin b => b.name
  | host c => c.name

/-- Where a class is defined. -/
def home : Class → String
  | builtin b => b.home
  | host c => c.home

/-- The name of a class with the place of its definition; the host's own classes go without. -/
def path : Class → String
  | builtin .mapping => "collections.abc.Mapping"
  | builtin b => b.name
  | host c => s!"{c.home}.{c.name}"

end Class

/-- An object of the host, by what can be seen of it. -/
structure HostObject where
  id : Nat
  /-- The written form. -/
  text : String
  typeName : String
  /-- The name it was defined under, for a function. -/
  name : Option String
  callable : Bool
  /-- The host's own classes that it is an instance of. -/
  classes : List Nat
  deriving DecidableEq, Repr, Inhabited

/-- The identity of a validator: one that was built on its own has a number, and one inside it is
found by the way that leads to it. -/
structure Label where
  base : Nat
  path : List Nat
  deriving DecidableEq, Repr, Inhabited

/-- A compiled validator among values: all that shows of it is its identity and two names. -/
structure ValidatorFace where
  label : Label
  typeName : String
  name : String
  deriving DecidableEq, Repr, Inhabited

/-! ## Values -/

/-- The two forms of sequences. -/
inductive SeqForm where
  | list
  | tuple
  deriving DecidableEq, Repr, Inhabited

/-- The two forms of mappings: a dictionary, and a read-only view of one. -/
inductive MapForm where
  | dict
  | view
  deriving DecidableEq, Repr, Inhabited

/-- A value. -/
inductive Value where
  | null
  | bool (b : Bool)
  | number (n : Num)
  | text (s : String)
  | bytes (bs : List UInt8)
  | seq (form : SeqForm) (tag : Nat) (items : List Value)
  /-- A mapping, in the order in which its keys were first written. -/
  | mapping (form : MapForm) (tag : Nat) (entries : List (Value × Value))
  | set (tag : Nat) (members : List Value)
  | cls (c : Class)
  | regex (r : Regex)
  | ellipsis
  /-- The marker for the schema being defined. -/
  | selfMarker
  /-- What stands for an absent property. -/
  | missing
  | host (h : HostObject)
  | validator (f : ValidatorFace)
  deriving Repr, Inhabited

namespace Value

/-- An integer. -/
def int (n : Int) : Value := .number (.int n)

/-- A float. -/
def float (x : Binary64) : Value := .number (.float x)

/-- A fresh list. -/
def list (items : List Value) : Value := .seq .list 0 items

/-- A fresh dictionary. -/
def dict (entries : List (Value × Value)) : Value := .mapping .dict 0 entries

/-- The name of a value's class. -/
def typeName : Value → String
  | null => "NoneType"
  | bool _ => "bool"
  | number (.int _) => "int"
  | number (.float _) => "float"
  | text _ => "str"
  | bytes _ => "bytes"
  | seq .list _ _ => "list"
  | seq .tuple _ _ => "tuple"
  | mapping .dict _ _ => "dict"
  | mapping .view _ _ => "mappingproxy"
  | set .. => "set"
  | cls (.builtin .mapping) => "ABCMeta"
  | cls _ => "type"
  | regex _ => "Pattern"
  | ellipsis => "ellipsis"
  | selfMarker => "_SelfMarker"
  | missing => "_Missing"
  | host h => h.typeName
  | validator f => f.typeName

/-- A mapping of either form. -/
def isMapping : Value → Bool
  | mapping .. => true
  | _ => false

/-- A list or a tuple. -/
def isSequence : Value → Bool
  | seq .. => true
  | _ => false

/-- What can be called: classes, validators, and objects of the host that say so. -/
def isCallable : Value → Bool
  | cls _ => true
  | host h => h.callable
  | validator _ => true
  | _ => false

/-- Membership in a built-in class.  A truth value is an integer too, and everything is an
object. -/
def isBuiltinInstance : BuiltinClass → Value → Bool
  | .object, _ => true
  | .str, text _ => true
  | .int, number (.int _) => true
  | .int, bool _ => true
  | .float, number (.float _) => true
  | .bool, bool _ => true
  | .dict, mapping .dict _ _ => true
  | .mapping, mapping .. => true
  | .list, seq .list _ _ => true
  | .tuple, seq .tuple _ _ => true
  | .bytes, bytes _ => true
  | .set, set .. => true
  | .type, cls _ => true
  | .nullType, null => true
  | _, _ => false

/-- Membership in a class. -/
def isInstance (v : Value) : Class → Bool
  | .builtin b => v.isBuiltinInstance b
  | .host c =>
    match v with
    | host h => h.classes.contains c.id
    | _ => false

/-- The truth of a value: zero, the empty containers, null and absence are false. -/
def truth : Value → Bool
  | null => false
  | bool b => b
  | number n => n.isNonzero
  | text s => !s.isEmpty
  | bytes bs => !bs.isEmpty
  | seq _ _ items => !items.isEmpty
  | mapping _ _ entries => !entries.isEmpty
  | set _ members => !members.isEmpty
  | missing => false
  | _ => true

/-- A value that can be a key: no list, mapping or set, nor a tuple that holds one. -/
def isHashable : Value → Bool
  | seq .list _ _ => false
  | seq .tuple _ items => all items
  | mapping .. => false
  | set .. => false
  | _ => true
where
  /-- All members of a tuple can be keys. -/
  all : List Value → Bool
    | [] => true
    | v :: vs => v.isHashable && all vs

end Value

end Conformance
