import Conformance.Value.Basic

/-!
# Three equalities of values

Values are compared in three ways: as keys, by structure, and by identity.

## Main Definitions

* `Value.keyEq` — equality of keys, under which the numbers `1`, `1.0` and the truth value are one
* `Value.deepEqual` — structural equality, which keeps truth values apart from numbers and takes
  lists and tuples, and mappings of both forms, for the same
* `Value.identical` — the very same object
* `Entries.insert`, `Entries.find?` — mappings as lists of entries, by equality of keys
* `Value.jsonable` — the same value with lists for tuples and dictionaries for views

## Design Notes

Structural equality compares the keys of two mappings as keys and only their values by structure,
so a truth value and a number can correspond as keys of equal mappings.
-/

namespace Conformance

/-! ## Keys -/

namespace Value

mutual

/-- Equality of keys and of members of a set.  Numbers and truth values compare by value. -/
def keyEq : Value → Value → Bool
  | null, null => true
  | bool a, bool b => a == b
  | bool a, number n => Num.eqv (.int a.toNat) n
  | number n, bool b => Num.eqv n (.int b.toNat)
  | number m, number n => Num.eqv m n
  | text a, text b => a == b
  | bytes a, bytes b => a == b
  | seq f _ xs, seq g _ ys => f == g && keyEqAll xs ys
  | set _ xs, set _ ys => xs.length == ys.length && keysAmong xs ys
  | cls c, cls d => c == d
  | regex r, regex s => r.source == s.source && r.flags == s.flags
  | ellipsis, ellipsis => true
  | selfMarker, selfMarker => true
  | missing, missing => true
  | host h, host h' => h.id == h'.id
  | validator f, validator g => f.label == g.label
  | _, _ => false

/-- Equal keys in the same order. -/
def keyEqAll : List Value → List Value → Bool
  | [], [] => true
  | x :: xs, y :: ys => keyEq x y && keyEqAll xs ys
  | _, _ => false

/-- Every member of the first list has an equal one in the second. -/
def keysAmong : List Value → List Value → Bool
  | [], _ => true
  | x :: xs, ys => ys.any (keyEq x) && keysAmong xs ys

end

end Value

namespace Entries

variable {α : Type}

/-- The value under a key. -/
def find? (key : Value) : List (Value × α) → Option α
  | [] => none
  | (k, a) :: rest => if Value.keyEq k key then some a else find? key rest

/-- Write a value under a key: an equal key stays where it is and takes the new value, and a new key
goes to the end. -/
def insert (key : Value) (a : α) : List (Value × α) → List (Value × α)
  | [] => [(key, a)]
  | (k, b) :: rest => if Value.keyEq k key then (k, a) :: rest else (k, b) :: insert key a rest

/-- What was written last under a key is found there. -/
theorem find?_insert_self {key : Value} (h : Value.keyEq key key = true) (a : α)
    (entries : List (Value × α)) : find? key (insert key a entries) = some a := by
  induction entries with
  | nil => simp [insert, find?, h]
  | cons e rest ih =>
    obtain ⟨k, b⟩ := e
    by_cases hk : Value.keyEq k key = true
    · simp [insert, find?, hk]
    · simp [insert, find?, hk, ih]

/-- The keys in order: an equal key keeps its place, and a new key comes last. -/
theorem map_fst_insert (key : Value) (a : α) (entries : List (Value × α)) :
    (insert key a entries).map Prod.fst =
      if entries.any fun e => Value.keyEq e.1 key then entries.map Prod.fst
      else entries.map Prod.fst ++ [key] := by
  induction entries with
  | nil => rfl
  | cons e rest ih =>
    obtain ⟨k, b⟩ := e
    by_cases hk : Value.keyEq k key = true
    · simp [insert, hk]
    · simp only [insert, hk, Bool.false_eq_true, if_false, List.map_cons, ih, List.any_cons,
        Bool.false_or]
      split <;> rfl

/-- The entries left by writing a list of pairs one after another. -/
def ofPairs (pairs : List (Value × α)) : List (Value × α) :=
  pairs.foldl (fun entries (k, a) => insert k a entries) []

end Entries

/-! ## Structure and identity -/

namespace Value

mutual

/-- **Structural equality.**  Values of different kinds differ: truth values, numbers, texts, null,
mappings, sequences and all others are kinds of their own.  Sequences compare member by member,
mappings by their keys and under each key. -/
def deepEqual : Value → Value → Bool
  | null, null => true
  | bool a, bool b => a == b
  | number m, number n => Num.eqv m n
  | text a, text b => a == b
  | seq _ _ xs, seq _ _ ys => deepEqualAll xs ys
  | mapping _ _ xs, mapping _ _ ys => xs.length == ys.length && deepEqualUnder xs ys
  | bytes a, bytes b => a == b
  | set _ xs, set _ ys => keyEq (.set 0 xs) (.set 0 ys)
  | cls c, cls d => c == d
  | regex r, regex s => r.source == s.source && r.flags == s.flags
  | ellipsis, ellipsis => true
  | selfMarker, selfMarker => true
  | missing, missing => true
  | host h, host h' => h.id == h'.id
  | validator f, validator g => f.label == g.label
  | _, _ => false

/-- Structurally equal members in the same order. -/
def deepEqualAll : List Value → List Value → Bool
  | [], [] => true
  | x :: xs, y :: ys => deepEqual x y && deepEqualAll xs ys
  | _, _ => false

/-- Every entry of the first list has one under an equal key in the second, with a structurally
equal value. -/
def deepEqualUnder : List (Value × Value) → List (Value × Value) → Bool
  | [], _ => true
  | (k, v) :: rest, ys =>
    (match Entries.find? k ys with
      | some w => deepEqual v w
      | none => false) && deepEqualUnder rest ys

end

/-- The very same object: of equal form and content for data without parts, and of the same tag for
containers. -/
def identical : Value → Value → Bool
  | null, null => true
  | bool a, bool b => a == b
  | number m, number n => m == n
  | text a, text b => a == b
  | bytes a, bytes b => a == b
  | seq f s _, seq g t _ => f == g && s == t
  | mapping f s _, mapping g t _ => f == g && s == t
  | set s _, set t _ => s == t
  | cls c, cls d => c == d
  | regex r, regex s => r.source == s.source && r.flags == s.flags
  | ellipsis, ellipsis => true
  | selfMarker, selfMarker => true
  | missing, missing => true
  | host h, host h' => h.id == h'.id
  | validator f, validator g => f.label == g.label
  | _, _ => false

mutual

/-- The same value with lists for tuples and dictionaries for views, at every depth of sequences
and of the values of mappings. -/
def jsonable : Value → Value
  | seq _ _ items => .list (jsonableAll items)
  | mapping _ _ entries => .dict (jsonableUnder entries)
  | v => v

/-- `jsonable` on every member. -/
def jsonableAll : List Value → List Value
  | [] => []
  | v :: vs => jsonable v :: jsonableAll vs

/-- `jsonable` under every key. -/
def jsonableUnder : List (Value × Value) → List (Value × Value)
  | [] => []
  | (k, v) :: rest => (k, jsonable v) :: jsonableUnder rest

end

end Value

end Conformance
