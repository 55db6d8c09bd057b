import Conformance.Value.Equality

/-!
# Values in descriptors

A literal stands in a descriptor with lists for its tuples and dictionaries for its views, and what
comes back from there is equal to the same values as before.

## Main Definitions

* `Value.TextKeyed` — a value whose mappings, at every depth, have texts as keys

## Main statements

* `Value.deepEqual_jsonable` — what a literal is turned into in a descriptor is equal to the same
  values
* `Value.jsonable_jsonable` — and it stands there as it is
-/

namespace Conformance.Value

/-! ## Literals in descriptors -/

/-- Entries are equal to others when under each key there is an equal value. -/
theorem deepEqualUnder_eq_all (xs ys : List (Value × Value)) :
    deepEqualUnder xs ys = xs.all fun e => (Entries.find? e.1 ys).any (deepEqual e.2) := by
  induction xs with
  | nil => rfl
  | cons e xs ih =>
    obtain ⟨k, v⟩ := e
    rw [deepEqualUnder, ih, List.all_cons]
    cases Entries.find? k ys <;> rfl

theorem length_jsonableUnder (entries : List (Value × Value)) :
    (jsonableUnder entries).length = entries.length := by
  induction entries with
  | nil => rfl
  | cons e rest ih => rw [jsonableUnder, List.length_cons, List.length_cons, ih]

mutual

/-- **A literal is turned into one that is equal to the same values.** -/
theorem deepEqual_jsonable (v x : Value) : v.deepEqual x.jsonable = v.deepEqual x := by
  cases x with
  | seq form tag items =>
    cases v with
    | seq _ _ xs => exact deepEqualAll_jsonable xs items
    | _ => rfl
  | mapping form tag entries =>
    cases v with
    | mapping _ _ xs =>
      have hfind : ∀ e : Value × Value, (Entries.find? e.1 (jsonableUnder entries)).any (deepEqual e.2) =
          (Entries.find? e.1 entries).any (deepEqual e.2) :=
        fun e => any_find?_jsonableUnder e.1 e.2 entries
      rw [jsonable, dict, deepEqual, deepEqual, length_jsonableUnder, deepEqualUnder_eq_all,
        deepEqualUnder_eq_all, funext hfind]
    | _ => rfl
  | _ => rfl
termination_by structural x

/-- Members are equal to what they are turned into, one by one. -/
theorem deepEqualAll_jsonable (xs ys : List Value) :
    deepEqualAll xs (jsonableAll ys) = deepEqualAll xs ys := by
  cases ys with
  | nil => rfl
  | cons y ys =>
    cases xs with
    | nil => rfl
    | cons x xs =>
      rw [jsonableAll, deepEqualAll, deepEqualAll, deepEqual_jsonable x y, deepEqualAll_jsonable xs ys]
termination_by structural ys

/-- What is found under a key is equal to what it is turned into. -/
theorem any_find?_jsonableUnder (k v : Value) (ys : List (Value × Value)) :
    ((Entries.find? k (jsonableUnder ys)).any (deepEqual v)) =
      (Entries.find? k ys).any (deepEqual v) := by
  cases ys with
  | nil => rfl
  | cons e ys =>
    obtain ⟨key, y⟩ := e
    rw [jsonableUnder, Entries.find?, Entries.find?]
    split
    · rw [Option.any_some, Option.any_some, deepEqual_jsonable v y]
    · exact any_find?_jsonableUnder k v ys
termination_by structural ys

end

mutual

/-- What is turned into what stands in a descriptor stands there as it is. -/
theorem jsonable_jsonable (v : Value) : v.jsonable.jsonable = v.jsonable := by
  cases v with
  | seq form tag items =>
    rw [jsonable, list, jsonable, jsonableAll_jsonableAll items]
    rfl
  | mapping form tag entries =>
    rw [jsonable, dict, jsonable, jsonableUnder_jsonableUnder entries]
    rfl
  | _ => rfl
termination_by structural v

theorem jsonableAll_jsonableAll (vs : List Value) : jsonableAll (jsonableAll vs) = jsonableAll vs := by
  cases vs with
  | nil => rfl
  | cons v vs => rw [jsonableAll, jsonableAll, jsonable_jsonable v, jsonableAll_jsonableAll vs]
termination_by structural vs

theorem jsonableUnder_jsonableUnder (entries : List (Value × Value)) :
    jsonableUnder (jsonableUnder entries) = jsonableUnder entries := by
  cases entries with
  | nil => rfl
  | cons e entries =>
    obtain ⟨k, v⟩ := e
    rw [jsonableUnder, jsonableUnder, jsonable_jsonable v, jsonableUnder_jsonableUnder entries]
termination_by structural entries

end

/-! ## Texts as keys -/

/-- **A value whose mappings have texts as keys**, at every depth of sequences and of the values of
mappings.  A mapping holds each of its keys once. -/
inductive TextKeyed : Value → Prop where
  | plain {v : Value} : v.isSequence = false → v.isMapping = false → TextKeyed v
  | seq {form : SeqForm} {tag : Nat} {items : List Value} :
    (∀ v ∈ items, TextKeyed v) → TextKeyed (.seq form tag items)
  | mapping {form : MapForm} {tag : Nat} {entries : List (Value × Value)} {names : List String} :
    entries.map Prod.fst = names.map .text → names.Nodup → (∀ e ∈ entries, TextKeyed e.2) →
    TextKeyed (.mapping form tag entries)

end Conformance.Value
