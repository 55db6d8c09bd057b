import Conformance.Proofs.Value.Equivalence

/-!
# The kinds of equal values

Structural equality keeps truth values, numbers, texts, null, mappings and sequences apart.  It does so at
every depth of sequences and of the values of mappings, but the keys of mappings are compared as keys,
and under those a truth value is the number that it counts as.

## Main Definitions

* `Kind`, `Value.kind` — what structural equality keeps apart
* `Value.Corresponds` — two values that stand at the same place of two others
* `Value.InKey` — a value in a key of a mapping
* `Value.CountsAsTruth` — truth values and the numbers that are equal to one as keys

## Main statements

* `Value.Corresponds.deepEqual`, `Value.Corresponds.keyEq` — what stands at the same place of equal
  values is equal, as a key if it is in one
* `Value.exists_corresponds` — every place of a value is one of what it equals
* `Value.deepEqual_keysSwapped` — a value equals the one with truth values for numbers in its keys, and
  numbers for truth values
* `Value.deepEqual_kinds` — kinds agree outside of keys, and everywhere exactly if no key holds a truth
  value or a number that counts as one
-/

namespace Conformance

/-- **What structural equality keeps apart.** -/
inductive Kind where
  | bool
  | number
  | text
  | null
  | mapping
  | sequence
  | other
  deriving DecidableEq

namespace Value

/-- The kind of a value. -/
def kind : Value → Kind
  | bool _ => .bool
  | number _ => .number
  | text _ => .text
  | null => .null
  | mapping .. => .mapping
  | seq .. => .sequence
  | _ => .other

/-- A truth value on one side, and on the other the number that it counts as. -/
inductive Confused : Value → Value → Prop where
  | number {b : Bool} {n : Num} : Num.eqv (.int b.toNat) n = true → Confused (.bool b) (.number n)
  | bool {b : Bool} {n : Num} : Num.eqv n (.int b.toNat) = true → Confused (.number n) (.bool b)

theorem Confused.symm {a b : Value} (h : Confused a b) : Confused b a := by
  cases h with
  | number h => exact .bool ((Num.eqv_comm _ _).trans h)
  | bool h => exact .number ((Num.eqv_comm _ _).trans h)

/-- **Corresponding places**: `a` stands in the first value where `b` stands in the second.  Members
correspond by their place, values of mappings by their key, and keys to the equal keys.  `inKey` tells that
the place is in a key. -/
inductive Corresponds (a b : Value) : Bool → Value → Value → Prop where
  | self : Corresponds a b false a b
  | member {inKey : Bool} {form form' : SeqForm} {tag tag' i : Nat} {xs ys : List Value} {v w : Value} :
    xs[i]? = some v → ys[i]? = some w → Corresponds a b inKey v w →
    Corresponds a b inKey (.seq form tag xs) (.seq form' tag' ys)
  | value {inKey : Bool} {form form' : MapForm} {tag tag' : Nat} {xs ys : List (Value × Value)}
    {e : Value × Value} {w : Value} :
    e ∈ xs → Entries.find? e.1 ys = some w → Corresponds a b inKey e.2 w →
    Corresponds a b inKey (.mapping form tag xs) (.mapping form' tag' ys)
  | key {inKey : Bool} {form form' : MapForm} {tag tag' : Nat} {xs ys : List (Value × Value)}
    {e e' : Value × Value} :
    e ∈ xs → e' ∈ ys → keyEq e'.1 e.1 = true → Corresponds a b inKey e.1 e'.1 →
    Corresponds a b true (.mapping form tag xs) (.mapping form' tag' ys)

/-- **A value in a key** of a mapping, at any depth of the key and of the value that holds the mapping. -/
inductive InKey (a : Value) : Value → Prop where
  | member {form : SeqForm} {tag : Nat} {items : List Value} {v : Value} :
    v ∈ items → InKey a v → InKey a (.seq form tag items)
  | value {form : MapForm} {tag : Nat} {entries : List (Value × Value)} {e : Value × Value} :
    e ∈ entries → InKey a e.2 → InKey a (.mapping form tag entries)
  | key {form : MapForm} {tag : Nat} {entries : List (Value × Value)} {e : Value × Value} :
    e ∈ entries → Inside a e.1 → InKey a (.mapping form tag entries)

/-- A truth value, or a number that is equal to one as a key. -/
def CountsAsTruth : Value → Prop
  | bool _ => True
  | number n => n.eqv (.int 0) = true ∨ n.eqv (.int 1) = true
  | _ => False

variable {a b x y : Value} {inKey : Bool}

/-! ## One step -/

/-- Structurally equal values are of one kind. -/
theorem kind_eq_of_deepEqual (h : x.deepEqual y = true) : x.kind = y.kind := by
  cases x <;> cases y <;> first | rfl | exact Bool.noConfusion h

/-- Equal keys are of one kind, unless one is a truth value and the other a number. -/
theorem kind_eq_or_confused_of_keyEq (h : keyEq x y = true) : x.kind = y.kind ∨ Confused x y := by
  cases x <;> cases y <;> first
    | exact .inl rfl
    | exact .inr (.number h)
    | exact .inr (.bool h)
    | exact Bool.noConfusion h

/-- Equal members in the same order are as many on both sides. -/
theorem keyEqAll_iff {xs ys : List Value} :
    keyEqAll xs ys = true ↔ List.Forall₂ (fun v w => keyEq v w = true) xs ys := by
  induction xs generalizing ys with
  | nil => cases ys <;> simp [keyEqAll]
  | cons x xs ih => cases ys <;> simp [keyEqAll, ih]

/-- What is found stands under an equal key. -/
theorem exists_of_find? {α : Type} {key : Value} {c : α} {entries : List (Value × α)}
    (h : Entries.find? key entries = some c) : ∃ e ∈ entries, keyEq e.1 key = true ∧ e.2 = c := by
  induction entries with
  | nil => cases h
  | cons e entries ih =>
    rw [Entries.find?] at h
    split at h
    · next heq => exact ⟨e, List.mem_cons_self, heq, Option.some.inj h⟩
    · obtain ⟨e', he', hfound⟩ := ih h
      exact ⟨e', List.mem_cons_of_mem e he', hfound⟩

/-- Each entry of a mapping has one in what the mapping equals. -/
theorem exists_find?_of_deepEqual {form form' : MapForm} {tag tag' : Nat} {xs ys : List (Value × Value)}
    (h : deepEqual (.mapping form tag xs) (.mapping form' tag' ys) = true) {e : Value × Value}
    (he : e ∈ xs) : ∃ w, Entries.find? e.1 ys = some w ∧ e.2.deepEqual w = true := by
  rw [deepEqual, Bool.and_eq_true, deepEqualUnder_eq_all, List.all_eq_true] at h
  simpa [Option.any_eq_true] using h.2 e he

/-! ## Corresponding places -/

namespace Corresponds

/-- What stands at the same place of equal keys are equal keys, and no keys of mappings. -/
theorem keyEq_of_keyEq (h : Corresponds a b inKey x y) (heq : keyEq y x = true) :
    keyEq b a = true ∧ inKey = false := by
  induction h with
  | self => exact ⟨heq, rfl⟩
  | member hv hw _ ih =>
    rw [keyEq, Bool.and_eq_true, keyEqAll_iff, List.forall₂_iff_get] at heq
    obtain ⟨-, -, hall⟩ := heq
    obtain ⟨hi, rfl⟩ := List.getElem?_eq_some_iff.mp hv
    obtain ⟨hj, rfl⟩ := List.getElem?_eq_some_iff.mp hw
    exact ih (hall _ hj hi)
  | value => cases heq
  | key => cases heq

/-- **Outside of keys, what stands at the same place of equal values is equal.** -/
theorem deepEqual (h : Corresponds a b inKey x y) (houtside : inKey = false)
    (heq : x.deepEqual y = true) : a.deepEqual b = true := by
  induction h with
  | self => exact heq
  | member hv hw _ ih =>
    rw [Value.deepEqual, deepEqualAll_iff] at heq
    obtain ⟨hi, rfl⟩ := List.getElem?_eq_some_iff.mp hv
    obtain ⟨hj, rfl⟩ := List.getElem?_eq_some_iff.mp hw
    exact ih houtside (heq.2 _ hi hj)
  | value he hfound _ ih =>
    obtain ⟨w, hw, hequal⟩ := exists_find?_of_deepEqual heq he
    rw [hw] at hfound
    cases hfound
    exact ih houtside hequal
  | key => cases houtside

/-- **In keys, what stands at the same place is equal as a key.** -/
theorem keyEq (h : Corresponds a b inKey x y) (hinside : inKey = true) : keyEq b a = true := by
  induction h with
  | self => cases hinside
  | member _ _ _ ih => exact ih hinside
  | value _ _ _ ih => exact ih hinside
  | key _ _ heq hkey _ => exact (hkey.keyEq_of_keyEq heq).1

/-- A place is inside of the value. -/
theorem inside (h : Corresponds a b inKey x y) : Inside a x := by
  induction h with
  | self => exact .self
  | member hv _ _ ih => exact .member (List.mem_of_getElem? hv) ih
  | value he _ _ ih => exact .value he ih
  | key he _ _ _ ih => exact .key he ih

/-- A place in a key is in a key of the value. -/
theorem inKey_of_eq_true (h : Corresponds a b inKey x y) (hinside : inKey = true) : InKey a x := by
  induction h with
  | self => cases hinside
  | member hv _ _ ih => exact .member (List.mem_of_getElem? hv) (ih hinside)
  | value he _ _ ih => exact .value he (ih hinside)
  | key he _ _ hkey _ => exact .key he hkey.inside

end Corresponds

/-- Every place of a key is one of each key that it equals. -/
theorem exists_corresponds_of_keyEq (h : Inside a x) (heq : keyEq y x = true) :
    ∃ b, Corresponds a b false x y := by
  induction h generalizing y with
  | self => exact ⟨y, .self⟩
  | @member form tag items v hv _ ih =>
    cases y with
    | seq form' tag' ys =>
      rw [keyEq, Bool.and_eq_true, keyEqAll_iff, List.forall₂_iff_get] at heq
      obtain ⟨-, hlength, hall⟩ := heq
      obtain ⟨i, hi, rfl⟩ := List.mem_iff_getElem.mp hv
      have hj : i < ys.length := hlength ▸ hi
      obtain ⟨b, hb⟩ := ih (hall i hj hi)
      exact ⟨b, .member (List.getElem?_eq_getElem hi) (List.getElem?_eq_getElem hj) hb⟩
    | _ => cases heq
  | key => cases y <;> cases heq
  | value => cases y <;> cases heq

/-- **Every place of a value is one of what it equals.** -/
theorem exists_corresponds (h : Inside a x) (heq : x.deepEqual y = true) :
    ∃ inKey b, Corresponds a b inKey x y := by
  induction h generalizing y with
  | self => exact ⟨false, y, .self⟩
  | @member form tag items v hv _ ih =>
    cases y with
    | seq form' tag' ys =>
      obtain ⟨hlength, hall⟩ := deepEqualAll_iff.mp heq
      obtain ⟨i, hi, rfl⟩ := List.mem_iff_getElem.mp hv
      have hj : i < ys.length := hlength ▸ hi
      obtain ⟨inKey, b, hb⟩ := ih (hall i hi hj)
      exact ⟨inKey, b, .member (List.getElem?_eq_getElem hi) (List.getElem?_eq_getElem hj) hb⟩
    | _ => cases heq
  | key he hinside _ =>
    cases y with
    | mapping form' tag' ys =>
      obtain ⟨w, hw, -⟩ := exists_find?_of_deepEqual heq he
      obtain ⟨e', he', hequal, -⟩ := exists_of_find? hw
      obtain ⟨b, hb⟩ := exists_corresponds_of_keyEq hinside hequal
      exact ⟨true, b, .key he he' hequal hb⟩
    | _ => cases heq
  | value he _ ih =>
    cases y with
    | mapping form' tag' ys =>
      obtain ⟨w, hw, hequal⟩ := exists_find?_of_deepEqual heq he
      obtain ⟨inKey, b, hb⟩ := ih hequal
      exact ⟨inKey, b, .value he hw hb⟩
    | _ => cases heq

/-! ## Truth values for numbers -/

mutual

/-- A key with numbers for its truth values, and truth values for the numbers that count as one. -/
def keySwapped : Value → Value
  | bool b => .int b.toNat
  | number n =>
    if n.eqv (.int 0) then .bool false else if n.eqv (.int 1) then .bool true else .number n
  | seq .tuple tag items => .seq .tuple tag (keysSwappedAll items)
  | v => v

/-- The members of a tuple, swapped. -/
def keysSwappedAll : List Value → List Value
  | [] => []
  | v :: vs => keySwapped v :: keysSwappedAll vs

end

theorem keysSwappedAll_eq_map (vs : List Value) : keysSwappedAll vs = vs.map keySwapped := by
  induction vs with
  | nil => rfl
  | cons v vs ih => rw [keysSwappedAll, ih, List.map_cons]

/-- What counts as a truth value changes its kind. -/
theorem kind_keySwapped_ne (h : a.CountsAsTruth) : a.keySwapped.kind ≠ a.kind := by
  cases a with
  | bool b => exact nofun
  | number n =>
    rw [keySwapped]
    rcases h with h | h
    · rw [if_pos h]
      exact nofun
    · rw [if_pos h]
      split <;> exact nofun
  | _ => exact h.elim

/-- A number that equals an integer has the form of the integer. -/
theorem value?_of_eqv {n : Num} {m : Int} (h : n.eqv (.int m) = true) :
    n.value? = (Num.int m).value? := by
  obtain ⟨v, hn, hm⟩ := Num.eqv_iff.mp h
  rw [hn, hm]

mutual

/-- **A swapped key is the same key.** -/
theorem keyForm?_keySwapped (k : Value) : k.keySwapped.keyForm? = k.keyForm? := by
  cases k with
  | bool b => rfl
  | number n =>
    rw [keySwapped]
    split
    · next h => rw [keyForm?, keyForm?, value?_of_eqv h]; rfl
    · split
      · next h => rw [keyForm?, keyForm?, value?_of_eqv h]; rfl
      · rfl
  | seq form tag items =>
    cases form with
    | list => rfl
    | tuple => rw [keySwapped, keyForm?, keyForm?, keyForms?_keysSwappedAll items]
  | _ => rfl
termination_by structural k

theorem keyForms?_keysSwappedAll (vs : List Value) : keyForms? (keysSwappedAll vs) = keyForms? vs := by
  cases vs with
  | nil => rfl
  | cons v vs =>
    rw [keysSwappedAll, keyForms?, keyForms?, keyForm?_keySwapped v, keyForms?_keysSwappedAll vs]
termination_by structural vs

end

theorem IsKey.keySwapped (h : x.IsKey) : x.keySwapped.IsKey := by
  induction h with
  | null => exact .null
  | bool b => exact .number nofun
  | number hn =>
    rw [Value.keySwapped]
    split
    · exact .bool false
    · split
      · exact .bool true
      · exact .number hn
  | text s => exact .text s
  | bytes bs => exact .bytes bs
  | tuple _ ih =>
    rw [Value.keySwapped, keysSwappedAll_eq_map]
    exact .tuple (List.forall_mem_map.mpr ih)

/-- Every place of a key is one of the swapped key, where what stands there is swapped. -/
theorem Inside.corresponds_keySwapped (h : Inside a x) (hx : x.IsKey) :
    Corresponds a a.keySwapped false x x.keySwapped := by
  induction hx with
  | @tuple tag items _ ih =>
    cases h with
    | self => exact .self
    | member hv hinside =>
      obtain ⟨i, hi, rfl⟩ := List.mem_iff_getElem.mp hv
      refine .member (List.getElem?_eq_getElem hi) ?_ (ih _ hv hinside)
      rw [keysSwappedAll_eq_map, List.getElem?_map, List.getElem?_eq_getElem hi, Option.map_some]
  | _ =>
    cases h
    exact .self

mutual

/-- **A value with its keys swapped**, in every mapping. -/
def keysSwapped : Value → Value
  | seq form tag items => .seq form tag (membersSwapped items)
  | mapping form tag entries => .mapping form tag (entriesSwapped entries)
  | v => v

/-- Members with their keys swapped. -/
def membersSwapped : List Value → List Value
  | [] => []
  | v :: vs => keysSwapped v :: membersSwapped vs

/-- Entries with swapped keys, their values with their keys swapped. -/
def entriesSwapped : List (Value × Value) → List (Value × Value)
  | [] => []
  | (k, v) :: rest => (keySwapped k, keysSwapped v) :: entriesSwapped rest

end

theorem membersSwapped_eq_map (vs : List Value) : membersSwapped vs = vs.map keysSwapped := by
  induction vs with
  | nil => rfl
  | cons v vs ih => rw [membersSwapped, ih, List.map_cons]

theorem entriesSwapped_eq_map (entries : List (Value × Value)) :
    entriesSwapped entries = entries.map fun e => (e.1.keySwapped, e.2.keysSwapped) := by
  induction entries with
  | nil => rfl
  | cons e entries ih => rw [entriesSwapped, ih, List.map_cons]

/-- **Swapped entries stand under different keys.** -/
theorem keyed_entriesSwapped {entries : List (Value × Value)} (h : Entries.Keyed entries) :
    Entries.Keyed (entriesSwapped entries) := by
  have hkeys : (entriesSwapped entries).map Prod.fst = (entries.map Prod.fst).map keySwapped := by
    rw [entriesSwapped_eq_map, List.map_map, List.map_map]
    rfl
  refine ⟨?_, ?_⟩
  · rw [hkeys]
    exact List.forall_mem_map.mpr fun k hk => (h.isKey k hk).keySwapped
  · rw [hkeys, List.pairwise_map]
    refine h.distinct.imp_of_mem fun {k k'} hk hk' hne => Bool.eq_false_iff.mpr fun heq => ?_
    rw [(h.isKey k hk).keySwapped.keyEq_iff, keyForm?_keySwapped, keyForm?_keySwapped] at heq
    exact Bool.eq_false_iff.mp hne (((h.isKey k hk).keyEq_iff k').mpr heq)

theorem IsData.keysSwapped (h : x.IsData) : x.keysSwapped.IsData := by
  induction h with
  | null => exact .null
  | bool b => exact .bool b
  | number n => exact .number n
  | text s => exact .text s
  | bytes bs => exact .bytes bs
  | seq _ ih =>
    rw [Value.keysSwapped, membersSwapped_eq_map]
    exact .seq (List.forall_mem_map.mpr ih)
  | mapping hkeyed _ ih =>
    rw [Value.keysSwapped]
    refine .mapping (keyed_entriesSwapped hkeyed) ?_
    rw [entriesSwapped_eq_map]
    exact List.forall_mem_map.mpr ih

/-- **Structural equality does not see that keys are swapped.** -/
theorem deepEqual_keysSwapped (h : x.IsData) (hself : x.deepEqual x = true) :
    x.deepEqual x.keysSwapped = true := by
  induction h with
  | @seq form tag items _ ih =>
    obtain ⟨-, hall⟩ := deepEqualAll_iff.mp hself
    rw [keysSwapped, deepEqual, deepEqualAll_iff, membersSwapped_eq_map]
    refine ⟨(List.length_map _).symm, fun i hi hj => ?_⟩
    rw [List.getElem_map]
    exact ih _ (List.getElem_mem hi) (hall i hi hi)
  | @mapping form tag entries hkeyed _ ih =>
    obtain ⟨-, hall⟩ := (deepEqual_mapping_iff hkeyed).mp hself
    rw [keysSwapped, deepEqual_mapping_iff (keyed_entriesSwapped hkeyed), entriesSwapped_eq_map]
    refine ⟨(List.length_map _).symm, fun e he => ?_⟩
    -- an entry is equal to itself, since it is the only one with its key
    obtain ⟨e', he', hform, heq⟩ := hall e he
    obtain rfl : e' = e := hkeyed.eq_of_form_eq he' he hform
    exact ⟨_, List.mem_map_of_mem he, keyForm?_keySwapped _, ih e' he heq⟩
  | _ => exact hself

/-- **A place in a key** is one of the value with its keys swapped, where what stands there is swapped. -/
theorem InKey.corresponds_keysSwapped (h : InKey a x) (hx : x.IsData) :
    Corresponds a a.keySwapped true x x.keysSwapped := by
  induction h with
  | member hv _ ih =>
    cases hx with
    | seq hitems =>
      obtain ⟨i, hi, rfl⟩ := List.mem_iff_getElem.mp hv
      refine .member (List.getElem?_eq_getElem hi) ?_ (ih (hitems _ hv))
      rw [membersSwapped_eq_map, List.getElem?_map, List.getElem?_eq_getElem hi, Option.map_some]
  | @value form tag entries e he _ ih =>
    cases hx with
    | mapping hkeyed hvalues =>
      refine .value he ((keyed_entriesSwapped hkeyed).find?_eq_some_iff.mpr ?_) (ih (hvalues e he))
      rw [entriesSwapped_eq_map]
      exact ⟨_, List.mem_map_of_mem he, keyForm?_keySwapped _, rfl⟩
  | @key form tag entries e he hinside =>
    cases hx with
    | mapping hkeyed hvalues =>
      have hkey : e.1.IsKey := hkeyed.isKey_of_mem he
      have hmem : (e.1.keySwapped, e.2.keysSwapped) ∈ entriesSwapped entries := by
        rw [entriesSwapped_eq_map]
        exact List.mem_map_of_mem he
      exact .key he hmem ((hkey.keySwapped.keyEq_iff _).mpr (keyForm?_keySwapped e.1))
        (hinside.corresponds_keySwapped hkey)

/-! ## Kinds -/

/-- The two sides of a truth value and a number count as truth values. -/
theorem Confused.countsAsTruth (h : Confused a b) : a.CountsAsTruth ∧ b.CountsAsTruth := by
  have hnumber : ∀ (c : Bool) (n : Num), n.eqv (.int c.toNat) = true → (Value.number n).CountsAsTruth := by
    rintro (_ | _) n h
    · exact .inl h
    · exact .inr h
  cases h with
  | @number c n h => exact ⟨trivial, hnumber c n ((Num.eqv_comm _ _).trans h)⟩
  | @bool c n h => exact ⟨hnumber c n h, trivial⟩

/-- **Structural equality keeps kinds apart outside of keys.**  Every place of a value is one of each value
that it equals.  Outside of keys the same kind stands at both, and in keys at most a truth value is a
number.  Kinds agree at all places, whatever the value equals, exactly if no key in it holds a truth value
or a number that counts as one. -/
theorem deepEqual_kinds (x : Value) :
    (∀ y, x.deepEqual y = true →
      (∀ a, Inside a x → ∃ inKey b, Corresponds a b inKey x y) ∧
      (∀ a b, Corresponds a b false x y → a.kind = b.kind) ∧
      ∀ a b, Corresponds a b true x y → a.kind = b.kind ∨ Confused a b) ∧
    (x.IsData → x.deepEqual x = true →
      ((∀ y, y.IsData → x.deepEqual y = true →
          ∀ inKey a b, Corresponds a b inKey x y → a.kind = b.kind) ↔
        ∀ a, InKey a x → ¬ a.CountsAsTruth)) := by
  have hconfused : ∀ y a b, Corresponds a b true x y → a.kind = b.kind ∨ Confused a b := by
    intro y a b h
    rcases kind_eq_or_confused_of_keyEq (h.keyEq rfl) with hkind | hconfused
    · exact .inl hkind.symm
    · exact .inr hconfused.symm
  refine ⟨fun y heq => ⟨fun a ha => exists_corresponds ha heq, ?_, hconfused y⟩, fun hx hself => ?_⟩
  · exact fun a b h => kind_eq_of_deepEqual (h.deepEqual rfl heq)
  constructor
  · intro hkinds a ha hcounts
    have hkind : a.kind = a.keySwapped.kind :=
      hkinds _ hx.keysSwapped (deepEqual_keysSwapped hx hself) true a _ (ha.corresponds_keysSwapped hx)
    exact kind_keySwapped_ne hcounts hkind.symm
  · intro hnone y _ heq inKey a b h
    cases inKey with
    | false => exact kind_eq_of_deepEqual (h.deepEqual rfl heq)
    | true =>
      refine (hconfused y a b h).resolve_right fun hconfused => ?_
      exact hnone a (h.inKey_of_eq_true rfl) hconfused.countsAsTruth.1

/-- The key of one mapping is a tuple with a truth value, and that of the other a tuple with a number; the
mappings are equal. -/
theorem deepEqual_kinds_of_tuple :
    let x : Value := .dict [(.seq .tuple 0 [.text "a", .bool true], .list [.bool true])]
    let y : Value := .dict [(.seq .tuple 0 [.text "a", .int 1], .list [.bool true])]
    x.IsData ∧ x.deepEqual x = true ∧ x.deepEqual y = true ∧
      Corresponds (.bool true) (.int 1) true x y ∧ Confused (.bool true) (.int 1) ∧
      ¬ ∀ y, y.IsData → x.deepEqual y = true →
        ∀ inKey a b, Corresponds a b inKey x y → a.kind = b.kind := by
  intro x y
  have hkey : (Value.seq .tuple 0 [.text "a", .bool true]).IsKey :=
    .tuple (by simpa using ⟨.text "a", .bool true⟩)
  have hx : x.IsData := by
    refine .mapping ⟨?_, List.pairwise_singleton _ _⟩ ?_
    · exact List.forall_mem_singleton.mpr hkey
    · exact List.forall_mem_singleton.mpr (.seq (List.forall_mem_singleton.mpr (.bool true)))
  have hself : x.deepEqual x = true := by decide +kernel
  have hxy : x.deepEqual y = true := by decide +kernel
  have hplace : Corresponds (.bool true) (.int 1) true x y :=
    .key List.mem_cons_self List.mem_cons_self (by decide +kernel) (.member (i := 1) rfl rfl .self)
  obtain ⟨hequal, hexact⟩ := deepEqual_kinds x
  obtain ⟨-, -, hkeys⟩ := hequal y hxy
  refine ⟨hx, hself, hxy, hplace, ?_, fun hkinds => ?_⟩
  · exact (hkeys _ _ hplace).resolve_left nofun
  · exact (hexact hx hself).mp hkinds (.bool true)
      (.key List.mem_cons_self (.member (by simp) .self)) trivial

end Value

end Conformance
