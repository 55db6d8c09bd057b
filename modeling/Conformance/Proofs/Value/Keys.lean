import Conformance.Proofs.Number.Order
import Conformance.Value.Equality
import Mathlib.Data.List.Nodup
import Mathlib.Data.List.Perm.Subperm

/-!
# Keys

Data without not-a-number can be the keys of mappings.  Each has a form, and keys are equal when they
have the same form: truth values and numbers of both kinds have the form of what they denote, and tuples
the forms of their members.

## Main Definitions

* `Value.IsKey` — data that mappings are keyed by
* `KeyForm`, `Value.keyForm?` — what keys are compared by
* `Entries.Keyed` — entries under keys of which no two are equal

## Main statements

* `Value.IsKey.keyEq_iff` — keys are equal when they have the same form
* `Entries.keyed_ofPairs` — whatever is written into a mapping, its entries stand under different keys
* `Entries.Keyed.exists_of_forall` — of two mappings of one size, the second has no other keys if it has
  all keys of the first
-/

namespace Conformance

/-- What a key is compared by. -/
inductive KeyForm where
  | null
  | number (x : ExtendedRat)
  | text (s : String)
  | bytes (bs : List UInt8)
  | tuple (parts : List KeyForm)

namespace Value

/-- **Data that mappings are keyed by**: no float in it is not-a-number. -/
inductive IsKey : Value → Prop where
  | null : IsKey .null
  | bool (b : Bool) : IsKey (.bool b)
  | number {n : Num} : n ≠ .float .nan → IsKey (.number n)
  | text (s : String) : IsKey (.text s)
  | bytes (bs : List UInt8) : IsKey (.bytes bs)
  | tuple {tag : Nat} {items : List Value} : (∀ v ∈ items, IsKey v) → IsKey (.seq .tuple tag items)

mutual

/-- The form of a key.  A truth value has the form of a number. -/
def keyForm? : Value → Option KeyForm
  | null => some .null
  | bool b => (Num.int b.toNat).value?.map .number
  | number n => n.value?.map .number
  | text s => some (.text s)
  | bytes bs => some (.bytes bs)
  | seq .tuple _ items => (keyForms? items).map .tuple
  | _ => none

/-- The forms of the members of a tuple. -/
def keyForms? : List Value → Option (List KeyForm)
  | [] => some []
  | v :: vs => (keyForm? v).bind fun f => (keyForms? vs).map (f :: ·)

end

variable {x y : Value} {f : KeyForm}

/-! ## Equal keys have the same form -/

/-- A truth value is the number it counts as. -/
theorem keyEq_bool (b : Bool) (y : Value) : keyEq (.bool b) y = keyEq (.number (.int b.toNat)) y := by
  cases y with
  | bool c => cases b <;> cases c <;> rfl
  | _ => rfl

/-- Numbers are equal as keys when they denote the same. -/
theorem keyEq_number_iff {n : Num} {a : ExtendedRat} (h : n.value? = some a) :
    keyEq (.number n) y = true ↔ y.keyForm? = some (.number a) := by
  cases y with
  | bool c => simp [keyEq, keyForm?, Num.eqv_iff_of_value h]
  | number m => simp [keyEq, keyForm?, Num.eqv_iff_of_value h]
  | seq form tag items => cases form <;> simp [keyEq, keyForm?]
  | _ => simp [keyEq, keyForm?]

mutual

/-- What has a form is equal, as a key, to what has the same form. -/
theorem keyEq_iff_of_form (x y : Value) {f : KeyForm} (h : x.keyForm? = some f) :
    keyEq x y = true ↔ y.keyForm? = some f := by
  cases x with
  | bool b =>
    rw [keyForm?, Option.map_eq_some_iff] at h
    obtain ⟨a, ha, rfl⟩ := h
    rw [keyEq_bool, keyEq_number_iff ha]
  | number n =>
    rw [keyForm?, Option.map_eq_some_iff] at h
    obtain ⟨a, ha, rfl⟩ := h
    exact keyEq_number_iff ha
  | seq form tag items =>
    cases form with
    | list => cases h
    | tuple =>
      rw [keyForm?, Option.map_eq_some_iff] at h
      obtain ⟨fs, hfs, rfl⟩ := h
      cases y with
      | seq form' tag' items' =>
        cases form' with
        | list => simp [keyEq, keyForm?]
        | tuple => simp [keyEq, keyForm?, keyEqAll_iff_of_forms items items' hfs]
      | _ => simp [keyEq, keyForm?]
  | null =>
    cases h
    cases y with
    | seq form tag items => cases form <;> simp [keyEq, keyForm?]
    | _ => simp [keyEq, keyForm?]
  | text s =>
    cases h
    cases y with
    | seq form tag items => cases form <;> simp [keyEq, keyForm?]
    | _ => simp [keyEq, keyForm?, eq_comm (a := s)]
  | bytes bs =>
    cases h
    cases y with
    | seq form tag items => cases form <;> simp [keyEq, keyForm?]
    | _ => simp [keyEq, keyForm?, eq_comm (a := bs)]
  | _ => cases h
termination_by structural x

/-- The members of tuples are equal one by one when they have the same forms. -/
theorem keyEqAll_iff_of_forms (xs ys : List Value) {fs : List KeyForm} (h : keyForms? xs = some fs) :
    keyEqAll xs ys = true ↔ keyForms? ys = some fs := by
  cases xs with
  | nil =>
    cases h
    cases ys <;> simp [keyEqAll, keyForms?, Option.bind_eq_some_iff]
  | cons x xs =>
    obtain ⟨f, hf, hrest⟩ := Option.bind_eq_some_iff.mp h
    obtain ⟨fs, hfs, rfl⟩ := Option.map_eq_some_iff.mp hrest
    cases ys with
    | nil => simp [keyEqAll, keyForms?]
    | cons y ys =>
      simp [keyEqAll, keyForms?, Option.bind_eq_some_iff, keyEq_iff_of_form x y hf,
        keyEqAll_iff_of_forms xs ys hfs]
termination_by structural xs

end

/-- Members that all have forms have them together. -/
theorem exists_keyForms {xs : List Value} (h : ∀ v ∈ xs, ∃ f, v.keyForm? = some f) :
    ∃ fs, keyForms? xs = some fs := by
  induction xs with
  | nil => exact ⟨[], rfl⟩
  | cons x xs ih =>
    obtain ⟨f, hf⟩ := h x List.mem_cons_self
    obtain ⟨fs, hfs⟩ := ih fun v hv => h v (List.mem_cons_of_mem x hv)
    exact ⟨f :: fs, by rw [keyForms?, hf, hfs]; rfl⟩

namespace IsKey

theorem exists_form (h : x.IsKey) : ∃ f, x.keyForm? = some f := by
  induction h with
  | null => exact ⟨_, rfl⟩
  | bool b => exact ⟨_, rfl⟩
  | number hn =>
    obtain ⟨a, ha⟩ := Num.exists_value hn
    exact ⟨.number a, by rw [keyForm?, ha]; rfl⟩
  | text s => exact ⟨_, rfl⟩
  | bytes bs => exact ⟨_, rfl⟩
  | tuple _ ih =>
    obtain ⟨fs, hfs⟩ := exists_keyForms ih
    exact ⟨.tuple fs, by rw [keyForm?, hfs]; rfl⟩

/-- **Keys are equal when they have the same form.** -/
theorem keyEq_iff (h : x.IsKey) (y : Value) : keyEq x y = true ↔ x.keyForm? = y.keyForm? := by
  obtain ⟨f, hf⟩ := h.exists_form
  rw [keyEq_iff_of_form x y hf, hf, eq_comm]

end IsKey

end Value

/-! ## Entries under keys -/

namespace Entries

variable {α β : Type} {entries : List (Value × α)} {key : Value}

/-- **The entries of a mapping**: each stands under a key, and no two keys are equal. -/
structure Keyed (entries : List (Value × α)) : Prop where
  isKey : ∀ k ∈ entries.map Prod.fst, k.IsKey
  distinct : (entries.map Prod.fst).Pairwise fun k k' => Value.keyEq k k' = false

/-- The keys stay different when an entry is written. -/
theorem Keyed.insert (h : Keyed entries) (hkey : key.IsKey) (a : α) : Keyed (insert key a entries) := by
  by_cases hmem : (entries.any fun e => Value.keyEq e.1 key) = true
  · have hkeys : (Entries.insert key a entries).map Prod.fst = entries.map Prod.fst := by
      rw [map_fst_insert, if_pos hmem]
    exact ⟨hkeys ▸ h.isKey, hkeys ▸ h.distinct⟩
  · have hkeys : (Entries.insert key a entries).map Prod.fst = entries.map Prod.fst ++ [key] := by
      rw [map_fst_insert, if_neg hmem]
    have hnew : ∀ k ∈ entries.map Prod.fst, Value.keyEq k key = false := by
      intro k hk
      obtain ⟨e, he, rfl⟩ := List.mem_map.mp hk
      exact Bool.eq_false_iff.mpr fun heq => hmem (List.any_eq_true.mpr ⟨e, he, heq⟩)
    refine ⟨?_, ?_⟩
    · rw [hkeys]
      exact List.forall_mem_append.mpr ⟨h.isKey, List.forall_mem_singleton.mpr hkey⟩
    · rw [hkeys, List.pairwise_append]
      exact ⟨h.distinct, List.pairwise_singleton _ _, by simpa using hnew⟩

/-- **Whatever is written into a mapping, its entries stand under different keys.** -/
theorem keyed_ofPairs {pairs : List (Value × α)} (h : ∀ e ∈ pairs, e.1.IsKey) : Keyed (ofPairs pairs) :=
  List.foldlRecOn pairs _ ⟨by simp, by simp⟩ fun _ hdone e he => hdone.insert (h e he) e.2

namespace Keyed

theorem isKey_of_mem (h : Keyed entries) {e : Value × α} (he : e ∈ entries) : e.1.IsKey :=
  h.isKey e.1 (List.mem_map_of_mem he)

/-- No two entries have keys of the same form. -/
theorem nodup_forms (h : Keyed entries) : (entries.map fun e => e.1.keyForm?).Nodup := by
  have hforms : (entries.map Prod.fst).Pairwise fun k k' => k.keyForm? ≠ k'.keyForm? := by
    refine h.distinct.imp_of_mem ?_
    intro k k' hk _ hne heq
    exact Bool.eq_false_iff.mp hne (((h.isKey k hk).keyEq_iff k').mpr heq)
  simpa [List.Nodup, List.pairwise_map] using hforms

/-- An entry is told by the form of its key. -/
theorem eq_of_form_eq (h : Keyed entries) {e e' : Value × α} (he : e ∈ entries) (he' : e' ∈ entries)
    (heq : e.1.keyForm? = e'.1.keyForm?) : e = e' :=
  List.inj_on_of_nodup_map h.nodup_forms he he' heq

/-- **What is found under a key** is what stands in the one entry with such a key. -/
theorem find?_eq_some_iff (h : Keyed entries) {a : α} :
    find? key entries = some a ↔ ∃ e ∈ entries, e.1.keyForm? = key.keyForm? ∧ e.2 = a := by
  induction entries with
  | nil => simp [find?]
  | cons e entries ih =>
    have hrest : Keyed entries :=
      ⟨fun k hk => h.isKey k (List.mem_cons_of_mem _ hk), h.distinct.of_cons⟩
    have hfirst := (h.isKey_of_mem List.mem_cons_self).keyEq_iff key
    rw [find?]
    split
    next heq =>
      have hform := hfirst.mp heq
      constructor
      · rintro ⟨⟩
        exact ⟨e, List.mem_cons_self, hform, rfl⟩
      · rintro ⟨e', he', hform', rfl⟩
        rw [h.eq_of_form_eq he' List.mem_cons_self (hform'.trans hform.symm)]
    next hne =>
      rw [ih hrest, List.exists_mem_cons_iff]
      exact (or_iff_right fun hform => hne (hfirst.mpr hform.1)).symm

/-- **No key is left over.**  If each entry of a mapping has one with an equal key in another mapping of
the same size, then so has each entry of the other. -/
theorem exists_of_forall {others : List (Value × β)} (h : Keyed entries)
    (hlength : entries.length = others.length)
    (hall : ∀ e ∈ entries, ∃ e' ∈ others, e'.1.keyForm? = e.1.keyForm?) :
    ∀ e' ∈ others, ∃ e ∈ entries, e.1.keyForm? = e'.1.keyForm? := by
  have hsubset : (entries.map fun e => e.1.keyForm?) ⊆ others.map fun e => e.1.keyForm? := by
    intro form hform
    obtain ⟨e, he, rfl⟩ := List.mem_map.mp hform
    obtain ⟨e', he', heq⟩ := hall e he
    exact List.mem_map.mpr ⟨e', he', heq⟩
  have hperm : (entries.map fun e => e.1.keyForm?).Perm (others.map fun e => e.1.keyForm?) :=
    (List.subperm_of_subset h.nodup_forms hsubset).perm_of_length_le (by simp [hlength])
  intro e' he'
  exact List.mem_map.mp (hperm.mem_iff.mpr (List.mem_map_of_mem he'))

end Keyed

end Entries

end Conformance
