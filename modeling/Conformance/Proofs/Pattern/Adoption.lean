import Conformance.Proofs.Pattern.Structure
import Mathlib.Data.List.Forall2

/-!
# Patterns that compile alike

A pattern compiled for a session, and the same pattern compiled for none whose references the session
then takes over, become the same validator.

## Main Definitions

* `Pattern.CompileAlike` — two patterns become the same once a session has taken over their references
* `Pattern.Twin` — two patterns that compile alike for every session and for none
* `Pattern.KeepsPlace` — a pattern that means the same inside and outside a list of alternatives

## Main statements

* `Pattern.compileAlike_seq`, `Pattern.compileAlike_mapping` — patterns with parts that compile alike
  compile alike
* `Pattern.compileAlike_session` — compiling for a session is compiling for none and taking over
* `Pattern.twin_fragment` — a fragment compiles like the pattern that it was compiled from
-/

namespace Conformance.Pattern

open Validator (adopt)

variable {slot : Nat → Slot} {o o' t : Option Nat} {inOr : Bool}

/-- **Two patterns compile alike**, one for `o` and the other for `o'`: they become the same once the
session `t` has taken their references over, or they are refused alike. -/
def CompileAlike (slot : Nat → Slot) (o o' t : Option Nat) (inOr : Bool) (p q : Pattern) : Prop :=
  adopt t <$> compile slot o inOr p = adopt t <$> compile slot o' inOr q

/-- **Two patterns are twins** when they compile alike for every session and for none. -/
def Twin (slot : Nat → Slot) (inOr : Bool) (p q : Pattern) : Prop :=
  ∀ o, CompileAlike slot o o o inOr p q

theorem Twin.refl (p : Pattern) : Twin slot inOr p p := fun _ => rfl

/-! ## Patterns with parts -/

/-- Alternatives that compile to the same up to `f`, one by one. -/
theorem map_compileEach_congr {f : Validator → Validator} {ps qs : List Pattern}
    (h : List.Forall₂
      (fun p q => f <$> compile slot o true p = f <$> compile slot o' true q) ps qs) :
    List.map f <$> compileEach slot o ps = List.map f <$> compileEach slot o' qs := by
  -- `f` is applied to the head and to the tail of the result one after the other
  have hcons : ∀ (o : Option Nat) (p : Pattern) (ps : List Pattern),
      List.map f <$> compileEach slot o (p :: ps) =
        (do let v ← f <$> compile slot o true p
            let vs ← List.map f <$> compileEach slot o ps
            return v :: vs) := by
    intro o p ps
    simp [compileEach]
  induction h with
  | nil => rfl
  | cons hhead _ ih => rw [hcons, hcons, hhead, ih]

/-- Entries under the same keys whose patterns compile to the same up to `f`. -/
theorem map_compileEntries_congr {f : Validator → Validator} {es es' : List (Value × Pattern)}
    (h : List.Forall₂ (fun e e' => e.1 = e'.1 ∧
      f <$> compile slot o false e.2 = f <$> compile slot o' false e'.2) es es') :
    List.map (fun p => (p.map f).bare) <$> compileEntries slot o es =
      List.map (fun p => (p.map f).bare) <$> compileEntries slot o' es' := by
  have hcons : ∀ (o : Option Nat) (e : Value × Pattern) (es : List (Value × Pattern)),
      List.map (fun p => (p.map f).bare) <$> compileEntries slot o (e :: es) =
        (do let parts ← (Key.splitValue e.1).mapError Refusal.compile
            let v ← f <$> compile slot o false e.2
            let key ← Key.ofParts e.1.nameText parts.1 parts.2
            let ps ← List.map (fun p => (p.map f).bare) <$> compileEntries slot o es
            return ⟨key, none, v⟩ :: ps) := by
    intro o e es
    simp [compileEntries, Property.map, Property.bare]
  induction h with
  | nil => rfl
  | @cons e e' _ _ hhead _ ih =>
    obtain ⟨hkey, halike⟩ := hhead
    rw [hcons, hcons, hkey, halike, ih]

/-- Sequences that are no literals compile to the same up to `f` if their items do. -/
theorem map_compile_seq_congr {f : Validator → Validator}
    (hf : ∀ vs, f (.anyOf vs) = .anyOf (vs.map f)) {form : SeqForm} {tag : Nat}
    {items items' : List Pattern} (hliteral : ¬ (inOr = true ∧ items.length = 1))
    (h : List.Forall₂
      (fun p q => f <$> compile slot o true p = f <$> compile slot o' true q) items items') :
    f <$> compile slot o inOr (.seq form tag items) =
      f <$> compile slot o' inOr (.seq form tag items') := by
  have hliteral' : ¬ (inOr = true ∧ items'.length = 1) := by rwa [← h.length_eq]
  have htaken : ∀ (o : Option Nat) (items : List Pattern),
      f <$> Validator.anyOf <$> compileEach slot o items =
        Validator.anyOf <$> List.map f <$> compileEach slot o items := by
    intro o items
    simp [hf]
  rw [compile_seq hliteral, compile_seq hliteral', htaken, htaken, map_compileEach_congr h]

/-- Mappings under the same keys compile to the same up to `f` if what stands under each key does. -/
theorem map_compile_mapping_congr {f : Validator → Validator}
    (hf : ∀ ps : List (Property Validator),
      f (.object ps) = .object (ps.map fun p => (p.map f).bare))
    {form : MapForm} {tag : Nat} {entries entries' : List (Value × Pattern)}
    (h : List.Forall₂ (fun e e' => e.1 = e'.1 ∧
      f <$> compile slot o false e.2 = f <$> compile slot o' false e'.2) entries entries') :
    f <$> compile slot o inOr (.mapping form tag entries) =
      f <$> compile slot o' inOr (.mapping form tag entries') := by
  have htaken : ∀ (o : Option Nat) (entries : List (Value × Pattern)),
      f <$> compile slot o inOr (.mapping form tag entries) =
        Validator.object <$> List.map (fun p => (p.map f).bare) <$> compileEntries slot o entries := by
    intro o entries
    simp [compile, hf]
  rw [htaken, htaken, map_compileEntries_congr h]

/-- Sequences that are no literals and have items that compile alike compile alike. -/
theorem compileAlike_seq {form : SeqForm} {tag : Nat} {items items' : List Pattern}
    (hliteral : ¬ (inOr = true ∧ items.length = 1))
    (h : List.Forall₂ (CompileAlike slot o o' t true) items items') :
    CompileAlike slot o o' t inOr (.seq form tag items) (.seq form tag items') :=
  map_compile_seq_congr (fun vs => by rw [adopt, Validator.adoptEach_eq_map]) hliteral h

/-- Mappings under the same keys with patterns that compile alike compile alike. -/
theorem compileAlike_mapping {form : MapForm} {tag : Nat} {entries entries' : List (Value × Pattern)}
    (h : List.Forall₂ (fun e e' => e.1 = e'.1 ∧ CompileAlike slot o o' t false e.2 e'.2)
      entries entries') :
    CompileAlike slot o o' t inOr (.mapping form tag entries) (.mapping form tag entries') :=
  map_compile_mapping_congr (fun ps => by rw [adopt, Validator.adoptProperties_eq_map]) h

/-! ## Fragments -/

/-- **Compiling for a session is compiling for none and taking over.** -/
theorem compileAlike_session (slot : Nat → Slot) (n : Nat) (inOr : Bool) (p : Pattern) :
    CompileAlike slot (some n) none (some n) inOr p p := by
  induction p using treeInduction generalizing inOr with
  | value v =>
    rw [CompileAlike, compile, compile]
    unfold compileValue
    split <;> rfl
  | seq form tag items ih =>
    by_cases hliteral : inOr = true ∧ items.length = 1
    · obtain ⟨rfl, hlength⟩ := hliteral
      obtain ⟨item, rfl⟩ := List.length_eq_one_iff.mp hlength
      rw [CompileAlike, compile_seq_singleton, compile_seq_singleton]
    · exact compileAlike_seq hliteral (List.forall₂_same.mpr fun p hp => ih p hp true)
  | mapping form tag entries ih =>
    exact compileAlike_mapping (List.forall₂_same.mpr fun e he => ⟨rfl, ih e he false⟩)
  | validator h => rfl

/-- A pattern that means the same inside and outside a list of alternatives: neither the ellipsis nor
a sequence of one item. -/
def KeepsPlace (p : Pattern) : Prop :=
  p ≠ .value .ellipsis ∧ ∀ form tag item, p ≠ .seq form tag [item]

theorem compile_of_keepsPlace {p : Pattern} (h : p.KeepsPlace) (o : Option Nat) (inOr : Bool) :
    compile slot o inOr p = compile slot o false p := by
  obtain ⟨hellipsis, hsingleton⟩ := h
  cases p with
  | value v =>
    have hkind : kindOfValue slot inOr v = kindOfValue slot false v := by
      cases v with
      | ellipsis => exact absurd rfl hellipsis
      | cls c => cases c <;> rfl
      | _ => rfl
    rw [compile, compile]
    unfold compileValue
    rw [hkind]
  | seq form tag items =>
    have hlength : items.length ≠ 1 := by
      intro hlength
      obtain ⟨item, rfl⟩ := List.length_eq_one_iff.mp hlength
      exact hsingleton form tag item rfl
    rw [compile_seq fun h => hlength h.2, compile_seq fun h => hlength h.2]
  | mapping form tag entries => rfl
  | validator h => rfl

/-- **A fragment compiles like the pattern that it was compiled from**, at every place where that
pattern means the same. -/
theorem twin_fragment {p : Pattern} {h : Handle}
    (hfragment : compile slot none false p = .ok h.validator)
    (hplace : inOr = true → p.KeepsPlace) : Twin slot inOr (.validator h) p := by
  intro o
  have hoff : compile slot o inOr p = compile slot o false p := by
    cases inOr with
    | false => rfl
    | true => exact compile_of_keepsPlace (hplace rfl) o true
  have hnone : adopt o <$> compile slot o false p = adopt o <$> compile slot none false p := by
    cases o with
    | none => rfl
    | some n => exact compileAlike_session slot n false p
  rw [CompileAlike, hoff, hnone, hfragment]
  rfl

end Conformance.Pattern
