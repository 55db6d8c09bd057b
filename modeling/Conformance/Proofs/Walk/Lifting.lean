import Conformance.Proofs.Walk.Agreement
import Mathlib.Data.List.Forall2
import Mathlib.Order.Filter.AtTopBot.Basic

/-!
# Families of walks

A walk that is cut off at some depth is one of a family, with a member for each depth.  What is known of
two families of steps is known of the families of walks that are put together from them, if it is kept in
the two ways in which steps are put together: going on after `true`, and going on after `false`.

## Main Definitions

* `Walk.Lifts` — a relation between two families of walks that both ways keep
* `Walk.Foretells` — a walk whose result is that of all but finitely many members of a family
* `Walk.Spares` — a walk that does not refuse where another one accepts
* `Walk.Vouches` — a walk that, where it ends, ends as another one does
* `Walk.BothSettle` — two families that settle on the same verdict, or the second of which ends with
  faults

## Main statements

* `Walk.Lifts.all`, `Walk.Lifts.any` — a relation that lifts is lifted to walks over lists
-/

open Filter

namespace Conformance.Walk

variable {ι κ α β : Type}

/-- One walk, and another one if it ends with `true`. -/
abbrev andThen (w w' : Walk Bool) : Walk Bool := w >>= fun passed => if passed then w' else pure false

/-- One walk, and another one if it ends with `false`. -/
abbrev orElse (w w' : Walk Bool) : Walk Bool := w >>= fun passed => if passed then pure true else w'

/-- **A relation between two families of walks that is lifted** to what is put together from them: it
holds of a walk that does not depend on the member, and both ways to go on keep it. -/
structure Lifts (r : (ι → Walk Bool) → (κ → Walk Bool) → Prop) : Prop where
  const (w : Walk Bool) : r (fun _ => w) fun _ => w
  and_then {w w' : ι → Walk Bool} {u u' : κ → Walk Bool} : r w u → r w' u' →
    r (fun i => andThen (w i) (w' i)) fun k => andThen (u k) (u' k)
  or_else {w w' : ι → Walk Bool} {u u' : κ → Walk Bool} : r w u → r w' u' →
    r (fun i => orElse (w i) (w' i)) fun k => orElse (u k) (u' k)

namespace Lifts

variable {r : (ι → Walk Bool) → (κ → Walk Bool) → Prop} (hr : Lifts r) {as : List α} {bs : List β}
  {step : ι → α → Walk Bool} {step' : κ → β → Walk Bool}
include hr

/-- **Walks that stop at the first failure**, over lists whose members are related step by step. -/
theorem all (h : List.Forall₂ (fun a b => r (fun i => step i a) fun k => step' k b) as bs) :
    r (fun i => Walk.all (step i) as) fun k => Walk.all (step' k) bs := by
  induction h with
  | nil => exact hr.const _
  | cons hab _ ih => exact hr.and_then hab ih

/-- **Walks that stop at the first success.** -/
theorem any (h : List.Forall₂ (fun a b => r (fun i => step i a) fun k => step' k b) as bs) :
    r (fun i => Walk.any (step i) as) fun k => Walk.any (step' k) bs := by
  induction h with
  | nil => exact hr.const _
  | cons hab _ ih => exact hr.or_else hab ih

end Lifts

/-! ## How two walks after one another end -/

/-- A walk ends with a fault. -/
def Faults (w : Walk α) : Prop := ∃ f, w.outcome = .error f

/-- A walk ends with a result or with a fault. -/
theorem exists_ok_or_faults (w : Walk α) : (∃ a, w.outcome = .ok a) ∨ w.Faults := by
  unfold Faults
  cases w.outcome with
  | ok a => exact .inl ⟨a, rfl⟩
  | error f => exact .inr ⟨f, rfl⟩

/-- Not with both. -/
theorem Faults.ne_ok {w : Walk α} (h : w.Faults) (a : α) : w.outcome ≠ .ok a := by
  obtain ⟨f, hf⟩ := h
  rw [hf]
  exact fun h => by cases h

/-- A fault ends what follows it. -/
theorem Faults.bind {w : Walk α} (h : w.Faults) (f : α → Walk β) : (w >>= f).Faults := by
  obtain ⟨e, he⟩ := h
  refine ⟨e, ?_⟩
  rw [outcome_bind, he]
  rfl

/-- A fault in what follows a result. -/
theorem Faults.of_ok {w : Walk α} {a : α} (hw : w.outcome = .ok a) {f : α → Walk β}
    (h : (f a).Faults) : (w >>= f).Faults := by
  obtain ⟨e, he⟩ := h
  exact ⟨e, (outcome_bind_of_ok hw f).trans he⟩

variable {w w' : Walk Bool} {b : Bool}

theorem andThen_eq_ok_iff : (andThen w w').outcome = .ok b ↔
    (w.outcome = .ok true ∧ w'.outcome = .ok b) ∨ (w.outcome = .ok false ∧ b = false) := by
  rw [andThen, bind_eq_ok_iff]
  simp [Bool.exists_bool, or_comm, eq_comm]

theorem orElse_eq_ok_iff : (orElse w w').outcome = .ok b ↔
    (w.outcome = .ok false ∧ w'.outcome = .ok b) ∨ (w.outcome = .ok true ∧ b = true) := by
  rw [orElse, bind_eq_ok_iff]
  simp [Bool.exists_bool, eq_comm]

/-! ## Relations that are lifted -/

/-- What holds from some number on holds from some later number on. -/
theorem eventually_succ_iff {p : Nat → Prop} :
    (∀ᶠ k in atTop, p (k + 1)) ↔ ∀ᶠ k in atTop, p k := by
  rw [← eventually_map (P := p) (m := fun k => k + 1), map_add_atTop_eq_nat]

/-- **A walk foretells a family** when all but finitely many members end with the result that it ends
with.  Where it ends with a fault it says nothing. -/
def Foretells (w : Walk Bool) (u : Nat → Walk Bool) : Prop :=
  ∀ b, w.outcome = .ok b → ∀ᶠ k in atTop, (u k).outcome = .ok b

theorem lifts_foretells :
    Lifts fun (w : Unit → Walk Bool) (u : Nat → Walk Bool) => (w ()).Foretells u where
  const w b hb := .of_forall fun _ => hb
  and_then hw hw' b hb := by
    rcases andThen_eq_ok_iff.mp hb with ⟨htrue, hb'⟩ | ⟨hfalse, rfl⟩
    · filter_upwards [hw true htrue, hw' b hb'] with k hk hk'
      exact andThen_eq_ok_iff.mpr (.inl ⟨hk, hk'⟩)
    · filter_upwards [hw false hfalse] with k hk
      exact andThen_eq_ok_iff.mpr (.inr ⟨hk, rfl⟩)
  or_else hw hw' b hb := by
    rcases orElse_eq_ok_iff.mp hb with ⟨hfalse, hb'⟩ | ⟨htrue, rfl⟩
    · filter_upwards [hw false hfalse, hw' b hb'] with k hk hk'
      exact orElse_eq_ok_iff.mpr (.inl ⟨hk, hk'⟩)
    · filter_upwards [hw true htrue] with k hk
      exact orElse_eq_ok_iff.mpr (.inr ⟨hk, rfl⟩)

/-- The members are counted from the first or from the second one. -/
theorem foretells_succ_iff {u : Nat → Walk Bool} :
    w.Foretells (fun k => u (k + 1)) ↔ w.Foretells u :=
  forall₂_congr fun b _ => eventually_succ_iff (p := fun k => (u k).outcome = .ok b)

/-- **A walk spares another one** that accepts: it does not refuse. -/
def Spares (w w' : Walk Bool) : Prop := w'.outcome = .ok true → w.outcome ≠ .ok false

theorem lifts_spares :
    Lifts fun (w : Unit → Walk Bool) (u : Unit → Walk Bool) => (w ()).Spares (u ()) where
  const w htrue hfalse := by cases htrue.symm.trans hfalse
  and_then hw hw' htrue hfalse := by
    obtain ⟨hu, hu'⟩ := (andThen_eq_ok_iff.mp htrue).resolve_right fun h => by cases h.2
    rcases andThen_eq_ok_iff.mp hfalse with ⟨-, hrest⟩ | ⟨hfirst, -⟩
    · exact hw' hu' hrest
    · exact hw hu hfirst
  or_else hw hw' htrue hfalse := by
    obtain ⟨hfirst, hrest⟩ := (orElse_eq_ok_iff.mp hfalse).resolve_right fun h => by cases h.2
    rcases orElse_eq_ok_iff.mp htrue with ⟨-, hu'⟩ | ⟨hu, -⟩
    · exact hw' hu' hrest
    · exact hw hu hfirst

/-- **A walk vouches for another one** that ends with the verdict that it ends with, if no fault was
turned into non-conformance on the way. -/
def Vouches (w w' : Walk Bool) : Prop := ∀ b, w.Ends b → w'.outcome = .ok b

theorem lifts_vouches :
    Lifts fun (w : Unit → Walk Bool) (u : Unit → Walk Bool) => (w ()).Vouches (u ()) where
  const w b hb := hb.1
  and_then hw hw' b hb := by
    obtain ⟨passed, hpassed, hrest⟩ := ends_bind hb
    refine bind_eq_ok_iff.mpr ⟨passed, hw passed hpassed, ?_⟩
    cases passed with
    | true => exact hw' b hrest
    | false => exact hrest.1
  or_else hw hw' b hb := by
    obtain ⟨passed, hpassed, hrest⟩ := ends_bind hb
    refine bind_eq_ok_iff.mpr ⟨passed, hw passed hpassed, ?_⟩
    cases passed with
    | true => exact hrest.1
    | false => exact hw' b hrest

/-- **Two families settle** on the same verdict, or the second one ends with faults. -/
def BothSettle (w u : Nat → Walk Bool) : Prop :=
  (∃ b, (∀ᶠ k in atTop, (w k).outcome = .ok b) ∧ ∀ᶠ k in atTop, (u k).outcome = .ok b) ∨
    ∀ᶠ k in atTop, (u k).Faults

theorem lifts_bothSettle : Lifts BothSettle where
  const w := by
    rcases w.exists_ok_or_faults with ⟨b, hb⟩ | hfaults
    · exact .inl ⟨b, .of_forall fun _ => hb, .of_forall fun _ => hb⟩
    · exact .inr (.of_forall fun _ => hfaults)
  and_then := by
    rintro w w' u u' (⟨b, hw, hu⟩ | hu) h'
    · cases b with
      | false =>
        refine .inl ⟨false, ?_, ?_⟩
        · exact hw.mono fun k hk => andThen_eq_ok_iff.mpr (.inr ⟨hk, rfl⟩)
        · exact hu.mono fun k hk => andThen_eq_ok_iff.mpr (.inr ⟨hk, rfl⟩)
      | true =>
        rcases h' with ⟨b, hw', hu'⟩ | hu'
        · refine .inl ⟨b, ?_, ?_⟩
          · exact (hw.and hw').mono fun k hk => andThen_eq_ok_iff.mpr (.inl hk)
          · exact (hu.and hu').mono fun k hk => andThen_eq_ok_iff.mpr (.inl hk)
        · exact .inr ((hu.and hu').mono fun k hk => .of_ok hk.1 hk.2)
    · exact .inr (hu.mono fun k hk => hk.bind _)
  or_else := by
    rintro w w' u u' (⟨b, hw, hu⟩ | hu) h'
    · cases b with
      | true =>
        refine .inl ⟨true, ?_, ?_⟩
        · exact hw.mono fun k hk => orElse_eq_ok_iff.mpr (.inr ⟨hk, rfl⟩)
        · exact hu.mono fun k hk => orElse_eq_ok_iff.mpr (.inr ⟨hk, rfl⟩)
      | false =>
        rcases h' with ⟨b, hw', hu'⟩ | hu'
        · refine .inl ⟨b, ?_, ?_⟩
          · exact (hw.and hw').mono fun k hk => orElse_eq_ok_iff.mpr (.inl hk)
          · exact (hu.and hu').mono fun k hk => orElse_eq_ok_iff.mpr (.inl hk)
        · exact .inr ((hu.and hu').mono fun k hk => .of_ok hk.1 hk.2)
    · exact .inr (hu.mono fun k hk => hk.bind _)

end Conformance.Walk
