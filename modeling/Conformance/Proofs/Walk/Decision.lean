import Conformance.Proofs.Validator.Structure
import Conformance.Proofs.Walk.Agreement

/-!
# Walks that decide

A walk decides a proposition when its verdict is the truth of it, if it ends with a verdict and
without having turned a fault into one.  It is known to end so on a condition of its own.

## Main Definitions

* `Walk.Decides` — a walk whose verdict is the truth of a proposition, and which ends on a condition

## Main statements

* `Walk.Decides.all`, `Walk.Decides.any` — walks over a list decide what holds of all members, or of
  some, and end if each step does
-/

namespace Conformance.Walk

variable {α β : Type}

/-- After a walk that ends with a result, what follows it ends. -/
theorem Ends.bind {w : Walk α} {f : α → Walk β} {a : α} {b : β} (hw : w.Ends a)
    (hf : (f a).Ends b) : (w >>= f).Ends b := by
  obtain ⟨events, found, outcome⟩ := w
  obtain ⟨rfl, hcalm⟩ := hw
  refine ⟨hf.1, fun e he => ?_⟩
  rcases List.mem_append.mp he with he | he
  · exact hcalm e he
  · exact hf.2 e he

/-- A walk that does nothing more ends. -/
theorem ends_pure_self (a : α) : (Pure.pure a : Walk α).Ends a := ⟨rfl, fun e he => by cases he⟩

/-- Guarding changes nothing of a walk that ends with a result. -/
theorem Ends.guarded {w : Walk Bool} {b : Bool} (h : w.Ends b) (event : Fault → Event) :
    (w.guarded event).Ends b := by
  obtain ⟨events, found, outcome⟩ := w
  obtain ⟨rfl, hcalm⟩ := h
  exact ⟨rfl, hcalm⟩

/-- **A walk decides a proposition** `P` when it ends, if it does, with the truth of it; and it does
end if `D` holds. -/
structure Decides (w : Walk Bool) (P D : Prop) : Prop where
  sound : ∀ b, w.Ends b → (b = true ↔ P)
  ends : D → ∃ b, w.Ends b

namespace Decides

variable {w w' : Walk Bool} {P Q D E : Prop}

theorem congr (h : w.Decides P D) (hPQ : P ↔ Q) (hED : E → D) : w.Decides Q E where
  sound b hb := (h.sound b hb).trans hPQ
  ends hE := h.ends (hED hE)

/-- What a walk that logs nothing decides is told by its outcome. -/
theorem of_outcome (hcalm : w.IsCalm) (hP : w.outcome = .ok true ↔ P)
    (hD : D → ∀ e, w.outcome ≠ .error e) : w.Decides P D where
  sound b hb := by rw [← hP, hb.1, Except.ok.injEq]
  ends h := by
    cases houtcome : w.outcome with
    | ok b => exact ⟨b, houtcome, hcalm⟩
    | error e => exact absurd houtcome (hD h e)

/-- A walk that does nothing more decides what it says. -/
theorem of_pure {b : Bool} (h : b = true ↔ P) : Decides (Pure.pure b) P D where
  sound b' hb' := by
    cases ends_pure hb'
    exact h
  ends _ := ⟨b, ends_pure_self b⟩

/-- The same after an event that tells of no fault. -/
theorem of_log {e : Event} {b : Bool} (he : e.isCrash = false) (h : b = true ↔ P) :
    Decides (log e >>= fun _ => Pure.pure b) P D where
  sound b' hb' := by
    obtain ⟨_, -, hrest⟩ := ends_bind hb'
    cases ends_pure hrest
    exact h
  ends _ := by
    have hlogged : (log e).Ends () := ⟨rfl, fun e' he' => by rwa [List.mem_singleton.mp he']⟩
    exact ⟨b, hlogged.bind (ends_pure_self b)⟩

/-- A walk that ends with a fault decides anything, but it does not end with a verdict. -/
theorem of_fault {e : Fault} (h : w.outcome = .error e) : w.Decides P False where
  sound b hb := by cases h.symm.trans hb.1
  ends := False.elim

/-- One decision after the other, up to the first refusal. -/
theorem and_then (hw : w.Decides P D) (hw' : w'.Decides Q E) :
    Decides (w >>= fun passed => if passed then w' else Pure.pure false) (P ∧ Q) (D ∧ E) where
  sound b hb := by
    obtain ⟨passed, hpassed, hrest⟩ := ends_bind hb
    have hP := hw.sound passed hpassed
    cases passed with
    | true => rw [hw'.sound b hrest, and_iff_right (hP.mp rfl)]
    | false =>
      have hnot : ¬ P := fun h => Bool.false_ne_true (hP.mpr h)
      rw [← ends_pure hrest]
      exact iff_of_false Bool.false_ne_true fun h => hnot h.1
  ends h := by
    obtain ⟨passed, hpassed⟩ := hw.ends h.1
    obtain ⟨b, hb⟩ := hw'.ends h.2
    cases passed with
    | true => exact ⟨b, hpassed.bind hb⟩
    | false => exact ⟨false, hpassed.bind (ends_pure_self false)⟩

/-- One decision after the other, up to the first success. -/
theorem or_else (hw : w.Decides P D) (hw' : w'.Decides Q E) :
    Decides (w >>= fun passed => if passed then Pure.pure true else w') (P ∨ Q) (D ∧ E) where
  sound b hb := by
    obtain ⟨passed, hpassed, hrest⟩ := ends_bind hb
    have hP := hw.sound passed hpassed
    cases passed with
    | true =>
      rw [← ends_pure hrest]
      exact iff_of_true rfl (.inl (hP.mp rfl))
    | false =>
      have hnot : ¬ P := fun h => Bool.false_ne_true (hP.mpr h)
      rw [hw'.sound b hrest, or_iff_right hnot]
  ends h := by
    obtain ⟨passed, hpassed⟩ := hw.ends h.1
    obtain ⟨b, hb⟩ := hw'.ends h.2
    cases passed with
    | true => exact ⟨true, hpassed.bind (ends_pure_self true)⟩
    | false => exact ⟨b, hpassed.bind hb⟩

/-- A guarded walk decides what the walk decides. -/
theorem guarded {event : Fault → Event} (hw : w.Decides P D)
    (hevent : ∀ f, (event f).isCrash = true) : (w.guarded event).Decides P D where
  sound b hb := hw.sound b (ends_of_ends_guarded hevent hb)
  ends h := by
    obtain ⟨b, hb⟩ := hw.ends h
    exact ⟨b, hb.guarded event⟩

section Lists

variable {step : α → Walk Bool} {P D : β → Prop} {as : List α} {bs : List β}

/-- **Stopping at the first failure decides what holds of all members** of a list, whose members
correspond to those that the steps are taken for. -/
theorem all (h : List.Forall₂ (fun a b => (step a).Decides (P b) (D b)) as bs) :
    (Walk.all step as).Decides (∀ b ∈ bs, P b) (∀ b ∈ bs, D b) := by
  induction h with
  | nil => exact .of_pure (iff_of_true rfl fun b hb => by cases hb)
  | cons hab _ ih =>
    exact (hab.and_then ih).congr List.forall_mem_cons.symm List.forall_mem_cons.mp

/-- **Stopping at the first success decides what holds of some member.** -/
theorem any (h : List.Forall₂ (fun a b => (step a).Decides (P b) (D b)) as bs) :
    (Walk.any step as).Decides (∃ b ∈ bs, P b) (∀ b ∈ bs, D b) := by
  induction h with
  | nil => exact .of_pure (iff_of_false Bool.false_ne_true fun h => by simp at h)
  | cons hab _ ih =>
    refine (hab.or_else ih).congr ?_ List.forall_mem_cons.mp
    simp only [List.mem_cons, or_and_right, exists_or, exists_eq_left]

/-- The same with the steps taken for the members themselves. -/
theorem all_self {P D : α → Prop} (h : ∀ a ∈ as, (step a).Decides (P a) (D a)) :
    (Walk.all step as).Decides (∀ a ∈ as, P a) (∀ a ∈ as, D a) :=
  all (List.forall₂_same.mpr h)

end Lists

end Decides

end Conformance.Walk
