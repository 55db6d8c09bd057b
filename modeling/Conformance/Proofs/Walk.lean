import Conformance.Walk

/-!
# The outcomes of walks

A walk that stops early and a walk that goes on to the end look at the same steps, and their
outcomes are tied to the outcomes of these steps.

## Main statements

* `Walk.all_eq_ok_true_iff`, `Walk.any_eq_ok_false_iff` — the outcomes that need every step
* `Walk.exists_of_any_eq_ok_true` — the outcome that one step decides
* `Walk.any_eq_ok_true_iff` — which step that is
* `Walk.Confirms` — a walk that confirms another one wherever it ends with a result
* `Walk.every_confirms_all` — going on to the end confirms stopping at the first failure
-/

namespace Conformance.Walk

variable {α β : Type}

/-! ## Outcomes of the parts of a walk -/

theorem outcome_bind (w : Walk α) (f : α → Walk β) :
    (w >>= f).outcome = w.outcome.bind fun a => (f a).outcome := by
  obtain ⟨events, found, outcome⟩ := w
  cases outcome <;> rfl

@[simp] theorem outcome_pure (a : α) : (Pure.pure a : Walk α).outcome = .ok a := rfl

@[simp] theorem outcome_pure' (a : α) : (Walk.pure a).outcome = .ok a := rfl

@[simp] theorem outcome_log (e : Event) : (log e).outcome = .ok () := rfl

@[simp] theorem outcome_reject (m : Mismatch) : (reject m).outcome = .ok false := rfl

@[simp] theorem outcome_ofExcept (r : Except Fault α) : (ofExcept r).outcome = r := rfl

@[simp] theorem outcome_fail (f : Fault) : (fail f : Walk α).outcome = .error f := rfl

@[simp] theorem outcome_aside (w : Walk α) :
    w.aside.outcome = w.outcome.map fun a => (a, w.found) := rfl

/-- A walk that ended with a result was followed by the rest. -/
theorem outcome_bind_of_ok {w : Walk α} {a : α} (h : w.outcome = .ok a) (f : α → Walk β) :
    (w >>= f).outcome = (f a).outcome := by
  rw [outcome_bind, h]
  rfl

/-- A walk that was followed by a result had a result itself. -/
theorem bind_eq_ok_iff {w : Walk α} {f : α → Walk β} {b : β} :
    (w >>= f).outcome = .ok b ↔ ∃ a, w.outcome = .ok a ∧ (f a).outcome = .ok b := by
  rw [outcome_bind]
  cases h : w.outcome with
  | error e => simp [Except.bind]
  | ok a => simp [Except.bind]

/-- A walk on the side ends with the result of the walk and hands over its mismatches. -/
theorem aside_eq_ok_iff {w : Walk α} {a : α} {found : List Mismatch} :
    w.aside.outcome = .ok (a, found) ↔ w.outcome = .ok a ∧ w.found = found := by
  rw [outcome_aside]
  cases w.outcome with
  | error e => simp [Except.map]
  | ok b => simp [Except.map]

/-! ## Walks over a list -/

theorem all_map (step : β → Walk Bool) (f : α → β) (as : List α) :
    all step (as.map f) = all (fun a => step (f a)) as := by
  induction as with
  | nil => rfl
  | cons a as ih => rw [List.map_cons, all_cons, all_cons, ih]

theorem every_map (step : β → Walk Bool) (f : α → β) (as : List α) :
    every step (as.map f) = every (fun a => step (f a)) as := by
  induction as with
  | nil => rfl
  | cons a as ih => rw [List.map_cons, every_cons, every_cons, ih]

theorem any_map (step : β → Walk Bool) (f : α → β) (as : List α) :
    any step (as.map f) = any (fun a => step (f a)) as := by
  induction as with
  | nil => rfl
  | cons a as ih => rw [List.map_cons, any_cons, any_cons, ih]

/-- Walks with the same steps are the same. -/
theorem every_congr {step step' : α → Walk Bool} {as : List α} (h : ∀ a ∈ as, step a = step' a) :
    every step as = every step' as := by
  induction as with
  | nil => rfl
  | cons a as ih =>
    obtain ⟨ha, has⟩ := List.forall_mem_cons.mp h
    rw [every_cons, every_cons, ha, ih has]

theorem any_congr {step step' : α → Walk Bool} {as : List α} (h : ∀ a ∈ as, step a = step' a) :
    any step as = any step' as := by
  induction as with
  | nil => rfl
  | cons a as ih =>
    obtain ⟨ha, has⟩ := List.forall_mem_cons.mp h
    rw [any_cons, any_cons, ha, ih has]

/-- Steps with the same outcomes make the same outcome. -/
theorem outcome_all_congr {step step' : α → Walk Bool} {as : List α}
    (h : ∀ a ∈ as, (step a).outcome = (step' a).outcome) :
    (all step as).outcome = (all step' as).outcome := by
  induction as with
  | nil => rfl
  | cons a as ih =>
    obtain ⟨ha, has⟩ := List.forall_mem_cons.mp h
    change (step a >>= _).outcome = (step' a >>= _).outcome
    rw [outcome_bind, outcome_bind, ha]
    congr 1
    funext passed
    cases passed with
    | true => exact ih has
    | false => rfl

theorem outcome_any_congr {step step' : α → Walk Bool} {as : List α}
    (h : ∀ a ∈ as, (step a).outcome = (step' a).outcome) :
    (any step as).outcome = (any step' as).outcome := by
  induction as with
  | nil => rfl
  | cons a as ih =>
    obtain ⟨ha, has⟩ := List.forall_mem_cons.mp h
    change (step a >>= _).outcome = (step' a >>= _).outcome
    rw [outcome_bind, outcome_bind, ha]
    congr 1
    funext passed
    cases passed with
    | true => rfl
    | false => exact ih has

/-- Stopping at the first failure ends with `true` when every step does. -/
theorem all_eq_ok_true_iff {step : α → Walk Bool} {as : List α} :
    (all step as).outcome = .ok true ↔ ∀ a ∈ as, (step a).outcome = .ok true := by
  induction as with
  | nil => simp
  | cons a as ih =>
    change (step a >>= _).outcome = _ ↔ _
    rw [bind_eq_ok_iff, List.forall_mem_cons, ← ih]
    constructor
    · rintro ⟨passed, hstep, hrest⟩
      cases passed with
      | true => exact ⟨hstep, hrest⟩
      | false => simp at hrest
    · rintro ⟨hstep, hrest⟩
      exact ⟨true, hstep, hrest⟩

/-- Stopping at the first success ends with `false` when every step does. -/
theorem any_eq_ok_false_iff {step : α → Walk Bool} {as : List α} :
    (any step as).outcome = .ok false ↔ ∀ a ∈ as, (step a).outcome = .ok false := by
  induction as with
  | nil => simp
  | cons a as ih =>
    change (step a >>= _).outcome = _ ↔ _
    rw [bind_eq_ok_iff, List.forall_mem_cons, ← ih]
    constructor
    · rintro ⟨passed, hstep, hrest⟩
      cases passed with
      | true => simp at hrest
      | false => exact ⟨hstep, hrest⟩
    · rintro ⟨hstep, hrest⟩
      exact ⟨false, hstep, hrest⟩

/-- Stopping at the first success ends with `true` only where a step does. -/
theorem exists_of_any_eq_ok_true {step : α → Walk Bool} {as : List α}
    (h : (any step as).outcome = .ok true) : ∃ a ∈ as, (step a).outcome = .ok true := by
  induction as with
  | nil => simp at h
  | cons a as ih =>
    obtain ⟨passed, hstep, hrest⟩ := bind_eq_ok_iff.mp h
    cases passed with
    | true => exact ⟨a, List.mem_cons_self, hstep⟩
    | false =>
      obtain ⟨a', ha', h'⟩ := ih hrest
      exact ⟨a', List.mem_cons_of_mem _ ha', h'⟩

/-- **Stopping at the first success** ends with `true` where a step does and every step before it ends
without a fault. -/
theorem any_eq_ok_true_iff {step : α → Walk Bool} {as : List α} :
    (any step as).outcome = .ok true ↔ ∃ before a after, as = before ++ a :: after ∧
      (step a).outcome = .ok true ∧ ∀ b ∈ before, ∃ passed, (step b).outcome = .ok passed := by
  induction as with
  | nil => simp
  | cons a as ih =>
    change (step a >>= _).outcome = _ ↔ _
    rw [bind_eq_ok_iff]
    constructor
    · rintro ⟨passed, hstep, hrest⟩
      cases passed with
      | true => exact ⟨[], a, as, rfl, hstep, by simp⟩
      | false =>
        obtain ⟨before, b, after, rfl, hb, hbefore⟩ := ih.mp hrest
        exact ⟨a :: before, b, after, rfl, hb, List.forall_mem_cons.mpr ⟨⟨false, hstep⟩, hbefore⟩⟩
    · rintro ⟨before, b, after, hsplit, hb, hbefore⟩
      cases before with
      | nil =>
        obtain ⟨rfl, rfl⟩ := List.cons.inj hsplit
        exact ⟨true, hb, rfl⟩
      | cons first before =>
        obtain ⟨rfl, rfl⟩ := List.cons.inj hsplit
        obtain ⟨⟨passed, hfirst⟩, hbefore⟩ := List.forall_mem_cons.mp hbefore
        refine ⟨passed, hfirst, ?_⟩
        cases passed with
        | true => rfl
        | false => exact ih.mpr ⟨before, b, after, rfl, hb, hbefore⟩

/-- Going on to the end with `true` is every step ending with `true`. -/
theorem every_eq_ok_true_iff {step : α → Walk Bool} {as : List α} :
    (every step as).outcome = .ok true ↔ ∀ a ∈ as, (step a).outcome = .ok true := by
  induction as with
  | nil => simp
  | cons a as ih =>
    change (step a >>= _).outcome = _ ↔ _
    rw [bind_eq_ok_iff, List.forall_mem_cons, ← ih]
    constructor
    · rintro ⟨passed, hstep, hrest⟩
      obtain ⟨rest, hevery, hand⟩ := bind_eq_ok_iff.mp hrest
      cases passed <;> cases rest <;> simp_all
    · rintro ⟨hstep, hrest⟩
      exact ⟨true, hstep, bind_eq_ok_iff.mpr ⟨true, hrest, rfl⟩⟩

/-! ## Confirmation -/

/-- **One walk confirms another** when the other ends with every result that it ends with.  Where the
first ends with a fault it says nothing. -/
def Confirms (w w' : Walk α) : Prop := ∀ b, w.outcome = .ok b → w'.outcome = .ok b

theorem Confirms.refl (w : Walk α) : Confirms w w := fun _ h => h

/-- Confirmed walks confirm what is built from them in the same way. -/
theorem Confirms.bind {w w' : Walk α} {f f' : α → Walk β} (hw : Confirms w w')
    (hf : ∀ a, Confirms (f a) (f' a)) : Confirms (w >>= f) (w' >>= f') := by
  intro b h
  obtain ⟨a, ha, hb⟩ := bind_eq_ok_iff.mp h
  exact bind_eq_ok_iff.mpr ⟨a, hw a ha, hf a b hb⟩

/-- Searches through one list, each step of one confirmed by the same step of the other. -/
theorem Confirms.any {step step' : α → Walk Bool} {as : List α}
    (h : ∀ a ∈ as, Confirms (step a) (step' a)) : Confirms (any step as) (any step' as) := by
  induction as with
  | nil => exact Confirms.refl _
  | cons a as ih =>
    obtain ⟨ha, has⟩ := List.forall_mem_cons.mp h
    refine Confirms.bind ha fun passed => ?_
    cases passed with
    | true => exact Confirms.refl _
    | false => exact ih has

/-- **Going on to the end confirms stopping at the first failure**, when each step is confirmed. -/
theorem every_confirms_all {step step' : α → Walk Bool} {as : List α}
    (h : ∀ a ∈ as, Confirms (step a) (step' a)) : Confirms (every step as) (all step' as) := by
  induction as with
  | nil => exact Confirms.refl _
  | cons a as ih =>
    intro b hb
    obtain ⟨passed, hstep, hrest⟩ := bind_eq_ok_iff.mp hb
    obtain ⟨rest, hevery, hand⟩ := bind_eq_ok_iff.mp hrest
    have hrest' := ih (fun a' ha' => h a' (List.mem_cons_of_mem _ ha')) rest hevery
    refine bind_eq_ok_iff.mpr ⟨passed, h a List.mem_cons_self passed hstep, ?_⟩
    cases passed with
    | true => simpa [hrest'] using hand
    | false => simpa using hand

end Conformance.Walk
