import Conformance.Proofs.Walk

/-!
# Walks that agree on a verdict

Two walks that take related steps in a different order need not leave the same behind: one may stop
before the step at which the other ends with a fault.  Where neither meets a fault they end with the
same verdict.

## Main Definitions

* `Walk.IsCalm` — no fault was turned into non-conformance on the way
* `Walk.Ends` — a walk that ends with a result, and on the way to it was calm
* `Walk.Agree` — two walks that end with the same verdict if both of them end

## Main statements

* `Walk.Agree.all`, `Walk.Agree.any` — walks over related steps agree, in whatever order the steps
  are taken and however often
-/

namespace Conformance

/-- The event says that a fault was turned into non-conformance. -/
def Event.isCrash : Event → Bool
  | validationCrashed .. => true
  | absenceCheckCrashed .. => true
  | _ => false

namespace Walk

variable {α β : Type}

/-- **No fault was turned into non-conformance** on the way. -/
def IsCalm (w : Walk α) : Prop := ∀ e ∈ w.events, e.isCrash = false

instance (w : Walk α) : Decidable w.IsCalm :=
  inferInstanceAs (Decidable (∀ e ∈ w.events, e.isCrash = false))

/-- A walk ends with a result, and no fault was turned into non-conformance on the way to it. -/
def Ends (w : Walk α) (a : α) : Prop := w.outcome = .ok a ∧ w.IsCalm

/-! ## How walks end -/

theorem ends_pure {a b : α} (h : (Pure.pure a : Walk α).Ends b) : a = b := Except.ok.inj h.1

/-- A walk that ends has ended with each of its parts. -/
theorem ends_bind {w : Walk α} {f : α → Walk β} {b : β} (h : (w >>= f).Ends b) :
    ∃ a, w.Ends a ∧ (f a).Ends b := by
  obtain ⟨houtcome, hcalm⟩ := h
  obtain ⟨a, ha, hb⟩ := bind_eq_ok_iff.mp houtcome
  have hevents : (w >>= f).events = w.events ++ (f a).events := by
    obtain ⟨events, found, outcome⟩ := w
    cases ha
    rfl
  rw [IsCalm, hevents] at hcalm
  exact ⟨a, ⟨ha, fun e he => hcalm e (List.mem_append_left _ he)⟩,
    hb, fun e he => hcalm e (List.mem_append_right _ he)⟩

/-- A walk over a list that ends with `true` has taken every step, and each ended with `true`. -/
theorem ends_all_true {step : α → Walk Bool} {as : List α} (h : (all step as).Ends true) :
    ∀ a ∈ as, (step a).Ends true := by
  induction as with
  | nil => simp
  | cons a as ih =>
    obtain ⟨passed, hstep, hrest⟩ := ends_bind h
    cases passed with
    | false => cases ends_pure hrest
    | true => exact List.forall_mem_cons.mpr ⟨hstep, ih hrest⟩

/-- A walk over a list that ends with `false` has met a step that did. -/
theorem exists_of_ends_all_false {step : α → Walk Bool} {as : List α} (h : (all step as).Ends false) :
    ∃ a ∈ as, (step a).Ends false := by
  induction as with
  | nil => cases ends_pure h
  | cons a as ih =>
    obtain ⟨passed, hstep, hrest⟩ := ends_bind h
    cases passed with
    | false => exact ⟨a, List.mem_cons_self, hstep⟩
    | true =>
      obtain ⟨a', ha', h'⟩ := ih hrest
      exact ⟨a', List.mem_cons_of_mem a ha', h'⟩

/-- A search through a list that ends with `false` has taken every step, and each ended with
`false`. -/
theorem ends_any_false {step : α → Walk Bool} {as : List α} (h : (any step as).Ends false) :
    ∀ a ∈ as, (step a).Ends false := by
  induction as with
  | nil => simp
  | cons a as ih =>
    obtain ⟨passed, hstep, hrest⟩ := ends_bind h
    cases passed with
    | true => cases ends_pure hrest
    | false => exact List.forall_mem_cons.mpr ⟨hstep, ih hrest⟩

/-- A search through a list that ends with `true` has met a step that did. -/
theorem exists_of_ends_any_true {step : α → Walk Bool} {as : List α} (h : (any step as).Ends true) :
    ∃ a ∈ as, (step a).Ends true := by
  induction as with
  | nil => cases ends_pure h
  | cons a as ih =>
    obtain ⟨passed, hstep, hrest⟩ := ends_bind h
    cases passed with
    | true => exact ⟨a, List.mem_cons_self, hstep⟩
    | false =>
      obtain ⟨a', ha', h'⟩ := ih hrest
      exact ⟨a', List.mem_cons_of_mem a ha', h'⟩

/-- A guarded walk that stays calm has not met a fault. -/
theorem ends_of_ends_guarded {w : Walk Bool} {event : Fault → Event} {b : Bool}
    (hevent : ∀ f, (event f).isCrash = true) (h : (w.guarded event).Ends b) : w.Ends b := by
  obtain ⟨events, found, outcome⟩ := w
  cases outcome with
  | ok a => exact h
  | error f =>
    have hcrash := h.2 (event f) (List.mem_append_right events List.mem_cons_self)
    rw [hevent] at hcrash
    cases hcrash

/-- The answer of a guarded walk is up to the outcome of the walk. -/
theorem outcome_guarded_congr {event event' : Fault → Event} {w w' : Walk Bool}
    (h : w'.outcome = w.outcome) : (w'.guarded event').outcome = (w.guarded event).outcome := by
  unfold guarded
  rw [h]
  cases w.outcome <;> rfl

/-- A guarded walk ends with a verdict, and with `true` only if the walk did. -/
theorem outcome_guarded (event : Fault → Event) (w : Walk Bool) :
    ∃ b, (w.guarded event).outcome = .ok b ∧ (b = true → w.outcome = .ok true) := by
  obtain ⟨events, found, outcome⟩ := w
  cases outcome with
  | ok b => exact ⟨b, rfl, fun hb => congrArg Except.ok hb⟩
  | error f => exact ⟨false, rfl, nofun⟩

/-! ## Agreement -/

/-- **Two walks agree** when they end with the same verdict if both of them end. -/
def Agree (w w' : Walk Bool) : Prop := ∀ b b', w.Ends b → w'.Ends b' → b = b'

/-- Walks with the same outcome agree. -/
theorem agree_of_outcome_eq {w w' : Walk Bool} (h : w.outcome = w'.outcome) : w.Agree w' :=
  fun _ _ hb hb' => Except.ok.inj (hb.1.symm.trans (h.trans hb'.1))

/-- A walk agrees with `true` if it does not end with `false`. -/
theorem agree_pure_true {w : Walk Bool} (h : ¬ w.Ends false) : w.Agree (Pure.pure true) := by
  intro b b' hb hb'
  cases ends_pure hb'
  cases b with
  | true => rfl
  | false => exact absurd hb h

/-- Walks that go on only from `true` agree if what they go on with agrees. -/
theorem Agree.bind_if {w w' x x' : Walk Bool} (hw : w.Agree w') (hx : x.Agree x') :
    Agree (w >>= fun passed => if passed then x else Pure.pure false)
      (w' >>= fun passed => if passed then x' else Pure.pure false) := by
  intro b b' hb hb'
  obtain ⟨passed, hpassed, hrest⟩ := ends_bind hb
  obtain ⟨passed', hpassed', hrest'⟩ := ends_bind hb'
  cases hw passed passed' hpassed hpassed'
  cases passed with
  | true => exact hx b b' hrest hrest'
  | false => exact (ends_pure hrest).symm.trans (ends_pure hrest')

/-- Guarded walks agree if the walks do. -/
theorem Agree.guarded {w w' : Walk Bool} {event event' : Fault → Event} (h : w.Agree w')
    (hevent : ∀ f, (event f).isCrash = true) (hevent' : ∀ f, (event' f).isCrash = true) :
    (w.guarded event).Agree (w'.guarded event') :=
  fun b b' hb hb' => h b b' (ends_of_ends_guarded hevent hb) (ends_of_ends_guarded hevent' hb')

/-- **Walks over related steps agree.**  Each step of one has a step of the other that it agrees with;
order and number do not matter. -/
theorem Agree.all {step : α → Walk Bool} {step' : β → Walk Bool} {as : List α} {bs : List β}
    (hforth : ∀ a ∈ as, ∃ b ∈ bs, (step a).Agree (step' b))
    (hback : ∀ b ∈ bs, ∃ a ∈ as, (step a).Agree (step' b)) :
    (all step as).Agree (all step' bs) := by
  intro v v' hv hv'
  -- the step that ends one walk with `false` agrees with one that the other walk has taken
  cases v with
  | true =>
    cases v' with
    | true => rfl
    | false =>
      obtain ⟨b, hb, hfalse⟩ := exists_of_ends_all_false hv'
      obtain ⟨a, ha, hagree⟩ := hback b hb
      exact hagree true false (ends_all_true hv a ha) hfalse
  | false =>
    cases v' with
    | false => rfl
    | true =>
      obtain ⟨a, ha, hfalse⟩ := exists_of_ends_all_false hv
      obtain ⟨b, hb, hagree⟩ := hforth a ha
      exact hagree false true hfalse (ends_all_true hv' b hb)

/-- **Searches through related steps agree.** -/
theorem Agree.any {step : α → Walk Bool} {step' : β → Walk Bool} {as : List α} {bs : List β}
    (hforth : ∀ a ∈ as, ∃ b ∈ bs, (step a).Agree (step' b))
    (hback : ∀ b ∈ bs, ∃ a ∈ as, (step a).Agree (step' b)) :
    (any step as).Agree (any step' bs) := by
  intro v v' hv hv'
  cases v with
  | false =>
    cases v' with
    | false => rfl
    | true =>
      obtain ⟨b, hb, htrue⟩ := exists_of_ends_any_true hv'
      obtain ⟨a, ha, hagree⟩ := hback b hb
      exact hagree false true (ends_any_false hv a ha) htrue
  | true =>
    cases v' with
    | true => rfl
    | false =>
      obtain ⟨a, ha, htrue⟩ := exists_of_ends_any_true hv
      obtain ⟨b, hb, hagree⟩ := hforth a ha
      exact hagree true false htrue (ends_any_false hv' b hb)

/-- Walks that agree at every member of a list agree over the list. -/
theorem Agree.all_same {step step' : α → Walk Bool} {as : List α}
    (h : ∀ a ∈ as, (step a).Agree (step' a)) : (Walk.all step as).Agree (Walk.all step' as) :=
  .all (fun a ha => ⟨a, ha, h a ha⟩) fun a ha => ⟨a, ha, h a ha⟩

end Walk

end Conformance
