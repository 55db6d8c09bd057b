import Conformance.Proofs.Validator.AgreeingChecks

/-!
# Checks that are wider

A check is wider than another one when it does not refuse what the other accepts.  It may end with a
fault where the other one accepts: the two may look at different things.

## Main Definitions

* `Walk.Widens` — a walk that does not refuse where another one accepts
* `Check.Widens` — a check that does not refuse what another one accepts
* `Property.Widens` — a key that says the same as another one, with a wider check under it

## Main statements

* `Walk.Widens.all`, `Walk.Widens.any` — walks over steps that are widened
* `Check.Widens.anyOf`, `Check.Widens.arrayOf`, `Check.widens_object` — checks that are put together from
  wider ones are wider
-/

namespace Conformance

/-! ## Walks -/

namespace Walk

variable {α β : Type}

/-- **A walk is widened by another one** that does not end with `false` where it ends with `true`. -/
def Widens (w w' : Walk Bool) : Prop := w.outcome = .ok true → ¬ w'.Ends false

/-- A walk that ends with `true` where the other does. -/
theorem widens_of_outcome {w w' : Walk Bool} (h : w.outcome = .ok true → w'.outcome = .ok true) :
    w.Widens w' := by
  intro htrue hfalse
  cases (h htrue).symm.trans hfalse.1

/-- A walk that ends with `false` is widened by any. -/
theorem widens_of_false {w w' : Walk Bool} (h : w.outcome = .ok false) : w.Widens w' := by
  intro htrue
  cases h.symm.trans htrue

/-- So is a walk that ends with a fault. -/
theorem widens_of_fault {w w' : Walk Bool} {f : Fault} (h : w.outcome = .error f) : w.Widens w' := by
  intro htrue
  cases h.symm.trans htrue

/-- Walks that go on only from `true` are widened part by part. -/
theorem Widens.bind_if {w w' x x' : Walk Bool} (hw : w.Widens w') (hx : x.Widens x') :
    Widens (w >>= fun passed => if passed then x else Pure.pure false)
      (w' >>= fun passed => if passed then x' else Pure.pure false) := by
  intro htrue hfalse
  obtain ⟨passed, hpassed, hrest⟩ := bind_eq_ok_iff.mp htrue
  obtain ⟨passed', hpassed', hrest'⟩ := ends_bind hfalse
  cases passed with
  | false => cases hrest
  | true =>
    cases passed' with
    | false => exact hw hpassed hpassed'
    | true => exact hx hrest hrest'

/-- Guarded walks are widened if the walks are. -/
theorem Widens.guarded {w w' : Walk Bool} {event event' : Fault → Event} (h : w.Widens w')
    (hevent' : ∀ f, (event' f).isCrash = true) : (w.guarded event).Widens (w'.guarded event') := by
  intro htrue hfalse
  obtain ⟨b, hb, haccepts⟩ := outcome_guarded event w
  exact h (haccepts (Except.ok.inj (hb.symm.trans htrue))) (ends_of_ends_guarded hevent' hfalse)

/-- **Walks over steps that are widened.**  Each step of the wider walk widens one of the other; order
and number do not matter. -/
theorem Widens.all {step : α → Walk Bool} {step' : β → Walk Bool} {as : List α} {bs : List β}
    (h : ∀ b ∈ bs, ∃ a ∈ as, (step a).Widens (step' b)) :
    (Walk.all step as).Widens (Walk.all step' bs) := by
  intro htrue hfalse
  obtain ⟨b, hb, hends⟩ := exists_of_ends_all_false hfalse
  obtain ⟨a, ha, hwidens⟩ := h b hb
  exact hwidens (all_eq_ok_true_iff.mp htrue a ha) hends

/-- **Searches through steps that are widened.** -/
theorem Widens.any {step : α → Walk Bool} {step' : β → Walk Bool} {as : List α} {bs : List β}
    (h : ∀ a ∈ as, ∃ b ∈ bs, (step a).Widens (step' b)) :
    (Walk.any step as).Widens (Walk.any step' bs) := by
  intro htrue hfalse
  obtain ⟨a, ha, haccepts⟩ := exists_of_any_eq_ok_true htrue
  obtain ⟨b, hb, hwidens⟩ := h a ha
  exact hwidens haccepts (ends_any_false hfalse b hb)

end Walk

/-! ## Checks -/

/-- **A check is widened by another one** that refuses no value with texts as keys, nor absence, where it
accepts. -/
def Check.Widens (c c' : Check) : Prop :=
  ∀ x : Value, x.TextKeyed → ∀ path, (c x path).Widens (c' x path)

/-- **A key is widened by another one** that says the same and has a wider check under it. -/
structure Property.Widens (p q : Property Check) : Prop where
  key : ∃ admitted, Key.SaysSame admitted p.key q.key
  rule : Check.Widens p.rule q.rule

namespace Check

namespace Widens

/-- Choices are widened alternative by alternative. -/
theorem anyOf {cs cs' : List Check} (h : ∀ c ∈ cs, ∃ c' ∈ cs', Check.Widens c c') :
    Check.Widens (Check.anyOf cs) (Check.anyOf cs') := by
  intro x hx path
  refine .any fun c hc => ?_
  obtain ⟨c', hc', hwidens⟩ := h c hc
  exact ⟨c', hc', hwidens x hx path⟩

/-- Arrays are widened by their elements. -/
theorem arrayOf {c c' : Check} (h : Check.Widens c c') (least : Nat) (most : Option Nat) :
    Check.Widens (Check.arrayOf least most c) (Check.arrayOf least most c') := by
  intro x hx path
  cases hx with
  | @seq form tag items hitems =>
    unfold Check.arrayOf
    dsimp only
    split
    · refine .all fun e he => ⟨e, he, ?_⟩
      obtain ⟨item, i⟩ := e
      exact h item (hitems item (List.fst_mem_of_mem_zipIdx he)) _
    · exact Walk.widens_of_false rfl
  | mapping _ _ _ => exact Walk.widens_of_false rfl
  | plain hseq _ =>
    cases x with
    | seq _ _ _ => cases hseq
    | _ => exact Walk.widens_of_false rfl

end Widens

variable {p q : Property Check} {ps qs : List (Property Check)}

/-- **The number of properties is judged no more strictly** by a key that says the same, where no two
properties have the same name. -/
theorem widens_count (h : p.Widens q) (hsingle : p.key.IsSingle) {names : List String}
    (hnodup : names.Nodup) : (count names p).Widens (count names q) := by
  obtain ⟨⟨admitted, hkey⟩, hrule⟩ := h
  have hcount : q.key.count names = p.key.count names := by
    rw [Key.count, Key.count, hkey.claims]
  unfold count
  rw [hcount]
  cases hkey with
  | same hname heq =>
    have hjudge : q.key.judge (p.key.count names) = p.key.judge (p.key.count names) := by
      unfold Key.judge Key.isLiteral Key.sourceText Key.source
      rw [heq, hname]
    rw [hjudge]
    cases p.key.judge (p.key.count names) with
    | allowed => exact Walk.widens_of_outcome id
    | violated _ => exact Walk.widens_of_false rfl
    | absent => exact (hrule .missing Value.textKeyed_missing "").guarded fun _ => rfl
  | anyNumber _ _ _ hany =>
    rw [show q.key.judge (p.key.count names) = .allowed by rw [Key.judge, hany]]
    exact Walk.widens_of_outcome fun _ => rfl
  | atMostOne _ hliteral _ hoptional _ =>
    -- a literal name is there once at most, and the optional key asks for no more
    have hle := hsingle hliteral names hnodup
    have hmany : ¬ 1 < p.key.count names := by omega
    have hjudge : q.key.judge (p.key.count names) = .allowed := by
      rw [Key.judge, hoptional]
      exact if_neg hmany
    rw [hjudge]
    exact Walk.widens_of_outcome fun _ => rfl

/-- **Object patterns are widened key by key**, whatever the order of the keys. -/
theorem widens_object (h : Property.Paired Property.Widens ps qs)
    (hunique : ∀ p ∈ ps, ∀ p' ∈ ps, p.key.isCatchAll = true → p'.key.isCatchAll = true → p = p')
    (hsingle : ∀ p ∈ ps, p.key.IsSingle) : Check.Widens (object ps) (object qs) := by
  intro x hx path
  cases hx with
  | @mapping form tag es names hkeys hnodup hes =>
    have hnames := propertyNames_of_texts hkeys
    have hentries : (entries ps path es).Widens (entries qs path es) := by
      refine .all fun e he => ⟨e, he, .all fun q hq => ?_⟩
      obtain ⟨p, hp, hwidens⟩ := h.claimants_back hunique hq
      exact ⟨p, hp, hwidens.rule e.2 (hes e he) _⟩
    have hcounts : (Walk.all (count names) (specific ps)).Widens
        (Walk.all (count names) (specific qs)) := by
      refine .all fun q hq => ?_
      obtain ⟨p, hp, hwidens⟩ := h.specific_back hq
      exact ⟨p, hp, widens_count hwidens (hsingle p (mem_of_mem_specific hp)) hnodup⟩
    simp only [object, hnames]
    exact hentries.bind_if hcounts
  | seq _ => exact Walk.widens_of_false rfl
  | plain _ hmapping =>
    cases x with
    | mapping _ _ _ => cases hmapping
    | _ => exact Walk.widens_of_false rfl

end Check

end Conformance
