import Conformance.Proofs.Session.Decoding
import Conformance.Proofs.Validator.Rebinding

/-!
# Sessions and the references that they take over

Binding a session takes over the references that wait in its root, and counts them.  What is compiled or
read is bound to a session of its own, so nothing waits in it any more, and it can be compiled again without
a change.

## Main Definitions

* `Schema.IsBound` — a schema in which nothing waits, as the root of its session

## Main statements

* `Action.exists_bindRoot` — binding a session to a validator without endless delegates
* `Schema.isBound_of_compile`, `Schema.isBound_of_decode` — what is compiled or read is bound
* `Schema.takes_over` — what rebinding, binding, compiling and reading do with references
-/

namespace Conformance

variable {host : Host} {s : Store}

/-- **Binding a session** takes over the references that wait in the root, adds their number to the
session's count, and leaves a root in which nothing waits as it is. -/
theorem Action.exists_bindRoot {n : Nat} {cell : Session} (hcell : s.sessions[n]? = some cell)
    (hunbound : cell.root = none) {root : Handle}
    (hchain : ¬ root.validator.ChainsLive host.slot depthLimit) :
    ∃ r bound, root.validator.Rebinds host.slot n depthLimit (some root.label) r ∧
      (bindRoot host n root s).outcome = .ok bound ∧ bound.validator = r.result root.validator ∧
      (¬ root.validator.Holds host.slot none → bound = root) ∧
      (bindRoot host n root s).store.sessions[n]? = some ⟨some bound, cell.adopted +
        (Validator.referencesTo host.slot depthLimit root.validator).count none⟩ := by
  obtain ⟨r, hr, hrebinds⟩ := Validator.exists_rebinds hchain n (some root.label)
  have hroot : s.root n = none := by rw [Store.root, hcell, Option.bind_some, hunbound]
  obtain ⟨bound, houtcome, hvalidator, hsessions⟩ := bindRoot_of_rebound hroot hr
  refine ⟨r, bound, hrebinds, houtcome, hvalidator, fun hholds => ?_, ?_⟩
  · have hsame := bindRoot_of_unchanged hroot hr (hrebinds.unchanged.mpr hholds)
    exact Except.ok.inj (houtcome.symm.trans hsame)
  · rw [hsessions, List.getElem?_modify, hcell, ← hrebinds.adopted]
    exact congrArg some (if_pos rfl)

namespace Schema

/-- Compiling a validator in which nothing waits gives that very validator. -/
theorem compile_validator_of_not_holds {h : Handle} (hholds : ¬ h.validator.Holds host.slot none)
    (hchain : ¬ h.validator.ChainsLive host.slot depthLimit) (t : Store) :
    (compile host (.validator h) t).outcome = .ok h := by
  obtain ⟨r, hr, hrebinds⟩ := Validator.exists_rebinds hchain t.sessions.length (some h.label)
  have hroot : (Action.begin t).store.root t.sessions.length = none := by
    have hbegun : (Action.begin t).store.sessions = t.sessions ++ [.empty] := rfl
    rw [Store.root_append hbegun, if_pos rfl]
    rfl
  have hbind := Action.bindRoot_of_unchanged hroot hr (hrebinds.unchanged.mpr hholds)
  refine (Action.outcome_bind_of_ok (a := t.sessions.length) rfl).trans ?_
  refine (Action.outcome_bind_of_ok (a := h.validator) rfl).trans ?_
  refine (Action.outcome_bind_of_ok (a := h) rfl).trans ?_
  exact (Action.outcome_bind_of_ok hbind).trans rfl

/-- **A schema that its session is bound to**: nothing waits in it, it is the root that the references of
the session lead to, and compiling it gives it back. -/
structure IsBound (host : Host) (n : Nat) (h : Handle) (s : Store) : Prop where
  settled : ¬ h.validator.Holds host.slot none
  resolves : ∀ t, s.Extends t → (t.env host).root n = some h.validator
  again : ∀ t, (compile host (.validator h) t).outcome = .ok h

/-- An operation with a session of its own ends with a schema that the session is bound to. -/
theorem Ended.isBound {made : Except Refusal Validator} {step : Step Handle}
    (h : Ended host s made step) {bound : Handle} (houtcome : step.outcome = .ok bound) :
    IsBound host s.sessions.length bound step.store := by
  have hroot := h.root_of_outcome houtcome
  obtain ⟨v, label, r, -, hrebind, hvalidator⟩ := h.exists_rebound houtcome
  have hholds : ¬ bound.validator.Holds host.slot none := by
    rw [hvalidator]
    exact Validator.not_holds_none_rebindTo hrebind
  have hchain : ¬ bound.validator.ChainsLive host.slot depthLimit := by
    rw [hvalidator]
    exact mt (Validator.takenOver_rebindTo hrebind).chainsLive
      (Validator.not_chainsLive_of_rebindTo hrebind)
  exact ⟨hholds, fun t hextends => Store.root_env host (hextends hroot),
    compile_validator_of_not_holds hholds hchain⟩

/-- **What is compiled is bound**, and its references are those of its session and those of validators
that the pattern brought with it. -/
theorem isBound_of_compile {p : Pattern} {h : Handle} (hcompile : (compile host p s).outcome = .ok h) :
    IsBound host s.sessions.length h (compile host p s).store ∧
      ∀ m, h.validator.Holds host.slot (some m) → m = s.sessions.length ∨
        ∃ w, p.Embeds host.slot w ∧ w.Holds host.slot (some m) := by
  have hended := ended_compile host s p
  refine ⟨hended.isBound hcompile, fun m hm => ?_⟩
  obtain ⟨v, label, r, hmade, hrebind, hvalidator⟩ := hended.exists_rebound hcompile
  rw [hvalidator, Validator.holds_rebindTo hrebind] at hm
  obtain ⟨own, hown, hsession⟩ := hm
  cases own with
  | none => exact .inl (Option.some.inj hsession)
  | some own =>
    cases hsession
    rcases Pattern.holds_compile hmade hown with hsame | hembedded
    · exact .inl (Option.some.inj hsame)
    · exact .inr hembedded

/-- **What is read from a descriptor is bound**, and all its references are those of its session. -/
theorem isBound_of_decode {document : Value} {h : Handle}
    (hdecode : (decode host document s).outcome = .ok h) :
    IsBound host s.sessions.length h (decode host document s).store ∧
      ∀ m, h.validator.Holds host.slot (some m) → m = s.sessions.length := by
  cases hdocument : Descriptor.ofDocument document with
  | error e =>
    rw [decode_of_refused hdocument] at hdecode
    cases hdecode
  | ok descriptor =>
    refine ⟨(ended_decode host s hdocument).isBound hdecode, fun m hm => ?_⟩
    have hcontained := Descriptor.selfContained_decode (read_of_decode hdocument hdecode)
    exact Option.some.inj (hcontained.eq_of_holds hm)

end Schema

end Conformance
