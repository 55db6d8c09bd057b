import Conformance.Proofs.Descriptor.Decoded
import Conformance.Proofs.Session.Schema
import Conformance.Proofs.Validator.Agreement

/-!
# Runs of operations on sessions

Any number of sessions may be under way at a time, and their operations may follow one another in any
order, with patterns that hold whatever was compiled before.

## Main Definitions

* `Operation` — one step of a run: a session begun, referred to or bound, a pattern or a descriptor
  read
* `Operation.run` — what steps one after another make of a store
* `Operation.Brings` — a validator that a step is given
* `Env.Settled` — all references that a check of a validator comes to are bound, or of no session

## Main statements

* `Operation.extends_perform`, `Operation.root_of_root_perform` — what one step does to the roots
* `Operation.holds_of_perform` — where the references in the result of one step come from
* `Operation.sessions_of_run` — roots never change, references mean the root of the session that made
  them, and a validator that is settled does the same for ever
-/

namespace Conformance

/-- One step of a run. -/
inductive Operation where
  | begin
  /-- Make a reference to the root of a session. -/
  | reference (session : Nat)
  | bind (session : Nat) (root : Handle)
  | compile (pattern : Pattern)
  | fragment (pattern : Pattern)
  | decode (document : Value)

namespace Operation

variable {host : Host} {s : Store} {op : Operation}

/-- What a step does; beginning a session gives no validator. -/
def perform (host : Host) : Operation → Action (Option Handle)
  | begin => do
    let _ ← Action.begin
    return none
  | reference session => some <$> Action.reference session
  | bind session root => some <$> Action.bindRoot host session root
  | compile pattern => some <$> Schema.compile host pattern
  | fragment pattern => some <$> Schema.fragment host pattern
  | decode document => some <$> Schema.decode host document

/-- What steps one after another, whether they succeed or fail, make of a store. -/
def run (host : Host) : List Operation → Store → Store
  | [], s => s
  | op :: ops, s => run host ops (op.perform host s).store

/-- The session that a step works for: the one it is given, or one of its own. -/
def session (s : Store) : Operation → Option Nat
  | begin => some s.sessions.length
  | reference session => some session
  | bind session _ => some session
  | compile _ => some s.sessions.length
  | fragment _ => none
  | decode _ => some s.sessions.length

/-- The step binds the session it works for. -/
def Binds : Operation → Prop
  | bind .. | compile _ | decode _ => True
  | begin | reference _ | fragment _ => False

/-- A validator that a step is given, as the root to bind or in its pattern. -/
def Brings (slot : Nat → Slot) (v : Validator) : Operation → Prop
  | bind _ root => root.validator = v
  | compile pattern | fragment pattern => pattern.Embeds slot v
  | begin | reference _ | decode _ => False

/-! ## One step -/

/-- A result that is handed on as the result of a step. -/
theorem map_eq (x : Action Handle) (s : Store) :
    (some <$> x : Action (Option Handle)) s = ⟨(x s).store, (x s).events, (x s).outcome.map some⟩ := by
  change Action.bind x (fun a => Action.pure (some a)) s = _
  rw [Action.bind]
  cases (x s).outcome with
  | error e => rfl
  | ok a =>
    dsimp only [Action.pure]
    rw [List.append_nil]
    rfl

/-- The outcome of an operation that is a step. -/
theorem outcome_map_eq {x : Action Handle} {h : Handle} :
    ((some <$> x : Action (Option Handle)) s).outcome = .ok (some h) ↔ (x s).outcome = .ok h := by
  rw [map_eq]
  cases (x s).outcome with
  | error e => exact iff_of_false (fun h => nomatch h) (fun h => nomatch h)
  | ok a =>
    refine ⟨fun h => ?_, fun h => ?_⟩
    · exact congrArg Except.ok (Option.some.inj (Except.ok.inj h))
    · rw [Except.ok.inj h]
      rfl

/-- The root of a session that was just begun, and the roots of the others. -/
theorem root_of_begun {s' : Store} (h : s'.sessions = s.sessions ++ [.empty]) (n : Nat) :
    s'.root n = s.root n := by
  rw [Store.root_append h]
  split
  · next hn => rw [Store.root_of_length_le (Nat.le_of_eq hn.symm)]; rfl
  · rfl

/-- An operation with a session of its own gives a root to no other session. -/
theorem root_of_ended {made : Except Refusal Validator} {step : Step Handle}
    (h : Schema.Ended host s made step) {n : Nat} {r : Handle} (hroot : step.store.root n = some r) :
    s.root n = some r ∨ n = s.sessions.length ∧ step.outcome = .ok r := by
  cases h with
  | refused _ _ hsessions | fault _ _ _ hsessions =>
    rw [root_of_begun hsessions] at hroot
    exact .inl hroot
  | bound _ _ houtcome _ hsessions =>
    rw [Store.root_append hsessions] at hroot
    split at hroot
    · next hn =>
      cases hroot
      exact .inr ⟨hn, houtcome⟩
    · exact .inl hroot

/-- An operation with a session of its own keeps the roots of the others. -/
theorem extends_of_ended {made : Except Refusal Validator} {step : Step Handle}
    (h : Schema.Ended host s made step) : s.Extends step.store := by
  intro n r hroot
  cases h with
  | refused _ _ hsessions | fault _ _ _ hsessions => rwa [root_of_begun hsessions]
  | bound _ _ _ _ hsessions =>
    rw [Store.root_append hsessions, if_neg, hroot]
    rintro rfl
    rw [Store.root_of_length_le (Nat.le_refl _)] at hroot
    cases hroot

/-- **One step keeps every root.** -/
theorem extends_perform (host : Host) (s : Store) (op : Operation) :
    s.Extends (op.perform host s).store := by
  cases op with
  | begin =>
    intro n r hroot
    have hbegun : (perform host .begin s).store.sessions = s.sessions ++ [.empty] := rfl
    rwa [root_of_begun hbegun]
  | reference n => exact .refl s
  | bind n root =>
    rw [perform, map_eq]
    intro m r hroot
    rcases Action.bindRoot_cases host n root s with ⟨e, h⟩ | ⟨_, _, hnone, -, -, -, hsessions⟩
    · rwa [h]
    · rw [Store.root_modify hsessions, if_neg, hroot]
      rintro rfl
      rw [hnone] at hroot
      cases hroot
  | compile p =>
    rw [perform, map_eq]
    exact extends_of_ended (Schema.ended_compile host s p)
  | fragment p =>
    rw [perform, map_eq]
    intro n r hroot
    rwa [Store.root_eq_of_sessions_eq (Schema.fragment_eq host s p).2]
  | decode document =>
    rw [perform, map_eq]
    cases hdocument : Descriptor.ofDocument document with
    | error e =>
      rw [Schema.decode_of_refused hdocument]
      exact .refl s
    | ok descriptor => exact extends_of_ended (Schema.ended_decode host s hdocument)

/-- **A root comes from the step that bound its session**, and is the result of that step. -/
theorem root_of_root_perform {n : Nat} {r : Handle}
    (hroot : (op.perform host s).store.root n = some r) :
    s.root n = some r ∨
      op.Binds ∧ op.session s = some n ∧ (op.perform host s).outcome = .ok (some r) := by
  cases op with
  | begin =>
    have hbegun : (perform host .begin s).store.sessions = s.sessions ++ [.empty] := rfl
    rw [root_of_begun hbegun] at hroot
    exact .inl hroot
  | reference m => exact .inl hroot
  | bind m root =>
    rw [perform, map_eq] at hroot
    rw [perform, outcome_map_eq]
    rcases Action.bindRoot_cases host m root s with
      ⟨e, h⟩ | ⟨_, bound, -, -, houtcome, -, hsessions⟩
    · rw [h] at hroot
      exact .inl hroot
    · rw [Store.root_modify hsessions] at hroot
      split at hroot
      · next hm =>
        obtain ⟨cell, -, hcell⟩ := Option.bind_eq_some_iff.mp hroot
        cases hcell
        exact .inr ⟨trivial, congrArg some hm, houtcome⟩
      · exact .inl hroot
  | compile p =>
    rw [perform, map_eq] at hroot
    rw [perform, outcome_map_eq]
    rcases root_of_ended (Schema.ended_compile host s p) hroot with h | ⟨rfl, houtcome⟩
    · exact .inl h
    · exact .inr ⟨trivial, rfl, houtcome⟩
  | fragment p =>
    rw [perform, map_eq] at hroot
    rw [Store.root_eq_of_sessions_eq (Schema.fragment_eq host s p).2] at hroot
    exact .inl hroot
  | decode document =>
    rw [perform, map_eq] at hroot
    rw [perform, outcome_map_eq]
    cases hdocument : Descriptor.ofDocument document with
    | error e =>
      rw [Schema.decode_of_refused hdocument] at hroot
      exact .inl hroot
    | ok descriptor =>
      rcases root_of_ended (Schema.ended_decode host s hdocument) hroot with h | ⟨rfl, houtcome⟩
      · exact .inl h
      · exact .inr ⟨trivial, rfl, houtcome⟩

/-- **The result of a step that binds is the root of its session**, which is one that was begun. -/
theorem root_perform_of_binds {n : Nat} {r : Handle} (hbinds : op.Binds)
    (hsession : op.session s = some n) (hbegun : n < (op.perform host s).store.sessions.length)
    (houtcome : (op.perform host s).outcome = .ok (some r)) :
    (op.perform host s).store.root n = some r := by
  cases op with
  | begin => exact hbinds.elim
  | reference m => exact hbinds.elim
  | fragment p => exact hbinds.elim
  | bind m root =>
    cases hsession
    rw [perform, outcome_map_eq] at houtcome
    rw [perform, map_eq] at hbegun ⊢
    rcases Action.bindRoot_cases host n root s with ⟨e, h⟩ | ⟨_, bound, -, -, hok, -, hsessions⟩
    · rw [h] at houtcome
      cases houtcome
    · rw [hok] at houtcome
      cases houtcome
      rw [hsessions, List.length_modify] at hbegun
      rw [Store.root_modify hsessions, if_pos rfl, List.getElem?_eq_getElem hbegun,
        Option.bind_some]
  | compile p =>
    cases hsession
    rw [perform, outcome_map_eq] at houtcome
    rw [perform, map_eq]
    exact (Schema.ended_compile host s p).root_of_outcome houtcome
  | decode document =>
    cases hsession
    rw [perform, outcome_map_eq] at houtcome
    rw [perform, map_eq]
    cases hdocument : Descriptor.ofDocument document with
    | error e =>
      rw [Schema.decode_of_refused hdocument] at houtcome
      cases houtcome
    | ok descriptor => exact (Schema.ended_decode host s hdocument).root_of_outcome houtcome

/-- The references in the result of an operation with a session of its own. -/
theorem holds_of_ended {made : Except Refusal Validator} {step : Step Handle}
    (h : Schema.Ended host s made step) {r : Handle} (houtcome : step.outcome = .ok r)
    {own : Option Nat} (hown : r.validator.Holds host.slot own) :
    ∃ v own', made = .ok v ∧ v.Holds host.slot own' ∧ own = some (own'.getD s.sessions.length) := by
  obtain ⟨v, label, rebound, hmade, hrebind, hvalidator⟩ := h.exists_rebound houtcome
  rw [hvalidator] at hown
  obtain ⟨own', hown', heq⟩ := (Validator.holds_rebindTo hrebind own).mp hown
  exact ⟨v, own', hmade, hown', heq⟩

/-- **Where the references in the result of a step come from.**  They are of the session that the
step works for, or were there before in a validator that the step was given; and when the step binds
its session, none is of no session. -/
theorem holds_of_perform {r : Handle} (houtcome : (op.perform host s).outcome = .ok (some r))
    {own : Option Nat} (hown : r.validator.Holds host.slot own) :
    (own = op.session s ∨ ∃ v, op.Brings host.slot v ∧ v.Holds host.slot own) ∧
      (op.Binds → own.isSome) := by
  cases op with
  | begin => cases houtcome
  | reference n =>
    cases houtcome
    rw [Validator.holds_selfRef] at hown
    exact ⟨.inl hown.symm, fun h => h.elim⟩
  | bind n root =>
    rw [perform, outcome_map_eq] at houtcome
    rcases Action.bindRoot_cases host n root s with
      ⟨e, h⟩ | ⟨_, bound, -, hrebind, hok, hvalidator, -⟩
    · rw [h] at houtcome
      cases houtcome
    · rw [hok] at houtcome
      cases houtcome
      rw [hvalidator] at hown
      obtain ⟨own', hown', rfl⟩ := (Validator.holds_rebindTo hrebind own).mp hown
      refine ⟨?_, fun _ => rfl⟩
      cases own' with
      | none => exact .inl rfl
      | some m => exact .inr ⟨root.validator, rfl, hown'⟩
  | compile p =>
    rw [perform, outcome_map_eq] at houtcome
    obtain ⟨v, own', hmade, hown', rfl⟩ :=
      holds_of_ended (Schema.ended_compile host s p) houtcome hown
    refine ⟨?_, fun _ => rfl⟩
    rcases Pattern.holds_compile hmade hown' with rfl | ⟨w, hembeds, hw⟩
    · exact .inl rfl
    · cases own' with
      | none => exact .inl rfl
      | some m => exact .inr ⟨w, hembeds, hw⟩
  | fragment p =>
    rw [perform, outcome_map_eq] at houtcome
    have hmade := (Schema.fragment_eq host s p).1
    rw [houtcome] at hmade
    exact ⟨Pattern.holds_compile hmade.symm hown, fun h => h.elim⟩
  | decode document =>
    rw [perform, outcome_map_eq] at houtcome
    cases hdocument : Descriptor.ofDocument document with
    | error e =>
      rw [Schema.decode_of_refused hdocument] at houtcome
      cases houtcome
    | ok descriptor =>
      obtain ⟨v, own', hmade, hown', rfl⟩ :=
        holds_of_ended (Schema.ended_decode host s hdocument) houtcome hown
      have hown := (Descriptor.selfContained_decode hmade).eq_of_holds hown'
      subst hown
      exact ⟨.inl rfl, fun _ => rfl⟩

/-! ## Runs -/

/-- A run of some steps and further steps is a run of all of them. -/
theorem run_append (host : Host) (ops ops' : List Operation) (s : Store) :
    run host (ops ++ ops') s = run host ops' (run host ops s) := by
  induction ops generalizing s with
  | nil => rfl
  | cons op ops ih => exact ih _

/-- **A run keeps every root.** -/
theorem extends_run (host : Host) (ops : List Operation) (s : Store) :
    s.Extends (run host ops s) := by
  induction ops generalizing s with
  | nil => exact .refl s
  | cons op ops ih => exact (extends_perform host s op).trans (ih _)

/-- The store that the `k`-th step of a run starts from. -/
def storeAt (host : Host) (ops : List Operation) (s : Store) (k : Nat) : Store :=
  run host (ops.take k) s

/-- The validator that the `k`-th step of a run gives, if it gives one. -/
def resultAt (host : Host) (ops : List Operation) (s : Store) (k : Nat) : Option Handle :=
  match ops[k]? with
  | none => none
  | some op =>
    match (op.perform host (storeAt host ops s k)).outcome with
    | .ok result => result
    | .error _ => none

variable {ops : List Operation} {k : Nat}

theorem resultAt_eq_some_iff (hop : ops[k]? = some op) {r : Handle} :
    resultAt host ops s k = some r ↔
      (op.perform host (storeAt host ops s k)).outcome = .ok (some r) := by
  simp only [resultAt, hop]
  cases (op.perform host (storeAt host ops s k)).outcome with
  | error e => exact iff_of_false (fun h => nomatch h) (fun h => nomatch h)
  | ok result => exact ⟨congrArg Except.ok, Except.ok.inj⟩

theorem storeAt_succ (hop : ops[k]? = some op) :
    storeAt host ops s (k + 1) = (op.perform host (storeAt host ops s k)).store := by
  rw [storeAt, List.take_add_one, hop, run_append]
  rfl

/-- What comes after a step keeps the roots that the step leaves. -/
theorem extends_of_storeAt (host : Host) (ops : List Operation) (s : Store) (k : Nat) :
    (storeAt host ops s k).Extends (run host ops s) := by
  have hrun : run host ops s = run host (ops.drop k) (storeAt host ops s k) := by
    rw [storeAt, ← run_append, List.take_append_drop]
  rw [hrun]
  exact extends_run host _ _

/-- **A root after a run** was there before it, or is the result of the step of the run that bound
its session. -/
theorem root_of_root_run {n : Nat} {r : Handle} (hroot : (run host ops s).root n = some r) :
    s.root n = some r ∨ ∃ k op, ops[k]? = some op ∧ op.Binds ∧
      op.session (storeAt host ops s k) = some n ∧ resultAt host ops s k = some r := by
  induction ops generalizing s with
  | nil => exact .inl hroot
  | cons op ops ih =>
    rcases ih hroot with h | ⟨k, op', hop, hstep⟩
    · rcases root_of_root_perform h with h | ⟨hbinds, hsession, houtcome⟩
      · exact .inl h
      · exact .inr ⟨0, op, rfl, hbinds, hsession, (resultAt_eq_some_iff rfl).mpr houtcome⟩
    · exact .inr ⟨k + 1, op', hop, hstep⟩

/-- **The root of a session is the result of the step that bound it**, for the rest of the run. -/
theorem root_run_of_resultAt {n : Nat} {r : Handle} (hop : ops[k]? = some op) (hbinds : op.Binds)
    (hsession : op.session (storeAt host ops s k) = some n)
    (hbegun : n < (storeAt host ops s (k + 1)).sessions.length)
    (hresult : resultAt host ops s k = some r) : (run host ops s).root n = some r := by
  rw [resultAt_eq_some_iff hop] at hresult
  rw [storeAt_succ hop] at hbegun
  have hroot := root_perform_of_binds hbinds hsession hbegun hresult
  rw [← storeAt_succ hop] at hroot
  exact extends_of_storeAt host ops s (k + 1) hroot

/-- **Where the references in the results of a run come from.**  A reference of a session was made by
a step of the run that worked for this session, or it was brought into the run in a validator that no
earlier step of the run had given. -/
theorem origin_of_holds {n : Nat} {r : Handle} (hresult : resultAt host ops s k = some r)
    (hown : r.validator.Holds host.slot (some n)) :
    ∃ j ≤ k, ∃ op, ops[j]? = some op ∧ (op.session (storeAt host ops s j) = some n ∨
      ∃ v, op.Brings host.slot v ∧ v.Holds host.slot (some n) ∧
        ∀ i < j, ∀ r', resultAt host ops s i = some r' → r'.validator ≠ v) := by
  induction k using Nat.strongRecOn generalizing r with
  | ind k ih =>
    cases hop : ops[k]? with
    | none =>
      rw [resultAt, hop] at hresult
      cases hresult
    | some op =>
      rcases (holds_of_perform ((resultAt_eq_some_iff hop).mp hresult) hown).1 with
        hsession | ⟨v, hbrings, hv⟩
      · exact ⟨k, Nat.le_refl k, op, hop, .inl hsession.symm⟩
      · -- what was given by an earlier step has its references from there
        by_cases hearlier : ∃ i < k, ∃ r', resultAt host ops s i = some r' ∧ r'.validator = v
        · obtain ⟨i, hi, r', hr', rfl⟩ := hearlier
          obtain ⟨j, hj, horigin⟩ := ih i hi hr' hv
          exact ⟨j, by omega, horigin⟩
        · refine ⟨k, Nat.le_refl k, op, hop, .inr ⟨v, hbrings, hv, ?_⟩⟩
          intro i hi r' hr' heq
          exact hearlier ⟨i, hi, r', hr', heq⟩

end Operation

/-! ## Settled validators -/

/-- **A validator is settled** when all references that a check of it comes to are of bound sessions,
or of none.  The way of the check leads through roots, delegates and copies. -/
def Env.Settled (env : Env) (v : Validator) : Prop :=
  ∀ n, env.Reaches v (.selfRef (some n)) → (env.root n).isSome

/-- Surroundings with further roots agree on what is settled. -/
theorem Store.Extends.agreeOn {s s' : Store} (h : s.Extends s') {host : Host} {v : Validator}
    (hsettled : (s.env host).Settled v) : (s.env host).AgreeOn (s'.env host) v := by
  refine ⟨rfl, rfl, fun n hreach => ?_⟩
  obtain ⟨r, hr⟩ := Option.isSome_iff_exists.mp (hsettled n hreach)
  obtain ⟨handle, hhandle, -⟩ := Option.map_eq_some_iff.mp hr
  have hroot : (s'.env host).root n = (s.env host).root n := by
    change (s'.root n).map _ = (s.root n).map _
    rw [hhandle, h hhandle]
  rw [hroot]

/-- A reference to a bound session is checked as the root of that session. -/
theorem Store.check_selfRef {s : Store} {n : Nat} {r : Handle} (hroot : s.root n = some r)
    (host : Host) (depth : Nat) :
    (s.env host).check (depth + 1) (.selfRef (some n)) = (s.env host).check depth r.validator := by
  have hroot' : (s.env host).root n = some r.validator := by
    change (s.root n).map _ = _
    rw [hroot, Option.map_some]
  funext x path
  rw [Env.check, Validator.check, Option.bind_some, hroot']

/-- A reference to a bound session is explained as the root of that session. -/
theorem Store.explain_selfRef {s : Store} {n : Nat} {r : Handle} (hroot : s.root n = some r)
    (host : Host) (depth : Nat) :
    (s.env host).explain (depth + 1) (.selfRef (some n)) =
      (s.env host).explain depth r.validator := by
  have hroot' : (s.env host).root n = some r.validator := by
    change (s.root n).map _ = _
    rw [hroot, Option.map_some]
  funext x path
  rw [Env.explain, Validator.explain, Option.bind_some, hroot']

/-! ## The invariant of runs -/

/-- **Sessions over a whole run**, whatever its steps are and whether they succeed or fail.

A root that is set never changes, and binding its session once more is refused and changes nothing.
References are those of the sessions that made them: the result of a step holds references of the
session the step works for and those that were there before; the root of a session is the result of
the step that bound it, to the end of the run, and comes from nowhere else; and a reference is
checked and explained as the root of its session.  What is settled before the run gives after it the
same verdict and the same report on every value, and the same descriptor. -/
theorem Operation.sessions_of_run (host : Host) (ops : List Operation) (s : Store) :
    (∀ n r, s.root n = some r → (run host ops s).root n = some r) ∧
    (∀ n root, ((run host ops s).root n).isSome →
      (bind n root).perform host (run host ops s) =
        ⟨run host ops s, [], .error (.compile .alreadyBound)⟩) ∧
    (∀ k r n, resultAt host ops s k = some r → r.validator.Holds host.slot (some n) →
      ∃ j ≤ k, ∃ op, ops[j]? = some op ∧ (op.session (storeAt host ops s j) = some n ∨
        ∃ v, op.Brings host.slot v ∧ v.Holds host.slot (some n) ∧
          ∀ i < j, ∀ r', resultAt host ops s i = some r' → r'.validator ≠ v)) ∧
    (∀ k op n r, ops[k]? = some op → op.Binds → op.session (storeAt host ops s k) = some n →
      n < (storeAt host ops s (k + 1)).sessions.length → resultAt host ops s k = some r →
      (run host ops s).root n = some r ∧ ¬ r.validator.Holds host.slot none) ∧
    (∀ n r, (run host ops s).root n = some r → s.root n = some r ∨
      ∃ k op, ops[k]? = some op ∧ op.Binds ∧ op.session (storeAt host ops s k) = some n ∧
        resultAt host ops s k = some r) ∧
    (∀ n r, (run host ops s).root n = some r → ∀ depth,
      ((run host ops s).env host).check (depth + 1) (.selfRef (some n)) =
        ((run host ops s).env host).check depth r.validator ∧
      ((run host ops s).env host).explain (depth + 1) (.selfRef (some n)) =
        ((run host ops s).env host).explain depth r.validator) ∧
    (∀ v, (s.env host).Settled v →
      (∀ x, ((run host ops s).env host).validate v x = (s.env host).validate v x ∧
        ((run host ops s).env host).report v x = (s.env host).report v x) ∧
      ((run host ops s).env host).describe v = (s.env host).describe v) := by
  refine ⟨fun n r h => extends_run host ops s h, fun n root hbound => ?_,
    fun k r n => origin_of_holds, fun k op n r hop hbinds hsession hbegun hresult => ⟨?_, ?_⟩,
    fun n r => root_of_root_run,
    fun n r hroot depth => ⟨Store.check_selfRef hroot host depth, Store.explain_selfRef hroot host depth⟩,
    fun v hsettled => ?_⟩
  · rw [perform, map_eq, Action.bindRoot_of_bound hbound]
    rfl
  · exact root_run_of_resultAt hop hbinds hsession hbegun hresult
  · intro hnone
    have hsome := (holds_of_perform ((resultAt_eq_some_iff hop).mp hresult) hnone).2 hbinds
    cases hsome
  · have hagree := (extends_run host ops s).agreeOn hsettled
    exact ⟨fun x => ⟨hagree.validate_eq x, hagree.report_eq x⟩, hagree.describe_eq⟩

end Conformance
