import Conformance.Session.Schema
import Conformance.Proofs.Pattern.Adoption
import Conformance.Proofs.Session.Store

/-!
# What compiling and decoding do to the store

Compiling a pattern and reading a descriptor both begin a session, make a validator for it, and bind
the session to what rebinding makes of that validator.

## Main Definitions

* `Schema.Ended` — the three ways in which an operation with a session of its own can end

## Main statements

* `Schema.ended_compile`, `Schema.ended_decode` — compiling and decoding end in one of them
* `Schema.exists_rebound_of_compile` — the root of a pattern is the fragment of the pattern, rebound
* `Schema.fragment_eq` — compiling a fragment leaves all sessions as they are
-/

namespace Conformance

/-- What compiles is of one of the forms. -/
theorem Pattern.exists_kind_of_compile {slot : Nat → Slot} {session : Option Nat} {inOr : Bool}
    {p : Pattern} {v : Validator} (h : p.compile slot session inOr = .ok v) :
    ∃ kind, p.kind slot inOr = .ok kind := by
  cases p with
  | value x =>
    rw [compile, Except.mapError_eq_ok_iff] at h
    cases hkind : kindOfValue slot inOr x with
    | some kind => exact ⟨kind, by rw [Pattern.kind, hkind]⟩
    | none =>
      -- of a class the form is always known, and anything else of no form is refused
      unfold compileValue at h
      rw [hkind] at h
      cases x with
      | cls c =>
        cases c with
        | builtin => cases hkind
        | host c => cases hslot : slot c.id <;> simp [kindOfValue, hslot] at hkind
      | bool b => cases hkind
      | number n => cases hkind
      | text t => cases hkind
      | regex r => cases hkind
      | _ => cases h
  | seq form tag items => exact ⟨_, rfl⟩
  | mapping form tag entries => exact ⟨_, rfl⟩
  | validator handle => exact ⟨_, rfl⟩

namespace Action

/-- What changes the session behind the others. -/
theorem modify_append_length (sessions : List Session) (cell : Session) (f : Session → Session) :
    (sessions ++ [cell]).modify sessions.length f = sessions ++ [f cell] := by
  induction sessions with
  | nil => rfl
  | cons first sessions ih => rw [List.cons_append, List.length_cons, List.modify_succ_cons, ih,
      List.cons_append]

end Action

namespace Schema

/-- **How an operation with a session of its own can end**, when it binds that session to what
rebinding makes of a validator: the validator is refused, rebinding it ends with a fault, or the
session is bound and its root is the result. -/
inductive Ended (host : Host) (s : Store) (made : Except Refusal Validator) (step : Step Handle) :
    Prop where
  | refused {e : Refusal} : made = .error e → step.outcome = .error e →
    step.store.sessions = s.sessions ++ [.empty] → Ended host s made step
  | fault {v : Validator} {label : Label} {f : Fault} : made = .ok v →
    Validator.rebindTo host.slot s.sessions.length depthLimit (some label) v = .error f →
    step.outcome = .error (.fault f) → step.store.sessions = s.sessions ++ [.empty] →
    Ended host s made step
  | bound {v : Validator} {label : Label} {r : Rebound Validator} {h : Handle} : made = .ok v →
    Validator.rebindTo host.slot s.sessions.length depthLimit (some label) v = .ok r →
    step.outcome = .ok h → h.validator = r.result v →
    step.store.sessions = s.sessions ++ [⟨some h, r.adopted⟩] → Ended host s made step

variable {host : Host} {s : Store}

/-- Binding a session that was just begun ends in one of these ways. -/
theorem ended_bindRoot {s' : Store} {root : Handle} {made : Except Refusal Validator}
    (hmade : made = .ok root.validator) (hbegun : s'.sessions = s.sessions ++ [.empty]) :
    Ended host s made (Action.bindRoot host s.sessions.length root s') := by
  have hroot : s'.root s.sessions.length = none := by
    rw [Store.root_append hbegun, if_pos rfl]
    rfl
  cases hrebind : Validator.rebindTo host.slot s.sessions.length depthLimit (some root.label)
      root.validator with
  | error f =>
    rw [Action.bindRoot_of_fault hroot hrebind]
    exact .fault hmade hrebind rfl hbegun
  | ok r =>
    obtain ⟨bound, houtcome, hvalidator, hsessions⟩ := Action.bindRoot_of_rebound hroot hrebind
    refine .bound hmade hrebind houtcome hvalidator ?_
    rw [hsessions, hbegun, Action.modify_append_length]
    simp [Session.empty]

/-- The roots after an operation with a session of its own, and the number of sessions. -/
theorem Ended.root_eq {made : Except Refusal Validator} {step : Step Handle}
    (h : Ended host s made step) :
    step.store.sessions.length = s.sessions.length + 1 ∧
    ∀ n, step.store.root n =
      if n = s.sessions.length then step.outcome.toOption else s.root n := by
  cases h with
  | refused _ houtcome hsessions | fault _ _ houtcome hsessions =>
    refine ⟨by rw [hsessions, List.length_append]; rfl, fun n => ?_⟩
    rw [Store.root_append hsessions, houtcome]
    rfl
  | bound _ _ houtcome _ hsessions =>
    refine ⟨by rw [hsessions, List.length_append]; rfl, fun n => ?_⟩
    rw [Store.root_append hsessions, houtcome]
    rfl

/-- The root that an operation ends with is the one of its session. -/
theorem Ended.root_of_outcome {made : Except Refusal Validator} {step : Step Handle}
    (h : Ended host s made step) {root : Handle} (houtcome : step.outcome = .ok root) :
    step.store.root s.sessions.length = some root := by
  rw [h.root_eq.2, if_pos rfl, houtcome]
  rfl

/-- An operation that ends with a root has rebound what was made. -/
theorem Ended.exists_rebound {made : Except Refusal Validator} {step : Step Handle}
    (h : Ended host s made step) {bound : Handle} (houtcome : step.outcome = .ok bound) :
    ∃ v label r, made = .ok v ∧
      Validator.rebindTo host.slot s.sessions.length depthLimit (some label) v = .ok r ∧
      bound.validator = r.result v := by
  cases h with
  | refused _ herror _ | fault _ _ herror _ =>
    rw [herror] at houtcome
    cases houtcome
  | @bound v label r _ hmade hrebind hok hvalidator _ =>
    rw [hok] at houtcome
    cases houtcome
    exact ⟨v, label, r, hmade, hrebind, hvalidator⟩

/-- What was logged before is nothing to how an operation ends. -/
theorem Ended.logged {made : Except Refusal Validator} {step : Step Handle}
    (h : Ended host s made step) (events : List Event) :
    Ended host s made ⟨step.store, events, step.outcome⟩ := by
  cases h with
  | refused hmade houtcome hsessions => exact .refused hmade houtcome hsessions
  | fault hmade hrebind houtcome hsessions => exact .fault hmade hrebind houtcome hsessions
  | bound hmade hrebind houtcome hvalidator hsessions =>
    exact .bound hmade hrebind houtcome hvalidator hsessions

/-- What follows the binding and only logs is nothing to how an operation ends. -/
theorem Ended.bind {made : Except Refusal Validator} {x : Action Handle} {s' : Store}
    (h : Ended host s made (x s')) {f : Handle → Action Handle}
    (hf : ∀ bound s'', (f bound s'').outcome = .ok bound ∧ (f bound s'').store = s'') :
    Ended host s made ((x >>= f) s') := by
  cases h with
  | refused hmade houtcome hsessions =>
    rw [Action.bind_of_error houtcome]
    exact .refused hmade rfl hsessions
  | fault hmade hrebind houtcome hsessions =>
    rw [Action.bind_of_error houtcome]
    exact .fault hmade hrebind rfl hsessions
  | @bound v label r bound hmade hrebind houtcome hvalidator hsessions =>
    obtain ⟨hok, hstore⟩ := hf bound (x s').store
    rw [Action.bind_of_ok houtcome]
    refine .bound hmade hrebind hok hvalidator ?_
    rw [hstore, hsessions]

/-- What follows a validator that was made: it is held, and the session is bound to it. -/
theorem ended_hold {s' : Store} {v : Validator} (hbegun : s'.sessions = s.sessions ++ [.empty])
    {f : Handle → Action Handle}
    (hf : ∀ root s'', root.validator = v → s''.sessions = s.sessions ++ [.empty] →
      Ended host s (.ok v) (f root s'')) :
    Ended host s (.ok v) ((Action.hold v >>= f) s') := by
  rw [Action.bind_of_ok (a := ⟨⟨s'.next, []⟩, v⟩) rfl]
  refine .logged (hf ⟨⟨s'.next, []⟩, v⟩ (Action.hold v s').store rfl ?_) _
  exact hbegun

/-- **Compiling** begins a session and binds it to what rebinding makes of the validator of the
pattern. -/
theorem ended_compile (host : Host) (s : Store) (p : Pattern) :
    Ended host s (p.compile host.slot (some s.sessions.length) false) (compile host p s) := by
  have hbegun : (Action.begin s).store.sessions = s.sessions ++ [.empty] := rfl
  rw [compile, Action.bind_of_ok (a := s.sessions.length) rfl]
  cases hmade : p.compile host.slot (some s.sessions.length) false with
  | error e =>
    rw [Action.bind_of_error (e := e) rfl]
    exact .refused rfl rfl hbegun
  | ok v =>
    obtain ⟨kind, hkind⟩ := Pattern.exists_kind_of_compile hmade
    rw [Action.bind_of_ok (a := v) rfl, hkind]
    refine .logged (.logged ?_ _) _
    -- the rest is the same for a pattern that is a validator and for one that is not
    have hrest : ∀ root s', root.validator = v → s'.sessions = s.sessions ++ [.empty] →
        Ended host s (.ok v) ((do
          let bound ← Action.bindRoot host s.sessions.length root
          let kind ← Action.ofExcept (Except.mapError Refusal.compile (.ok kind))
          Action.log (.patternCompiled kind.name bound.validator.typeName)
          return bound : Action Handle) s') := by
      intro root s' hroot hbegun
      exact (ended_bindRoot (by rw [hroot]) hbegun).bind fun _ _ => ⟨rfl, rfl⟩
    cases p with
    | validator h =>
      cases hmade
      exact hrest h _ rfl hbegun
    | value x => exact ended_hold hbegun hrest
    | seq form tag items => exact ended_hold hbegun hrest
    | mapping form tag entries => exact ended_hold hbegun hrest

/-- **The root of a pattern is what rebinding makes of its fragment**, up to identities. -/
theorem exists_rebound_of_compile {p : Pattern} {v : Handle}
    (h : (compile host p s).outcome = .ok v) :
    ∃ u label r, p.compile host.slot none false = .ok u ∧
      Validator.rebindTo host.slot s.sessions.length depthLimit (some label) u = .ok r ∧
      v.validator.adopt none = (r.result u).adopt none := by
  obtain ⟨w, label, r, hmade, hrebind, hvalidator⟩ := (ended_compile host s p).exists_rebound h
  -- rebinding takes over what the session would have made its own anyway
  have halike := Pattern.compileAlike_session host.slot s.sessions.length false p
  rw [Pattern.CompileAlike, hmade] at halike
  obtain ⟨u, hu, htaken⟩ := Except.map_eq_ok_iff.mp halike.symm
  have hmap : _ <$> Validator.rebindTo host.slot s.sessions.length depthLimit (some label) u =
      _ <$> Validator.rebindTo host.slot s.sessions.length depthLimit (some label) w :=
    Validator.rebindTo_map_eq_of_adopt_eq htaken depthLimit (some label) (some label)
  rw [hrebind] at hmap
  obtain ⟨r', hrebind', hresult⟩ := Except.map_eq_ok_iff.mp hmap
  refine ⟨u, label, r', hu, hrebind', ?_⟩
  rw [hvalidator]
  exact hresult.symm

/-- A document that is no descriptor is refused before a session is begun. -/
theorem decode_of_refused {document : Value} {e : Refusal}
    (h : Descriptor.ofDocument document = .error e) :
    decode host document s = ⟨s, [], .error e⟩ := by
  rw [decode, h]
  exact Action.bind_of_error rfl

/-- **Decoding** begins a session and binds it to what rebinding makes of the validator that was read
from the descriptor. -/
theorem ended_decode (host : Host) (s : Store) {document descriptor : Value}
    (h : Descriptor.ofDocument document = .ok descriptor) :
    Ended host s (Descriptor.decode s.sessions.length descriptor) (decode host document s) := by
  have hbegun : (Action.begin s).store.sessions = s.sessions ++ [.empty] := rfl
  rw [decode, h, Action.bind_of_ok (a := descriptor) rfl,
    Action.bind_of_ok (a := s.sessions.length) rfl]
  refine .logged (.logged ?_ _) _
  cases hmade : Descriptor.decode s.sessions.length descriptor with
  | error e =>
    cases e with
    | decode e => exact .refused rfl rfl hbegun
    | _ => exact .refused rfl rfl hbegun
  | ok v =>
    refine ended_hold hbegun fun root s' hroot hbegun' => ?_
    exact (ended_bindRoot (by rw [hroot]) hbegun').bind fun _ _ => ⟨rfl, rfl⟩

/-- **Compiling a fragment** gives the validator of the pattern and leaves all sessions as they
are. -/
theorem fragment_eq (host : Host) (s : Store) (p : Pattern) :
    (fragment host p s).outcome.map Handle.validator = p.compile host.slot none false ∧
      (fragment host p s).store.sessions = s.sessions := by
  cases hmade : p.compile host.slot none false with
  | error e =>
    rw [fragment, hmade, Action.bind_of_error (e := e) rfl]
    exact ⟨rfl, rfl⟩
  | ok v =>
    rw [fragment, hmade, Action.bind_of_ok (a := v) rfl]
    cases p with
    | validator h =>
      cases hmade
      exact ⟨rfl, rfl⟩
    | _ => exact ⟨rfl, rfl⟩

end Schema

end Conformance
