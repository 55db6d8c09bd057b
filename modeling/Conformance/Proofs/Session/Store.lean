import Conformance.Proofs.Except
import Conformance.Proofs.Validator.References

/-!
# What binding a session does

## Main Definitions

* `Store.Extends` — a store in which every session that was bound has kept its root

## Main statements

* `Action.bindRoot_of_bound`, `Action.bindRoot_of_fault`, `Action.bindRoot_of_rebound` — the three
  ways in which binding can end
* `Store.root_modify` — binding one session is nothing to the others
-/

namespace Conformance

/-! ## Roots -/

namespace Store

/-- Roots depend on the sessions alone. -/
theorem root_eq_of_sessions_eq {s s' : Store} (h : s'.sessions = s.sessions) : s'.root = s.root := by
  funext n
  rw [root, root, h]

/-- A session that was not begun is not bound. -/
theorem root_of_length_le {s : Store} {n : Nat} (h : s.sessions.length ≤ n) : s.root n = none := by
  rw [root, List.getElem?_eq_none h, Option.bind_none]

/-- The root of a session behind the others, and the roots of the others. -/
theorem root_append {s s' : Store} {cell : Session} (h : s'.sessions = s.sessions ++ [cell])
    (n : Nat) : s'.root n = if n = s.sessions.length then cell.root else s.root n := by
  rw [root, root, h]
  split
  · next heq => rw [heq, List.getElem?_concat_length, Option.bind_some]
  · next hne =>
    rcases Nat.lt_or_ge n s.sessions.length with hlt | hge
    · rw [List.getElem?_append_left hlt]
    · have hlt : s.sessions.length < n := by omega
      rw [List.getElem?_eq_none hge, List.getElem?_eq_none (by rw [List.length_append]; exact hlt)]

/-- Changing one session is nothing to the roots of the others. -/
theorem root_modify {s s' : Store} {n : Nat} {f : Session → Session}
    (h : s'.sessions = s.sessions.modify n f) (m : Nat) :
    s'.root m = if n = m then s.sessions[m]?.bind fun cell => (f cell).root else s.root m := by
  rw [root, root, h, List.getElem?_modify]
  split
  · cases s.sessions[m]? <;> rfl
  · cases s.sessions[m]? <;> rfl

/-- **A store extends another one** when every session that was bound has kept its root. -/
def Extends (s s' : Store) : Prop := ∀ ⦃n r⦄, s.root n = some r → s'.root n = some r

theorem Extends.refl (s : Store) : s.Extends s := fun _ _ h => h

theorem Extends.trans {s s' s'' : Store} (h : s.Extends s') (h' : s'.Extends s'') : s.Extends s'' :=
  fun _ _ hroot => h' (h hroot)

end Store

/-! ## Steps after one another -/

namespace Action

variable {α β : Type} {x : Action α} {f : α → Action β} {s : Store}

/-- After a success the next operation starts from the store that it left. -/
theorem bind_of_ok {a : α} (h : (x s).outcome = .ok a) :
    (x >>= f) s = ⟨(f a (x s).store).store, (x s).events ++ (f a (x s).store).events,
      (f a (x s).store).outcome⟩ := by
  change Action.bind x f s = _
  rw [Action.bind, h]

/-- The result is that of the next operation. -/
theorem outcome_bind_of_ok {a : α} (h : (x s).outcome = .ok a) :
    ((x >>= f) s).outcome = (f a (x s).store).outcome := by
  rw [bind_of_ok h]

/-- A failure ends what follows it. -/
theorem bind_of_error {e : Refusal} (h : (x s).outcome = .error e) :
    (x >>= f) s = ⟨(x s).store, (x s).events, .error e⟩ := by
  change Action.bind x f s = _
  rw [Action.bind, h]

/-! ## Binding -/

variable {host : Host} {n : Nat} {root : Handle}

/-- **A session that is bound is not bound again**, and nothing changes. -/
theorem bindRoot_of_bound (h : (s.root n).isSome) :
    bindRoot host n root s = ⟨s, [], .error (.compile .alreadyBound)⟩ := by
  rw [bindRoot, bind_of_ok (a := s) rfl]
  change Step.mk _ ([] ++ _) _ = _
  rw [List.nil_append]
  simp only [store, if_pos h, refuse, ofExcept]

/-- Where rebinding ends with a fault, nothing changes. -/
theorem bindRoot_of_fault {e : Fault} (h : s.root n = none)
    (hrebind : Validator.rebindTo host.slot n depthLimit (some root.label) root.validator =
      .error e) : bindRoot host n root s = ⟨s, [], .error (.fault e)⟩ := by
  rw [bindRoot, bind_of_ok (a := s) rfl]
  simp only [store, h, Option.isSome_none, Bool.false_eq_true, if_false, hrebind, Except.mapError]
  rfl

/-- A root that is set is the result, and the session has it. -/
theorem setRoot_eq (n : Nat) (root : Handle) (adopted : Nat) (s : Store) :
    (setRoot n root adopted s).outcome = .ok root ∧
    (setRoot n root adopted s).store =
      { s with sessions := s.sessions.modify n fun cell => ⟨some root, cell.adopted + adopted⟩ } := by
  rw [setRoot, bind_of_ok (a := ()) rfl, bind_of_ok (x := store) rfl]
  simp only [changeSession, change, store]
  have hlogged : ∀ (count : Nat) (s : Store),
      ((if count ≠ 0 then (do log (.referencesAdopted count root.validator.name); Pure.pure root)
        else Pure.pure root : Action Handle) s).outcome = .ok root ∧
      ((if count ≠ 0 then (do log (.referencesAdopted count root.validator.name); Pure.pure root)
        else Pure.pure root : Action Handle) s).store = s := by
    intro count s
    by_cases hcount : count ≠ 0
    · rw [if_pos hcount]
      exact ⟨rfl, rfl⟩
    · rw [if_neg hcount]
      exact ⟨rfl, rfl⟩
  exact hlogged _ _

/-- **Binding** makes the rebound root the root of the session, and of no other one. -/
theorem bindRoot_of_rebound {r : Rebound Validator} (h : s.root n = none)
    (hrebind : Validator.rebindTo host.slot n depthLimit (some root.label) root.validator = .ok r) :
    ∃ bound : Handle, (bindRoot host n root s).outcome = .ok bound ∧
      bound.validator = r.result root.validator ∧
      (bindRoot host n root s).store.sessions =
        s.sessions.modify n fun cell => ⟨some bound, cell.adopted + r.adopted⟩ := by
  rw [bindRoot, bind_of_ok (a := s) rfl]
  simp only [store, h, Option.isSome_none, Bool.false_eq_true, if_false, hrebind, Except.mapError]
  rw [bind_of_ok (a := r) rfl]
  simp only [ofExcept]
  cases hcopy : r.copy with
  | none =>
    obtain ⟨houtcome, hstore⟩ := setRoot_eq n root r.adopted s
    refine ⟨root, houtcome, ?_, ?_⟩
    · rw [Rebound.result, hcopy, Option.getD_none]
    · rw [hstore]
  | some copy =>
    dsimp only
    obtain ⟨houtcome, hstore⟩ := setRoot_eq n ⟨⟨s.next, []⟩, copy⟩ r.adopted { s with next := s.next + 1 }
    rw [bind_of_ok (a := ⟨⟨s.next, []⟩, copy⟩) rfl]
    refine ⟨⟨⟨s.next, []⟩, copy⟩, houtcome, ?_, ?_⟩
    · rw [Rebound.result, hcopy, Option.getD_some]
    · exact congrArg Store.sessions hstore

/-- Where rebinding makes no copy, the root itself is the result. -/
theorem bindRoot_of_unchanged {r : Rebound Validator} (h : s.root n = none)
    (hrebind : Validator.rebindTo host.slot n depthLimit (some root.label) root.validator = .ok r)
    (hcopy : r.copy = none) : (bindRoot host n root s).outcome = .ok root := by
  rw [bindRoot, bind_of_ok (a := s) rfl]
  simp only [store, h, Option.isSome_none, Bool.false_eq_true, if_false, hrebind, Except.mapError]
  rw [bind_of_ok (a := r) rfl]
  simp only [ofExcept, hcopy]
  exact (setRoot_eq n root r.adopted s).1

/-- Binding changes nothing when it fails, and one session when it succeeds. -/
theorem bindRoot_cases (host : Host) (n : Nat) (root : Handle) (s : Store) :
    (∃ e, bindRoot host n root s = ⟨s, [], .error e⟩) ∨
    ∃ r bound, s.root n = none ∧
      Validator.rebindTo host.slot n depthLimit (some root.label) root.validator = .ok r ∧
      (bindRoot host n root s).outcome = .ok bound ∧
      bound.validator = r.result root.validator ∧
      (bindRoot host n root s).store.sessions =
        s.sessions.modify n fun cell => ⟨some bound, cell.adopted + r.adopted⟩ := by
  cases hroot : s.root n with
  | some old => exact .inl ⟨_, bindRoot_of_bound (by rw [hroot, Option.isSome_some])⟩
  | none =>
    cases hrebind : Validator.rebindTo host.slot n depthLimit (some root.label) root.validator with
    | error e => exact .inl ⟨_, bindRoot_of_fault hroot hrebind⟩
    | ok r =>
      obtain ⟨bound, hbound⟩ := bindRoot_of_rebound hroot hrebind
      exact .inr ⟨r, bound, rfl, rfl, hbound⟩

end Action

end Conformance
