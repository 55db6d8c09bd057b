import Conformance.Proofs.Session.Runs
import Conformance.Proofs.Validator.Guarded

/-!
# Recursive schemas come to an end

A pattern may speak of itself, and its schema leads back to itself through its session.  Checks come to an
end all the same if the references are guarded: on the way from a root back to it a check goes into the
value, through a key or to an element.

## Main Definitions

* `Pattern.Bares` — a pattern in which a reference to the whole stands neither under a key nor in an array

## Main statements

* `Pattern.bares_of_compile` — the references that stand bare in a validator stand bare in its pattern
* `Operation.exists_rebound_of_binds` — a step that binds a session has rebound what is bound
* `Operation.acc_stays_run` — a check cannot stay at a value for ever if the references are guarded
* `Operation.le_of_holds_root` — roots refer to sessions that were begun before them
* `Operation.terminates_compile` — checks of a schema with guarded references come to an end
-/

namespace Conformance

namespace Pattern

variable {slot : Nat → Slot} {inOr : Bool}

/-- **A reference to the whole stands bare in a pattern**: the marker, the ellipsis among alternatives, or
a reference of no session in a fragment or in the `schema` of an object; and neither under a key nor in an
array. -/
inductive Bares (slot : Nat → Slot) : Bool → Pattern → Prop where
  | marker {inOr : Bool} : Bares slot inOr (value .selfMarker)
  | ellipsis : Bares slot true (value .ellipsis)
  | fragment {inOr : Bool} {h : Handle} : h.validator.Bares slot none → Bares slot inOr (validator h)
  | target {inOr : Bool} {x : Value} {t : Target} {h : Handle} : target? x = some t →
    slot t.id = .validator h → h.validator.Bares slot none → Bares slot inOr (value x)
  | item {inOr : Bool} {form : SeqForm} {tag : Nat} {items : List Pattern} {p : Pattern} :
    ¬ (inOr = true ∧ items.length = 1) → p ∈ items → Bares slot true p →
    Bares slot inOr (seq form tag items)

/-- Only the marker, and the ellipsis among alternatives, are compiled to a reference. -/
theorem bares_of_compileValue {x : Value} (h : compileValue slot none inOr x = .ok (.selfRef none)) :
    Bares slot inOr (value x) := by
  cases x with
  | selfMarker => exact .marker
  | ellipsis =>
    cases inOr with
    | true => exact .ellipsis
    | false => cases h
  | cls c =>
    cases c with
    | builtin => cases h
    | host c => cases hslot : slot c.id <;> simp [compileValue, kindOfValue, hslot, target?] at h
  | host o =>
    cases hcallable : o.callable <;> cases hslot : slot o.id <;>
      simp [compileValue, kindOfValue, hslot, hcallable, target?] at h
  | _ => cases h

/-- **The references that stand bare in a validator stand bare in its pattern.** -/
theorem bares_of_compile {p : Pattern} {v : Validator} (h : p.compile slot none inOr = .ok v)
    (hbare : v.Bares slot none) : p.Bares slot inOr := by
  induction p using treeInduction generalizing v inOr with
  | value x =>
    rw [compile, Except.mapError_eq_ok_iff] at h
    rcases compileValue_eq_ok h with ⟨t, ht, rfl⟩ | rfl | ⟨rule, rfl⟩
    · obtain ⟨g, hslot, hbare⟩ := (Validator.bares_delegate t none).mp hbare
      exact .target ht hslot hbare
    · exact bares_of_compileValue h
    · exact absurd hbare (Validator.not_bares_leaf rule none)
  | validator g =>
    cases h
    exact .fragment hbare
  | seq form tag items ih =>
    by_cases hliteral : inOr = true ∧ items.length = 1
    · obtain ⟨rfl, hlength⟩ := hliteral
      obtain ⟨item, rfl⟩ := List.length_eq_one_iff.mp hlength
      rw [compile_seq_singleton] at h
      cases h
      exact absurd hbare (Validator.not_bares_leaf _ none)
    · rw [compile_seq hliteral, Except.map_eq_ok_iff] at h
      obtain ⟨vs, hvs, rfl⟩ := h
      obtain ⟨w, hw, hbare⟩ := (Validator.bares_anyOf vs none).mp hbare
      obtain ⟨p, hp, hcompile⟩ := (compileEach_eq_ok_iff.mp hvs).exists_left hw
      exact .item hliteral hp (ih p hp hcompile hbare)
  | mapping form tag entries =>
    simp only [compile, Except.bind_eq_ok_iff, Except.pure_eq_ok_iff] at h
    obtain ⟨ps, -, rfl⟩ := h
    exact absurd hbare (Validator.not_bares_object ps none)

end Pattern

/-- **A schema bares none of its references** if its pattern does not, and brings none of them with it. -/
theorem Schema.not_bares_of_compile {host : Host} {s : Store} {p : Pattern} {v : Handle}
    (h : (compile host p s).outcome = .ok v) (hbare : ¬ p.Bares host.slot false)
    (hbrings : ∀ w, p.Embeds host.slot w → ¬ w.Holds host.slot (some s.sessions.length)) :
    ¬ v.validator.Bares host.slot (some s.sessions.length) := by
  obtain ⟨u, label, r, hmade, hrebind, htree⟩ := exists_rebound_of_compile h
  intro hv
  rw [← Validator.bares_adopt_none, htree, Validator.bares_adopt_none] at hv
  rcases Validator.bares_of_rebindTo hrebind hv with hu | ⟨-, hu⟩
  · rcases Pattern.holds_compile hmade hu.holds with heq | ⟨w, hw, hholds⟩
    · cases heq
    · exact hbrings w hw hholds
  · exact hbare (Pattern.bares_of_compile hmade hu)

namespace Operation

variable {host : Host} {s : Store} {op : Operation} {ops : List Operation} {k : Nat}

/-- **A step that binds a session has rebound what is bound.** -/
theorem exists_rebound_of_binds {n : Nat} {r : Handle} (hbinds : op.Binds)
    (hsession : op.session s = some n) (houtcome : (op.perform host s).outcome = .ok (some r)) :
    ∃ v label rebound, Validator.rebindTo host.slot n depthLimit (some label) v = .ok rebound ∧
      r.validator = rebound.result v := by
  cases op with
  | begin => exact hbinds.elim
  | reference m => exact hbinds.elim
  | fragment p => exact hbinds.elim
  | bind m root =>
    cases hsession
    rw [perform, outcome_map_eq] at houtcome
    rcases Action.bindRoot_cases host n root s with
      ⟨e, h⟩ | ⟨rebound, bound, -, hrebind, hok, hvalidator, -⟩
    · rw [h] at houtcome
      cases houtcome
    · cases hok.symm.trans houtcome
      exact ⟨_, _, rebound, hrebind, hvalidator⟩
  | compile p =>
    cases hsession
    rw [perform, outcome_map_eq] at houtcome
    obtain ⟨v, label, rebound, -, hrebind, hvalidator⟩ :=
      (Schema.ended_compile host s p).exists_rebound houtcome
    exact ⟨v, label, rebound, hrebind, hvalidator⟩
  | decode document =>
    cases hsession
    rw [perform, outcome_map_eq] at houtcome
    cases hdocument : Descriptor.ofDocument document with
    | error e =>
      rw [Schema.decode_of_refused hdocument] at houtcome
      cases houtcome
    | ok descriptor =>
      obtain ⟨v, label, rebound, -, hrebind, hvalidator⟩ :=
        (Schema.ended_decode host s hdocument).exists_rebound houtcome
      exact ⟨v, label, rebound, hrebind, hvalidator⟩

/-- **What a step of a run binds is grounded.** -/
theorem grounded_of_binds {n : Nat} {r : Handle} (hbinds : op.Binds) (hsession : op.session s = some n)
    (houtcome : (op.perform host s).outcome = .ok (some r)) : r.validator.Grounded host.slot := by
  obtain ⟨v, label, rebound, hrebind, hvalidator⟩ := exists_rebound_of_binds hbinds hsession houtcome
  rw [hvalidator]
  exact .result hrebind

/-- Before any session is begun no root is bound. -/
theorem root_of_empty (hempty : s.sessions = []) (n : Nat) : s.root n = none :=
  Store.root_of_length_le (by rw [hempty]; exact Nat.zero_le n)

/-- **Roots are grounded** in a run in which all sessions are begun. -/
theorem grounded_of_root (hempty : s.sessions = []) {n : Nat} {r : Handle}
    (hroot : (run host ops s).root n = some r) : r.validator.Grounded host.slot := by
  rcases root_of_root_run hroot with h | ⟨k, op, hop, hbinds, hsession, hresult⟩
  · cases (root_of_empty hempty n).symm.trans h
  · exact grounded_of_binds hbinds hsession ((resultAt_eq_some_iff hop).mp hresult)

/-- **A step is given references to sessions that were begun before it only.** -/
def BringsOlder (host : Host) (ops : List Operation) (s : Store) : Prop :=
  ∀ k op v n, ops[k]? = some op → op.Brings host.slot v → v.Holds host.slot (some n) →
    n < (storeAt host ops s k).sessions.length

/-- **Roots refer to earlier sessions and to their own** where no session is begun before it is known what
it is bound to, and steps are given references to earlier sessions only. -/
theorem le_of_holds_root (hempty : s.sessions = []) (hbind : ∀ n root, bind n root ∉ ops)
    (hbrings : BringsOlder host ops s) {n m : Nat} {r : Handle}
    (hroot : (run host ops s).root n = some r) (hholds : r.validator.Holds host.slot (some m)) :
    m ≤ n := by
  rcases root_of_root_run hroot with h | ⟨k, op, hop, hbinds, hsession, hresult⟩
  · cases (root_of_empty hempty n).symm.trans h
  · have hn : n = (storeAt host ops s k).sessions.length := by
      cases op with
      | bind n root => exact absurd (List.mem_of_getElem? hop) (hbind n root)
      | compile p => exact (Option.some.inj hsession).symm
      | decode document => exact (Option.some.inj hsession).symm
      | _ => exact hbinds.elim
    rcases (holds_of_perform ((resultAt_eq_some_iff hop).mp hresult) hholds).1 with hown | ⟨v, hv, hm⟩
    · exact Nat.le_of_eq (Option.some.inj (hown.trans hsession))
    · exact hn ▸ Nat.le_of_lt (hbrings k op v m hop hv hm)

/-- The sessions with a root are some of those that were begun. -/
theorem lt_of_root {n : Nat} {r : Handle} (hroot : s.root n = some r) : n < s.sessions.length := by
  by_contra hn
  cases (Store.root_of_length_le (Nat.not_lt.mp hn)).symm.trans hroot

/-- **A check cannot stay at a value for ever** in what a grounded validator leads to after a run in which
all sessions are begun, if the references that it comes to are guarded. -/
theorem acc_stays_run (hempty : s.sessions = []) {v w : Validator} (hv : v.Grounded host.slot)
    (hguarded : ∀ n, ((run host ops s).env host).Reaches v (.selfRef (some n)) →
      ((run host ops s).env host).Guarded n)
    (hw : ((run host ops s).env host).Reaches v w) :
    Acc (fun u w => ((run host ops s).env host).Stays w u) w := by
  have hroot : ∀ {n r}, ((run host ops s).env host).root n = some r →
      ∃ h, (run host ops s).root n = some h ∧ h.validator = r := Option.map_eq_some_iff.mp
  have hlimit : ∀ n r, ((run host ops s).env host).root n = some r →
      n < (run host ops s).sessions.length := by
    intro n r hr
    obtain ⟨h, hh, -⟩ := hroot hr
    exact lt_of_root hh
  have hgrounded : ∀ n r, ((run host ops s).env host).root n = some r →
      r.Grounded ((run host ops s).env host).slot := by
    intro n r hr
    obtain ⟨h, hh, rfl⟩ := hroot hr
    exact grounded_of_root hempty hh
  exact Env.acc_stays hlimit hgrounded hv hguarded hw

/-- **Checks of a recursive schema come to an end**, in both ways to walk, on every value and on absence.

Take any run of operations in which all sessions are begun, and a pattern that is compiled in it.  If the
references of all sessions that a check of its schema can come to are guarded, no check of it recurses for
ever: from some depth on it does the same whatever the depth is.  Where roots are bound as soon as their
session is begun, and references come from sessions begun before, references are guarded if they stand
under a key or in an array: those of the pattern and of its fragments do, and those of each session that a
check can come to do in the root of that session. -/
theorem terminates_compile {p : Pattern} {v : Handle} (hempty : s.sessions = [])
    (hop : ops[k]? = some (.compile p)) (hresult : resultAt host ops s k = some v) :
    let env := (run host ops s).env host
    ((∀ n, env.Reaches v.validator (.selfRef (some n)) → env.Guarded n) →
      ∀ x, env.Terminates v.validator x) ∧
    ((∀ n root, bind n root ∉ ops) → BringsOlder host ops s → ¬ p.Bares host.slot false →
      (∀ n r, n ≠ (storeAt host ops s k).sessions.length →
        env.Reaches v.validator (.selfRef (some n)) → env.root n = some r →
        ¬ r.Bares host.slot (some n)) →
      ∀ x, env.Terminates v.validator x) := by
  intro env
  have hroot : ∀ {n r}, env.root n = some r →
      ∃ h, (run host ops s).root n = some h ∧ h.validator = r := Option.map_eq_some_iff.mp
  have hcompile := (resultAt_eq_some_iff hop).mp hresult
  have hbinds : (compile p).Binds := trivial
  have hguarded : (∀ n, env.Reaches v.validator (.selfRef (some n)) → env.Guarded n) →
      ∀ x, env.Terminates v.validator x := by
    intro hguarded x
    have hv : v.validator.Grounded host.slot := grounded_of_binds hbinds rfl hcompile
    obtain ⟨n, hn⟩ := Env.exists_halts (fun w => acc_stays_run hempty hv hguarded) x
    exact hn.terminates
  refine ⟨hguarded, fun hbind hbrings hpattern hbare => hguarded fun n hn => ?_⟩
  refine Env.guarded_of_not_bares (fun n r m hr hm => ?_) (fun n r hreach hr => ?_) hn
  · obtain ⟨h, hh, rfl⟩ := hroot hr
    exact le_of_holds_root hempty hbind hbrings hh hm
  · by_cases hown : n = (storeAt host ops s k).sessions.length
    · -- the session of the pattern itself
      subst hown
      rw [perform, outcome_map_eq] at hcompile
      have hbegun : (storeAt host ops s k).sessions.length <
          (storeAt host ops s (k + 1)).sessions.length := by
        rw [storeAt_succ hop, perform, map_eq]
        exact (Schema.ended_compile host _ p).root_eq.1 ▸ Nat.lt_succ_self _
      have hresult := root_run_of_resultAt hop hbinds rfl hbegun hresult
      obtain ⟨h, hh, rfl⟩ := hroot hr
      cases hresult.symm.trans hh
      refine Schema.not_bares_of_compile hcompile hpattern fun w hw hholds => ?_
      exact Nat.lt_irrefl _ (hbrings k _ w _ hop hw hholds)
    · exact hbare n r hown hreach hr

/-- A list that is absent, or has a value and a list behind it: what is behind stands under a key. -/
theorem terminates_compile_of_list :
    let host : Host := ⟨fun _ => .absent, Settings.standard⟩
    let s : Store := ⟨[], 0⟩
    let p : Pattern := .seq .list 0 [.value .null, .mapping .dict 1
      [(.text "value", .value (.cls (.builtin .int))), (.text "next", .value .selfMarker)]]
    let env := (run host [compile p] s).env host
    let x : Value := .dict [(.text "value", .int 1), (.text "next", .dict [(.text "value", .int 2)])]
    ∃ v, resultAt host [compile p] s 0 = some v ∧ (env.validate v.validator x).outcome = .ok true ∧
      env.Terminates v.validator x ∧ env.Terminates v.validator .missing := by
  intro host s p env x
  have hrun : (resultAt host [compile p] s 0).any (fun v =>
      decide ((env.validate v.validator x).outcome = .ok true)) = true := by
    decide +kernel
  obtain ⟨v, hv, haccepted⟩ := (Option.any_eq_true _ _).mp hrun
  have hembeds : ∀ w, ¬ p.Embeds host.slot w := by
    intro w hw
    dsimp only [p] at hw
    rcases hw with _ | ht | ⟨hitem, hw⟩
    rcases List.mem_pair.mp hitem with rfl | rfl
    · rcases hw with _ | ht
      cases ht
    · rcases hw with _ | _ | _ | ⟨hentry, hw⟩
      rcases List.mem_pair.mp hentry with rfl | rfl
      · rcases hw with _ | ht
        cases ht
      · rcases hw with _ | ht
        cases ht
  have hbrings : BringsOlder host [compile p] s := by
    intro k op w n hop hw _
    cases k with
    | zero =>
      cases hop
      exact absurd hw (hembeds w)
    | succ k => cases hop
  have hpattern : ¬ p.Bares host.slot false := by
    intro hp
    dsimp only [p] at hp
    rcases hp with _ | _ | _ | _ | ⟨-, hitem, hp⟩
    rcases List.mem_pair.mp hitem with rfl | rfl
    · rcases hp with _ | _ | _ | ht
      cases ht
    · cases hp
  have hother : ∀ n r, n ≠ 0 → env.Reaches v.validator (.selfRef (some n)) → env.root n = some r →
      ¬ r.Bares host.slot (some n) := by
    intro n r hn _ hr
    obtain ⟨h, hh, -⟩ := Option.map_eq_some_iff.mp hr
    have hlt : n < (run host [compile p] s).sessions.length := lt_of_root hh
    have hone : (run host [compile p] s).sessions.length = 1 := by decide +kernel
    omega
  have hterminates := (terminates_compile rfl rfl hv).2 (by simp) hbrings hpattern hother
  exact ⟨v, hv, of_decide_eq_true haccepted, hterminates x, hterminates .missing⟩

end Operation

end Conformance
