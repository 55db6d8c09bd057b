import Conformance.Proofs.Validator.References

/-!
# Validators that no session takes anything over from

A validator without references of no session is what it is for every session: there is nothing to take
over, and rebinding leaves it as it was.

## Main statements

* `Validator.adopt_of_not_holds` — there is nothing to take over
* `Validator.rebindTo_of_not_holds` — rebinding makes no copy, and ends with a fault for every session
  or for none
* `Validator.copy_eq_none_iff` — rebinding makes a copy exactly where a reference waits for a session
* `Validator.rebindTo_anyOf_iff` — a choice is left as it is when each of its alternatives is
-/

namespace Conformance.Validator

variable {slot : Nat → Slot}

/-- **There is nothing to take over** where no reference waits for a session. -/
theorem adopt_of_not_holds {v : Validator} (h : ¬ v.Holds slot none) (session : Option Nat) :
    v.adopt session = v.adopt none := by
  induction v using treeInduction with
  | leaf rule => rfl
  | delegate t => rfl
  | delegateTo t copy ih =>
    rw [holds_delegateTo] at h
    rw [adopt, adopt, ih h]
  | anyOf vs ih =>
    rw [adopt, adopt, adoptEach_eq_map, adoptEach_eq_map]
    refine congrArg anyOf (List.map_congr_left fun v hv => ih v hv fun hholds => h ?_)
    exact (holds_anyOf vs).mpr ⟨v, hv, hholds⟩
  | object ps ih =>
    rw [adopt, adopt, adoptProperties_eq_map, adoptProperties_eq_map]
    refine congrArg object (List.map_congr_left fun p hp => ?_)
    refine congrArg (Property.mk p.key none) (ih p hp fun hholds => h ?_)
    exact (holds_object ps).mpr ⟨p, hp, hholds⟩
  | arrayOf items least most ih =>
    rw [holds_arrayOf] at h
    rw [adopt, adopt, ih h]
  | selfRef own =>
    cases own with
    | none => exact absurd ((holds_selfRef none).mpr rfl) h
    | some own => rfl
  | external e => rfl

/-! ## Rebinding -/

/-- **Two rebindings leave a part alike**: each leaves it as it is, or both end with the same fault. -/
def LeftAlike {α : Type} (x y : Except Fault (Rebound α)) : Prop := x = (fun _ => .unchanged) <$> y

/-- A whole is left as it is when its only part is. -/
theorem LeftAlike.map {α β : Type} {x y : Except Fault (Rebound α)} (h : LeftAlike x y) (f : α → β) :
    LeftAlike (do return (← x).map f) (do return (← y).map f) := by
  rw [LeftAlike, h]
  simp [Rebound.map, Rebound.unchanged]

/-- What was put together from parts that are left as they are is left as it is. -/
theorem LeftAlike.bind {α β γ : Type} {x y : Except Fault (Rebound α)}
    {xs ys : Except Fault (Rebound β)} {f g : Rebound α → Rebound β → Rebound γ}
    (h : LeftAlike x y) (hs : LeftAlike xs ys) (hf : f .unchanged .unchanged = .unchanged) :
    LeftAlike (do let head ← x; let tail ← xs; return f head tail)
      (do let head ← y; let tail ← ys; return g head tail) := by
  rw [LeftAlike, h, hs]
  simp [hf]

variable {n m : Nat} {follow follow' : Validator → Except Fault (Rebound Validator)}

mutual

/-- **There is nothing to rebind** where no reference waits for a session. -/
theorem rebind_of_not_holds
    (hfollow : ∀ w, ¬ w.Holds slot none → LeftAlike (follow w) (follow' w))
    (label label' : Option Label) (v : Validator) (h : ¬ v.Holds slot none) :
    LeftAlike (rebind slot n follow label v) (rebind slot m follow' label' v) := by
  cases v with
  | leaf rule => rfl
  | delegate t =>
    rw [rebind, rebind]
    cases hslot : slot t.id with
    | validator handle =>
      refine (hfollow handle.validator fun hholds => h ?_).map _
      exact (holds_delegate t).mpr ⟨handle, hslot, hholds⟩
    | _ => rfl
  | delegateTo t copy =>
    rw [holds_delegateTo] at h
    exact (rebind_of_not_holds hfollow none none copy h).map _
  | anyOf vs =>
    refine (rebindEach_of_not_holds hfollow vs fun v hv hholds => h ?_).map _
    exact (holds_anyOf vs).mpr ⟨v, hv, hholds⟩
  | object ps =>
    refine (rebindProperties_of_not_holds hfollow label label' 0 ps fun p hp hholds => h ?_).map _
    exact (holds_object ps).mpr ⟨p, hp, hholds⟩
  | arrayOf items least most =>
    rw [holds_arrayOf] at h
    exact (rebind_of_not_holds hfollow none none items h).map _
  | selfRef own =>
    cases own with
    | none => exact absurd ((holds_selfRef none).mpr rfl) h
    | some own => rfl
  | external e => rfl

/-- There is nothing to rebind among alternatives where no reference waits for a session. -/
theorem rebindEach_of_not_holds
    (hfollow : ∀ w, ¬ w.Holds slot none → LeftAlike (follow w) (follow' w)) (vs : List Validator)
    (h : ∀ v ∈ vs, ¬ v.Holds slot none) :
    LeftAlike (rebindEach slot n follow vs) (rebindEach slot m follow' vs) := by
  cases vs with
  | nil => rfl
  | cons v vs =>
    obtain ⟨hv, hvs⟩ := List.forall_mem_cons.mp h
    exact (rebind_of_not_holds hfollow none none v hv).bind
      (rebindEach_of_not_holds hfollow vs hvs) rfl

/-- There is nothing to rebind under keys where no reference waits for a session. -/
theorem rebindProperties_of_not_holds
    (hfollow : ∀ w, ¬ w.Holds slot none → LeftAlike (follow w) (follow' w))
    (label label' : Option Label) (i : Nat) (ps : List (Property Validator))
    (h : ∀ p ∈ ps, ¬ p.rule.Holds slot none) :
    LeftAlike (rebindProperties slot n follow label i ps)
      (rebindProperties slot m follow' label' i ps) := by
  cases ps with
  | nil => rfl
  | cons p ps =>
    obtain ⟨key, own, rule⟩ := p
    obtain ⟨hrule, hps⟩ := List.forall_mem_cons.mp h
    exact (rebind_of_not_holds hfollow _ _ rule hrule).bind
      (rebindProperties_of_not_holds hfollow label label' (i + 1) ps hps) rfl

end

/-- **Rebinding leaves a validator as it is** where no reference waits for a session, and ends with a
fault for every session or for none. -/
theorem rebindTo_of_not_holds {v : Validator} (h : ¬ v.Holds slot none) (depth n m : Nat)
    (label label' : Option Label) :
    LeftAlike (rebindTo slot n depth label v) (rebindTo slot m depth label' v) := by
  induction depth generalizing v label label' with
  | zero => rfl
  | succ depth ih => exact rebind_of_not_holds (fun w hw => ih hw none none) label label' v h

/-- **Rebinding makes a copy exactly where a reference waits for a session.** -/
theorem copy_eq_none_iff {depth : Nat} {label : Option Label} {v : Validator} {r : Rebound Validator}
    (h : rebindTo slot n depth label v = .ok r) : r.copy = none ↔ ¬ v.Holds slot none := by
  constructor
  · intro hcopy
    have hresult : r.result v = v := by rw [Rebound.result, hcopy, Option.getD_none]
    rw [← hresult]
    exact not_holds_none_rebindTo h
  · intro hholds
    have hleft : rebindTo slot n depth label v = (fun _ => .unchanged) <$> rebindTo slot n depth label v :=
      rebindTo_of_not_holds hholds depth n n label label
    rw [h] at hleft
    rw [Except.ok.inj hleft]
    rfl

/-- A choice is rebound without a copy when each alternative is. -/
theorem rebindEach_eq_unchanged_iff {vs : List Validator} :
    rebindEach slot n follow vs = .ok .unchanged ↔
      ∀ v ∈ vs, rebind slot n follow none v = .ok .unchanged := by
  have hcons : ∀ (v : Validator) (vs : List Validator) (head : Rebound Validator)
      (tail : Rebound (List Validator)),
      Rebound.cons v vs head tail = .unchanged ↔ head = .unchanged ∧ tail = .unchanged := by
    rintro v vs ⟨adopted, copy⟩ ⟨adopted', copies⟩
    cases copy <;> cases copies <;> simp [Rebound.cons, Rebound.unchanged]
  induction vs with
  | nil => exact iff_of_true rfl (by simp)
  | cons v vs ih =>
    simp only [rebindEach, Except.bind_eq_ok_iff, Except.pure_eq_ok_iff, hcons]
    constructor
    · rintro ⟨head, hhead, tail, htail, rfl, rfl⟩
      exact List.forall_mem_cons.mpr ⟨hhead, ih.mp htail⟩
    · intro h
      obtain ⟨hhead, htail⟩ := List.forall_mem_cons.mp h
      exact ⟨_, hhead, _, ih.mpr htail, rfl, rfl⟩

/-- **A choice is left as it is** when each of its alternatives is. -/
theorem rebindTo_anyOf_iff {vs : List Validator} (depth : Nat) (label : Option Label) :
    rebindTo slot n (depth + 1) label (anyOf vs) = .ok .unchanged ↔
      ∀ v ∈ vs, rebindTo slot n (depth + 1) none v = .ok .unchanged := by
  have hmap : ∀ r : Rebound (List Validator), r.map anyOf = .unchanged ↔ r = .unchanged := by
    rintro ⟨adopted, copies⟩
    cases copies <;> simp [Rebound.map, Rebound.unchanged]
  rw [rebindTo, rebind]
  simp only [Except.bind_eq_ok_iff, Except.pure_eq_ok_iff, hmap, exists_eq_right,
    rebindEach_eq_unchanged_iff, rebindTo]

end Conformance.Validator
