import Conformance.Proofs.Validator.ComingBack
import Conformance.Proofs.Validator.Library
import Conformance.Proofs.Validator.Settled
import Conformance.Proofs.Validator.Settling

/-!
# References unfolded

A fragment holds references that wait for a session.  A root that was bound before can be put in their
place, and binding passes over it: its references have a session, and its live delegates were passed over
before.

## Main Definitions

* `Validator.Unfolds` — a fragment in which a root was put in the place of references
* `Validator.BoundAlike` — validators that two sessions bind to validators that are alike
* `Validator.Unfolded` — a reference bound by one session, and what stands in its place when the fragment
  is bound by another one after it was unfolded

## Main statements

* `Validator.freeze_again` — binding leaves what was bound as it is
* `Validator.Unfolds.exists_freeze` — a fragment can still be bound after it was unfolded, and to a
  validator that is alike
* `Validator.Unfolded.isBisimulation` — what stands in the place of references leads on to the same
-/

namespace Conformance.Validator

variable {slot : Nat → Slot} {n n' : Nat}

/-- **A validator unfolds to another one** in which a root stands in the place of some of the references
that wait for a session. -/
def Unfolds (v root v' : Validator) : Prop :=
  AlikeUpTo (fun w w' => w = selfRef none ∧ w' = root) v v'

/-! ## Binding again -/

/-- **What freezing makes of a live delegate**: nothing where no reference waits for a session in what it
stands for, and else a copy of what that is bound to. -/
theorem freeze_delegate_eq_ok_iff {t : Target} {h : Handle} (hslot : slot t.id = .validator h)
    {depth : Nat} {w : Validator} :
    freeze slot (rebindTo slot n depth none) (delegate t) = .ok w ↔
      ∃ r, rebindTo slot n depth none h.validator = .ok r ∧
        (¬ h.validator.Holds slot none ∧ w = delegate t ∨
          h.validator.Holds slot none ∧ w = delegateTo t ((r.result h.validator).adopt none)) := by
  rw [freeze, hslot]
  simp only [Except.bind_eq_ok_iff, Except.pure_eq_ok_iff]
  refine exists_congr fun r => and_congr_right fun hr => ?_
  cases hcopy : r.copy with
  | none =>
    have hholds := (copy_eq_none_iff hr).mp hcopy
    simp [hholds, eq_comm]
  | some copy =>
    have hholds : h.validator.Holds slot none := by
      by_contra hholds
      rw [(copy_eq_none_iff hr).mpr hholds] at hcopy
      cases hcopy
    simp [hholds, Rebound.result, hcopy, eq_comm]

/-- What can be frozen can be rebound. -/
theorem exists_rebindTo_of_freeze {depth : Nat} {v w : Validator}
    (h : freeze slot (rebindTo slot n depth none) (v.adopt (some n)) = .ok w) (label : Option Label) :
    ∃ r, rebindTo slot n (depth + 1) label v = .ok r ∧ (r.result v).adopt none = w := by
  have hmap : (fun r => (r.result v).adopt none) <$> rebindTo slot n (depth + 1) label v =
      freeze slot (rebindTo slot n depth none) (v.adopt (some n)) := rebind_map_adopt label v
  rwa [h, Except.map_eq_ok_iff] at hmap

/-- What was frozen is frozen again to itself, if this is so of live delegates. -/
theorem freeze_of_freeze {follow follow' : Validator → Except Fault (Rebound Validator)}
    (hdelegate : ∀ t w, freeze slot follow (delegate t) = .ok w → freeze slot follow' w = .ok w)
    {v w : Validator} (h : freeze slot follow (v.adopt (some n)) = .ok w) :
    freeze slot follow' w = .ok w := by
  induction v using treeInduction generalizing w with
  | leaf rule =>
    cases h
    rfl
  | delegate t => exact hdelegate t w h
  | delegateTo t copy ih =>
    simp only [adopt, freeze, Except.bind_eq_ok_iff, Except.pure_eq_ok_iff] at h
    obtain ⟨w, hw, rfl⟩ := h
    rw [freeze, ih hw]
    rfl
  | anyOf vs ih =>
    simp only [adopt, adoptEach_eq_map, freeze, Except.bind_eq_ok_iff, Except.pure_eq_ok_iff] at h
    obtain ⟨ws, hws, rfl⟩ := h
    have hall := List.forall₂_map_left_iff.mp (freezeEach_eq_ok_iff.mp hws)
    have hagain : ∀ w ∈ ws, freeze slot follow' w = .ok w := by
      intro w hw
      obtain ⟨v, hv, hfreeze⟩ := hall.exists_left hw
      exact ih v hv hfreeze
    rw [freeze, freezeEach_eq_ok_iff.mpr (List.forall₂_same.mpr hagain)]
    rfl
  | object ps ih =>
    simp only [adopt, adoptProperties_eq_map, freeze, Except.bind_eq_ok_iff, Except.pure_eq_ok_iff] at h
    obtain ⟨qs, hqs, rfl⟩ := h
    have hall := List.forall₂_map_left_iff.mp (freezeProperties_eq_ok_iff.mp hqs)
    have hagain : ∀ q ∈ qs, q.key = q.key ∧ q.label = none ∧
        freeze slot follow' q.rule = .ok q.rule := by
      intro q hq
      obtain ⟨p, hp, -, hlabel, hfreeze⟩ := hall.exists_left hq
      exact ⟨rfl, hlabel, ih p hp hfreeze⟩
    rw [freeze, freezeProperties_eq_ok_iff.mpr (List.forall₂_same.mpr hagain)]
    rfl
  | arrayOf items least most ih =>
    simp only [adopt, freeze, Except.bind_eq_ok_iff, Except.pure_eq_ok_iff] at h
    obtain ⟨w, hw, rfl⟩ := h
    rw [freeze, ih hw]
    rfl
  | selfRef own => cases own <;> cases h <;> rfl
  | external e =>
    cases h
    rfl

/-- **Binding leaves what was bound as it is**, for every session and with as much depth. -/
theorem freeze_again {depth depth' : Nat} (hle : depth ≤ depth') {v w : Validator}
    (h : freeze slot (rebindTo slot n depth none) (v.adopt (some n)) = .ok w) :
    freeze slot (rebindTo slot n' depth' none) w = .ok w := by
  induction depth generalizing depth' v w with
  | zero =>
    refine freeze_of_freeze (fun t w hw => ?_) h
    cases hslot : slot t.id with
    | validator g =>
      obtain ⟨r, hr, -⟩ := (freeze_delegate_eq_ok_iff hslot).mp hw
      cases hr
    | _ =>
      simp only [freeze, hslot] at hw
      cases hw
      simp only [freeze, hslot]
  | succ depth ih =>
    refine freeze_of_freeze (fun t w hw => ?_) h
    cases hslot : slot t.id with
    | validator g =>
      obtain ⟨r, hr, ⟨hholds, rfl⟩ | ⟨hholds, rfl⟩⟩ := (freeze_delegate_eq_ok_iff hslot).mp hw
      · -- the delegate stays live, and what it stands for is passed over again
        obtain ⟨depth', rfl⟩ : ∃ e, depth' = e + 1 := ⟨depth' - 1, by omega⟩
        have hresult : r.result g.validator = g.validator := by
          rw [Rebound.result, (copy_eq_none_iff hr).mpr hholds, Option.getD_none]
        have hfreeze : freeze slot (rebindTo slot n' depth' none) ((r.result g.validator).adopt none) =
            .ok ((r.result g.validator).adopt none) := ih (by omega) (freeze_of_rebindTo hr)
        rw [hresult, ← adopt_of_not_holds hholds (some n')] at hfreeze
        obtain ⟨r', hr', -⟩ := exists_rebindTo_of_freeze hfreeze none
        exact (freeze_delegate_eq_ok_iff hslot).mpr ⟨r', hr', .inl ⟨hholds, rfl⟩⟩
      · rw [freeze, ih (by omega) (freeze_of_rebindTo hr)]
        rfl
    | _ =>
      simp only [freeze, hslot] at hw
      cases hw
      simp only [freeze, hslot]

/-! ## Binding what was unfolded -/

section BoundAlike

variable {follow follow' : Validator → Except Fault (Rebound Validator)}
  {B C : Validator → Validator → Prop}

/-- **Two validators are bound alike** by two sessions: where the one can bind the first validator, the
other can bind the second one, and to a validator that is alike. -/
def BoundAlike (slot : Nat → Slot) (follow follow' : Validator → Except Fault (Rebound Validator))
    (n n' : Nat) (C : Validator → Validator → Prop) (v v' : Validator) : Prop :=
  ∀ w, freeze slot follow (v.adopt (some n)) = .ok w →
    ∃ w', freeze slot follow' (v'.adopt (some n')) = .ok w' ∧ AlikeUpTo C w w'

/-- Choices between alternatives that are bound alike. -/
theorem boundAlike_anyOf {es : List (Validator × Validator)}
    (h : ∀ e ∈ es, BoundAlike slot follow follow' n n' C e.1 e.2) :
    BoundAlike slot follow follow' n n' C (anyOf (es.map Prod.fst)) (anyOf (es.map Prod.snd)) := by
  intro w hw
  simp only [adopt, adoptEach_eq_map, freeze, Except.bind_eq_ok_iff, Except.pure_eq_ok_iff] at hw
  obtain ⟨ws, hws, rfl⟩ := hw
  have hall := freezeEach_eq_ok_iff.mp hws
  rw [List.map_map, List.forall₂_map_left_iff] at hall
  have hbetween := ((List.forall₂_and_left _ _).mpr ⟨h, hall⟩).imp fun e w h => h.1 w h.2
  obtain ⟨ws', hws', halike⟩ := List.Forall₂.exists_between hbetween
  have hfrozen : freezeEach slot follow' (adoptEach (some n') (es.map Prod.snd)) = .ok ws' := by
    rw [adoptEach_eq_map, List.map_map]
    exact freezeEach_eq_ok_iff.mpr (List.forall₂_map_left_iff.mpr hws')
  refine ⟨anyOf ws', ?_, .of_forall₂ halike⟩
  rw [adopt, freeze, hfrozen]
  rfl

/-- Object patterns with the same keys and rules under them that are bound alike. -/
theorem boundAlike_object {es : List (Property Validator × Property Validator)}
    (hkeys : ∀ e ∈ es, e.1.key = e.2.key)
    (h : ∀ e ∈ es, BoundAlike slot follow follow' n n' C e.1.rule e.2.rule) :
    BoundAlike slot follow follow' n n' C (object (es.map Prod.fst)) (object (es.map Prod.snd)) := by
  intro w hw
  simp only [adopt, adoptProperties_eq_map, freeze, Except.bind_eq_ok_iff, Except.pure_eq_ok_iff] at hw
  obtain ⟨qs, hqs, rfl⟩ := hw
  have hall := freezeProperties_eq_ok_iff.mp hqs
  rw [List.map_map, List.forall₂_map_left_iff] at hall
  have hbetween : List.Forall₂ (fun e q => ∃ q' : Property Validator,
      (q'.key = e.2.key ∧ q'.label = none ∧
        freeze slot follow' (e.2.rule.adopt (some n')) = .ok q'.rule) ∧
      q.key = q'.key ∧ AlikeUpTo C q.rule q'.rule) es qs := by
    refine ((List.forall₂_and_left es qs).mpr
      ⟨hkeys, (List.forall₂_and_left es qs).mpr ⟨h, hall⟩⟩).imp ?_
    rintro e q ⟨hkey, hrule, hq, -, hfreeze⟩
    obtain ⟨w', hw', halike⟩ := hrule q.rule hfreeze
    exact ⟨⟨e.2.key, none, w'⟩, ⟨rfl, rfl, hw'⟩, hq.trans hkey, halike⟩
  obtain ⟨qs', hqs', halike⟩ := List.Forall₂.exists_between hbetween
  have hfrozen :
      freezeProperties slot follow' (adoptProperties (some n') (es.map Prod.snd)) = .ok qs' := by
    rw [adoptProperties_eq_map, List.map_map]
    exact freezeProperties_eq_ok_iff.mpr (List.forall₂_map_left_iff.mpr hqs')
  refine ⟨object qs', ?_, .of_forall₂_rules halike⟩
  rw [adopt, freeze, hfrozen]
  rfl

/-- **Validators that are alike are bound alike**, if this is so of the pairs of parts in which they
differ, of references, and of live delegates. -/
theorem boundAlike_of_alike (hpair : ∀ v v', B v v' → BoundAlike slot follow follow' n n' C v v')
    (hdelegate : ∀ t, BoundAlike slot follow follow' n n' C (delegate t) (delegate t))
    (hreference : C (selfRef (some n)) (selfRef (some n'))) {v v' : Validator} (h : AlikeUpTo B v v') :
    BoundAlike slot follow follow' n n' C v v' := by
  induction h with
  | pair hB => exact hpair _ _ hB
  | leaf rule =>
    rintro w ⟨⟩
    exact ⟨_, rfl, .leaf rule⟩
  | delegate t => exact hdelegate t
  | delegateTo t _ ih =>
    intro w hw
    simp only [adopt, freeze, Except.bind_eq_ok_iff, Except.pure_eq_ok_iff] at hw
    obtain ⟨w, hw, rfl⟩ := hw
    obtain ⟨w', hw', halike⟩ := ih w hw
    refine ⟨Validator.delegateTo t w', ?_, .delegateTo t halike⟩
    rw [adopt, freeze, hw']
    rfl
  | anyOf _ ih => exact boundAlike_anyOf ih
  | object hkeys _ ih => exact boundAlike_object hkeys ih
  | arrayOf least most _ ih =>
    intro w hw
    simp only [adopt, freeze, Except.bind_eq_ok_iff, Except.pure_eq_ok_iff] at hw
    obtain ⟨w, hw, rfl⟩ := hw
    obtain ⟨w', hw', halike⟩ := ih w hw
    refine ⟨Validator.arrayOf w' least most, ?_, .arrayOf least most halike⟩
    rw [adopt, freeze, hw']
    rfl
  | selfRef own =>
    cases own with
    | none =>
      rintro w ⟨⟩
      exact ⟨_, rfl, .pair hreference⟩
    | some own =>
      rintro w ⟨⟩
      exact ⟨_, rfl, .selfRef (some own)⟩
  | external e =>
    rintro w ⟨⟩
    exact ⟨_, rfl, .external e⟩

/-- **Two sessions bind a live delegate alike**: what it stands for is passed over, or copied for each of
them. -/
theorem boundAlike_delegate (hreference : C (selfRef (some n)) (selfRef (some n'))) (depth : Nat)
    (t : Target) :
    BoundAlike slot (rebindTo slot n depth none) (rebindTo slot n' depth none) n n' C (delegate t)
      (delegate t) := by
  induction depth generalizing t with
  | zero =>
    intro w hw
    cases hslot : slot t.id with
    | validator g =>
      obtain ⟨r, hr, -⟩ := (freeze_delegate_eq_ok_iff hslot).mp hw
      cases hr
    | _ =>
      simp only [adopt, freeze, hslot] at hw ⊢
      cases hw
      exact ⟨_, rfl, .delegate t⟩
  | succ depth ih =>
    intro w hw
    cases hslot : slot t.id with
    | validator g =>
      obtain ⟨r, hr, ⟨hholds, rfl⟩ | ⟨hholds, rfl⟩⟩ := (freeze_delegate_eq_ok_iff hslot).mp hw
      · have hleft : rebindTo slot n' (depth + 1) none g.validator = _ :=
          rebindTo_of_not_holds hholds (depth + 1) n' n none none
        rw [hr] at hleft
        exact ⟨_, (freeze_delegate_eq_ok_iff hslot).mpr ⟨_, hleft, .inl ⟨hholds, rfl⟩⟩, .delegate t⟩
      · have hcopy : BoundAlike slot (rebindTo slot n depth none) (rebindTo slot n' depth none) n n' C
            g.validator g.validator :=
          boundAlike_of_alike (B := fun _ _ => False) (fun _ _ => False.elim) ih hreference (.refl _)
        obtain ⟨w', hw', halike⟩ := hcopy _ (freeze_of_rebindTo hr)
        obtain ⟨r', hr', hresult⟩ := exists_rebindTo_of_freeze hw' none
        refine ⟨_, (freeze_delegate_eq_ok_iff hslot).mpr ⟨r', hr', .inr ⟨hholds, rfl⟩⟩, ?_⟩
        rw [hresult]
        exact .delegateTo t halike
    | _ =>
      simp only [adopt, freeze, hslot] at hw ⊢
      cases hw
      exact ⟨_, rfl, .delegate t⟩

end BoundAlike

/-- **A reference that one session has bound, and what stands in its place** when another session binds
the fragment after it was unfolded: the root, or a reference of that session. -/
inductive Unfolded (n n' : Nat) (root : Validator) : Validator → Validator → Prop where
  | replaced : Unfolded n n' root (selfRef (some n)) root
  | kept : Unfolded n n' root (selfRef (some n)) (selfRef (some n'))

/-- **What was unfolded can still be bound**, by another session, and is alike the root up to the
references that were unfolded. -/
theorem Unfolds.exists_freeze {root v v' : Validator} (h : v.Unfolds root v') {depth : Nat}
    (hroot : freeze slot (rebindTo slot n depth none) (v.adopt (some n)) = .ok (root.adopt none)) :
    ∃ w', freeze slot (rebindTo slot n' depth none) (v'.adopt (some n')) = .ok w' ∧
      AlikeUpTo (Unfolded n n' (root.adopt none)) (root.adopt none) w' := by
  have hsettled : ¬ root.Holds slot none := by
    obtain ⟨r, hr, hresult⟩ := exists_rebindTo_of_freeze hroot none
    rw [← holds_adopt_none, ← hresult, holds_adopt_none]
    exact not_holds_none_rebindTo hr
  refine boundAlike_of_alike ?_ (boundAlike_delegate .kept depth) .kept h _ hroot
  rintro v v' ⟨rfl, rfl⟩ w ⟨⟩
  refine ⟨_, ?_, .pair .replaced⟩
  rw [adopt_of_not_holds hsettled]
  exact freeze_again (Nat.le_refl depth) hroot

/-- **What stands in the place of references leads on to the same**, where the references of both sessions
lead to the roots that were bound. -/
theorem Unfolded.isBisimulation {env : Env} {root root' : Validator} (hroot : env.root n = some root)
    (hroot' : env.root n' = some root')
    (h : AlikeUpTo (Unfolded n n' (root.adopt none)) (root.adopt none) (root'.adopt none)) :
    env.IsBisimulation (Unfolded n n' (root.adopt none)) := by
  have hleads : ∀ {m : Nat} {r : Validator}, env.root m = some r →
      env.LeadsOn (selfRef (some m)) (r.adopt none) := by
    intro m r hr
    have hleads : env.LeadsTo m r r := ⟨hr, rfl⟩
    exact ⟨r, (adopt_adopt_none none r).symm, hleads.check_selfRef⟩
  intro v w hpair
  cases hpair with
  | replaced => exact .left (hleads hroot)
  | kept => exact .both (hleads hroot) (hleads hroot') h

end Conformance.Validator
