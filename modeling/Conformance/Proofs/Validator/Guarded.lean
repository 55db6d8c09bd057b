import Conformance.Proofs.Validator.Termination
import Conformance.Proofs.Validator.Unfolding
import Mathlib.Data.Fintype.EquivFin

/-!
# Guarded references

A reference is guarded when a check comes from the root of its session to it only by going into the value:
through a key of an object pattern or to an element of an array.  A check that stays at a value for ever
would stay in the tree of one validator for ever, which binding rules out, or come to the root of a session
a second time.

## Main Definitions

* `Validator.Grounded` — a validator without an endless chain of parts and live delegates
* `Validator.BottomsOut` — the same of the parts and delegates that are checked on the same value
* `Env.Guarded` — a session whose references are guarded
* `Validator.Bares` — a reference that stands in a validator neither under a key nor in an array

## Main statements

* `Validator.Grounded.of_rebindTo`, `Validator.Grounded.result` — binding goes through the whole of a
  validator
* `Validator.bares_of_rebindTo` — binding bares no references but those that stood bare before
* `Env.acc_stays_of_bottomsOut`, `Env.acc_stays` — a check cannot stay at a value for ever if the
  references it comes to are guarded
* `Env.guarded_of_object` — the references of an object pattern are guarded
* `Env.guarded_of_not_bares` — sessions that refer to earlier ones have guarded references if none stands
  bare in its own root
-/

open Relation (ReflTransGen)

namespace Conformance

namespace Validator

variable {slot : Nat → Slot} {n : Nat}

/-! ## Chains of parts and delegates -/

/-- **A validator is grounded** when no chain of parts and live delegates goes on from it for ever. -/
def Grounded (slot : Nat → Slot) (v : Validator) : Prop := Acc (fun w v => v.Linked slot w) v

/-- **A validator bottoms out** when no chain of alternatives and delegates goes on from it for ever. -/
def BottomsOut (slot : Nat → Slot) (v : Validator) : Prop := Acc (fun w v => v.Opens slot w) v

theorem Grounded.bottomsOut {v : Validator} (h : v.Grounded slot) : v.BottomsOut slot :=
  Subrelation.accessible Opens.linked h

/-- An object pattern looks into the value at once. -/
theorem not_opens_object (ps : List (Property Validator)) (w : Validator) :
    ¬ (object ps).Opens slot w := nofun

theorem bottomsOut_object (ps : List (Property Validator)) : (object ps).BottomsOut slot :=
  Acc.intro _ fun w hw => absurd hw (not_opens_object ps w)

/-- A validator is grounded if all parts are, and what it stands for. -/
theorem Grounded.intro {v : Validator} (hpart : ∀ w, v.Part w → w.Grounded slot)
    (hlive : ∀ t h, v = delegate t → slot t.id = .validator h → h.validator.Grounded slot) :
    v.Grounded slot := by
  refine Acc.intro v fun w hw => ?_
  cases hw with
  | part h => exact hpart w h
  | live hslot => exact hlive _ _ rfl hslot

/-- What can be frozen is grounded, if this is so of what live delegates stand for. -/
theorem grounded_of_freeze {follow : Validator → Except Fault (Rebound Validator)}
    (hfollow : ∀ v r, follow v = .ok r → v.Grounded slot) {v w : Validator}
    (h : freeze slot follow (v.adopt (some n)) = .ok w) : v.Grounded slot := by
  induction v using treeInduction generalizing w with
  | delegate t =>
    refine .intro (fun _ hpart => by cases hpart) fun t g heq hslot => ?_
    cases heq
    simp only [adopt, freeze, hslot, Except.bind_eq_ok_iff] at h
    obtain ⟨r, hr, -⟩ := h
    exact hfollow _ r hr
  | delegateTo t copy ih =>
    simp only [adopt, freeze, Except.bind_eq_ok_iff] at h
    obtain ⟨u, hu, -⟩ := h
    refine .intro (fun _ hpart => ?_) fun _ _ heq => by cases heq
    cases hpart
    exact ih hu
  | anyOf vs ih =>
    simp only [adopt, adoptEach_eq_map, freeze, Except.bind_eq_ok_iff] at h
    obtain ⟨us, hus, -⟩ := h
    refine .intro (fun _ hpart => ?_) fun _ _ heq => by cases heq
    cases hpart with
    | alternative hv =>
      obtain ⟨u, -, hu⟩ := (List.forall₂_map_left_iff.mp (freezeEach_eq_ok_iff.mp hus)).exists_right hv
      exact ih _ hv hu
  | object ps ih =>
    simp only [adopt, adoptProperties_eq_map, freeze, Except.bind_eq_ok_iff] at h
    obtain ⟨qs, hqs, -⟩ := h
    refine .intro (fun _ hpart => ?_) fun _ _ heq => by cases heq
    cases hpart with
    | property hp =>
      obtain ⟨q, -, -, -, hq⟩ :=
        (List.forall₂_map_left_iff.mp (freezeProperties_eq_ok_iff.mp hqs)).exists_right hp
      exact ih _ hp hq
  | arrayOf items least most ih =>
    simp only [adopt, freeze, Except.bind_eq_ok_iff] at h
    obtain ⟨u, hu, -⟩ := h
    refine .intro (fun _ hpart => ?_) fun _ _ heq => by cases heq
    cases hpart
    exact ih hu
  | _ => exact .intro (fun _ hpart => by cases hpart) fun _ _ heq => by cases heq

/-- **What can be bound is grounded**: binding goes through all parts and live delegates. -/
theorem Grounded.of_rebindTo {depth : Nat} {label : Option Label} {v : Validator}
    {r : Rebound Validator} (h : rebindTo slot n depth label v = .ok r) : v.Grounded slot := by
  induction depth generalizing label v r with
  | zero => cases h
  | succ depth ih => exact grounded_of_freeze (fun _ _ => ih) (freeze_of_rebindTo h)

/-- **What was bound is grounded.** -/
theorem Grounded.result {depth : Nat} {label : Option Label} {v : Validator} {r : Rebound Validator}
    (h : rebindTo slot n depth label v = .ok r) : (r.result v).Grounded slot := by
  cases depth with
  | zero => cases h
  | succ depth =>
    have hagain : freeze slot (rebindTo slot n depth none) ((r.result v).adopt none) = _ :=
      freeze_again (Nat.le_refl depth) (freeze_of_rebindTo h)
    rw [← adopt_of_not_holds (not_holds_none_rebindTo h) (some n)] at hagain
    exact grounded_of_freeze (fun _ _ => .of_rebindTo) hagain

/-! ## Bare references -/

/-- **A reference stands bare** in a validator, of a session or of none: neither under a key nor in an
array.  What delegates stand for counts, and what is behind a reference does not. -/
def Bares (slot : Nat → Slot) (v : Validator) (own : Option Nat) : Prop :=
  ReflTransGen (Opens slot) v (selfRef own)

/-- A bare reference is one that the validator holds. -/
theorem Bares.holds {v : Validator} {own : Option Nat} (h : v.Bares slot own) : v.Holds slot own :=
  ReflTransGen.mono (fun _ _ => Opens.linked) _ _ h

/-- A reference stands bare at the top, or in something that is checked on the same value. -/
theorem bares_iff {v : Validator} {own : Option Nat} :
    v.Bares slot own ↔ v = selfRef own ∨ ∃ w, v.Opens slot w ∧ w.Bares slot own := by
  rw [Bares, ReflTransGen.cases_head_iff]
  rfl

@[simp] theorem not_bares_leaf (rule : Leaf) (own : Option Nat) : ¬ (leaf rule).Bares slot own := by
  rw [bares_iff]
  rintro (h | ⟨w, hopens, -⟩)
  · cases h
  · cases hopens

@[simp] theorem not_bares_external (e : External) (own : Option Nat) :
    ¬ (external e).Bares slot own := by
  rw [bares_iff]
  rintro (h | ⟨w, hopens, -⟩)
  · cases h
  · cases hopens

/-- Under a key no reference stands bare. -/
@[simp] theorem not_bares_object (ps : List (Property Validator)) (own : Option Nat) :
    ¬ (object ps).Bares slot own := by
  rw [bares_iff]
  rintro (h | ⟨w, hopens, -⟩)
  · cases h
  · cases hopens

/-- In an array no reference stands bare. -/
@[simp] theorem not_bares_arrayOf (items : Validator) (least : Nat) (most own : Option Nat) :
    ¬ (arrayOf items least most).Bares slot own := by
  rw [bares_iff]
  rintro (h | ⟨w, hopens, -⟩)
  · cases h
  · cases hopens

@[simp] theorem bares_selfRef (session own : Option Nat) :
    (selfRef session).Bares slot own ↔ session = own := by
  rw [bares_iff]
  constructor
  · rintro (h | ⟨w, hopens, -⟩)
    · exact selfRef.inj h
    · cases hopens
  · rintro rfl
    exact .inl rfl

@[simp] theorem bares_anyOf (vs : List Validator) (own : Option Nat) :
    (anyOf vs).Bares slot own ↔ ∃ v ∈ vs, v.Bares slot own := by
  rw [bares_iff]
  constructor
  · rintro (h | ⟨w, hopens, hw⟩)
    · cases h
    · cases hopens with
      | alternative hv => exact ⟨w, hv, hw⟩
  · rintro ⟨v, hv, h⟩
    exact .inr ⟨v, .alternative hv, h⟩

@[simp] theorem bares_delegateTo (t : Target) (copy : Validator) (own : Option Nat) :
    (delegateTo t copy).Bares slot own ↔ copy.Bares slot own := by
  rw [bares_iff]
  constructor
  · rintro (h | ⟨w, hopens, hw⟩)
    · cases h
    · cases hopens
      exact hw
  · exact fun h => .inr ⟨copy, .copy t copy, h⟩

@[simp] theorem bares_delegate (t : Target) (own : Option Nat) : (delegate t).Bares slot own ↔
    ∃ h, slot t.id = .validator h ∧ h.validator.Bares slot own := by
  rw [bares_iff]
  constructor
  · rintro (h | ⟨w, hopens, hw⟩)
    · cases h
    · cases hopens with
      | live hslot => exact ⟨_, hslot, hw⟩
  · rintro ⟨h, hslot, hw⟩
    exact .inr ⟨_, .live hslot, hw⟩

/-- Identities of parts are no references. -/
@[simp] theorem bares_adopt_none (v : Validator) (own : Option Nat) :
    (v.adopt none).Bares slot own ↔ v.Bares slot own := by
  induction v using treeInduction with
  | leaf rule => rw [adopt]
  | delegate t => rw [adopt]
  | delegateTo t copy ih => rw [adopt, bares_delegateTo, bares_delegateTo, ih]
  | anyOf vs ih =>
    rw [adopt, bares_anyOf, bares_anyOf, adoptEach_eq_map]
    simp only [List.mem_map, exists_exists_and_eq_and]
    exact exists_congr fun v => and_congr_right (ih v)
  | object ps => simp [adopt]
  | arrayOf items least most => simp [adopt]
  | selfRef session => cases session <;> rfl
  | external e => rw [adopt]

/-- **Freezing what was taken over bares no references** but those that stood bare before, and those of no
session, which have become the session's own. -/
theorem bares_of_freeze {follow : Validator → Except Fault (Rebound Validator)} {m : Nat}
    (hfollow : ∀ v r, follow v = .ok r → (r.result v).Bares slot (some m) →
      v.Bares slot (some m) ∨ m = n ∧ v.Bares slot none)
    {v w : Validator} (h : freeze slot follow (v.adopt (some n)) = .ok w)
    (hbare : w.Bares slot (some m)) : v.Bares slot (some m) ∨ m = n ∧ v.Bares slot none := by
  induction v using treeInduction generalizing w with
  | delegate t =>
    rw [adopt, freeze] at h
    cases hslot : slot t.id with
    | validator g =>
      simp only [hslot, Except.bind_eq_ok_iff, Except.pure_eq_ok_iff] at h
      obtain ⟨r, hr, rfl⟩ := h
      have hresult : (r.result g.validator).Bares slot (some m) →
          (delegate t).Bares slot (some m) ∨ m = n ∧ (delegate t).Bares slot none := by
        simpa [hslot] using hfollow g.validator r hr
      cases hcopy : r.copy with
      | none =>
        rw [hcopy] at hbare
        exact .inl hbare
      | some copy =>
        simp only [hcopy, bares_delegateTo, bares_adopt_none] at hbare
        rw [Rebound.result, hcopy, Option.getD_some] at hresult
        exact hresult hbare
    | _ =>
      rw [hslot] at h
      cases h
      exact .inl hbare
  | delegateTo t copy ih =>
    simp only [adopt, freeze, Except.bind_eq_ok_iff, Except.pure_eq_ok_iff] at h
    obtain ⟨w, hw, rfl⟩ := h
    simpa using ih hw ((bares_delegateTo t w _).mp hbare)
  | anyOf vs ih =>
    simp only [adopt, adoptEach_eq_map, freeze, Except.bind_eq_ok_iff, Except.pure_eq_ok_iff] at h
    obtain ⟨ws, hws, rfl⟩ := h
    obtain ⟨w, hw, hbare⟩ := (bares_anyOf ws _).mp hbare
    obtain ⟨v, hv, hfreeze⟩ := (List.forall₂_map_left_iff.mp (freezeEach_eq_ok_iff.mp hws)).exists_left hw
    rw [bares_anyOf, bares_anyOf]
    exact (ih v hv hfreeze hbare).imp (fun h => ⟨v, hv, h⟩) fun h => ⟨h.1, v, hv, h.2⟩
  | object ps =>
    simp only [adopt, freeze, Except.bind_eq_ok_iff, Except.pure_eq_ok_iff] at h
    obtain ⟨qs, -, rfl⟩ := h
    exact absurd hbare (not_bares_object qs _)
  | arrayOf items least most =>
    simp only [adopt, freeze, Except.bind_eq_ok_iff, Except.pure_eq_ok_iff] at h
    obtain ⟨w, -, rfl⟩ := h
    exact absurd hbare (not_bares_arrayOf w least most _)
  | selfRef own =>
    cases own with
    | none =>
      cases h
      have hm : n = m := by simpa using hbare
      exact .inr ⟨hm.symm, .refl⟩
    | some k =>
      cases h
      exact .inl hbare
  | _ =>
    cases h
    exact .inl hbare

/-- **Binding bares no references** but those that stood bare before, and the session's own. -/
theorem bares_of_rebindTo {depth : Nat} {label : Option Label} {v : Validator} {r : Rebound Validator}
    {m : Nat} (h : rebindTo slot n depth label v = .ok r) (hbare : (r.result v).Bares slot (some m)) :
    v.Bares slot (some m) ∨ m = n ∧ v.Bares slot none := by
  induction depth generalizing label v r with
  | zero => cases h
  | succ depth ih =>
    exact bares_of_freeze (fun _ _ => ih) (freeze_of_rebindTo h) ((bares_adopt_none _ _).mpr hbare)

end Validator

namespace Env

open Validator (Grounded Opens Bares)

variable {env : Env} {v w : Validator}

/-- **The references of a session are guarded**: from its root a check does not come to one of them while
it stays at the value it is at. -/
def Guarded (env : Env) (session : Nat) : Prop :=
  ∀ r, env.root session = some r → ¬ ReflTransGen env.Stays r (.selfRef (some session))

theorem not_stays_object (ps : List (Property Validator)) (w : Validator) :
    ¬ env.Stays (.object ps) w := by
  intro h
  cases h with
  | opens hopens => exact Validator.not_opens_object ps w hopens

/-- **Below an object pattern every reference is guarded.** -/
theorem guarded_of_object {n : Nat} {ps : List (Property Validator)}
    (hroot : env.root n = some (.object ps)) : env.Guarded n := by
  intro r hr hreaches
  cases hroot.symm.trans hr
  rcases hreaches.cases_head with h | ⟨w, hw, -⟩
  · cases h
  · exact not_stays_object ps w hw

/-- What a check comes to while it stays at a value, it comes to. -/
theorem reaches_of_stays (h : ReflTransGen env.Stays v w) : env.Reaches v w :=
  ReflTransGen.mono (fun _ _ => Stays.next) _ _ h

/-- What a check comes to is grounded if the roots are. -/
theorem grounded_of_reaches (hroots : ∀ session r, env.root session = some r → r.Grounded env.slot)
    (hv : v.Grounded env.slot) (h : env.Reaches v w) : w.Grounded env.slot := by
  induction h with
  | refl => exact hv
  | tail _ hnext ih =>
    cases hnext with
    | linked hlinked => exact ih.inv hlinked
    | root hroot => exact hroots _ _ hroot

/-- A check cannot stay at a value for ever in a validator that bottoms out, if it cannot from the roots
that it comes to there. -/
theorem acc_stays_of_roots (hw : w.BottomsOut env.slot)
    (hroots : ∀ session r, ReflTransGen env.Stays w (.selfRef (some session)) →
      env.root session = some r → Acc (fun u w => env.Stays w u) r) :
    Acc (fun u w => env.Stays w u) w := by
  induction hw with
  | intro w _ ih =>
    refine Acc.intro w fun u hu => ?_
    cases hu with
    | opens hopens => exact ih u hopens fun n r hr => hroots n r (.head (.opens hopens) hr)
    | root hroot => exact hroots _ _ .refl hroot

/-- One session leads to another one, of which a reference is met while a check stays at a value, starting
from the root of the first one. -/
def RefersOn (env : Env) (v : Validator) (n m : Nat) : Prop :=
  env.Reaches v (.selfRef (some n)) ∧
    ∃ r, env.root n = some r ∧ ReflTransGen env.Stays r (.selfRef (some m))

theorem RefersOn.trans {n m k : Nat} (h : env.RefersOn v n m) (h' : env.RefersOn v m k) :
    env.RefersOn v n k := by
  obtain ⟨hreach, r, hr, hstays⟩ := h
  obtain ⟨-, r', hr', hstays'⟩ := h'
  exact ⟨hreach, r, hr, hstays.trans (.head (.root hr') hstays')⟩

/-- **A check cannot stay at a value for ever** in a validator that bottoms out, where there are finitely
many sessions, and the references that it comes to are guarded and lead to roots that bottom out too. -/
theorem acc_stays_of_bottomsOut {limit : Nat} (hlimit : ∀ n r, env.root n = some r → n < limit)
    (hroots : ∀ n r, env.Reaches v (.selfRef (some n)) → env.root n = some r → r.BottomsOut env.slot)
    (hguarded : ∀ n, env.Reaches v (.selfRef (some n)) → env.Guarded n) (hreach : env.Reaches v w)
    (hw : w.BottomsOut env.slot) : Acc (fun u w => env.Stays w u) w := by
  have hwf : WellFounded fun m n : Fin limit => env.RefersOn v n m := by
    have htrans : IsTrans (Fin limit) fun m n => env.RefersOn v n m := ⟨fun _ _ _ h h' => h'.trans h⟩
    have hirrefl : Std.Irrefl fun m n : Fin limit => env.RefersOn v n m :=
      ⟨fun n ⟨hreach, r, hr, hstays⟩ => hguarded n hreach r hr hstays⟩
    exact Finite.wellFounded_of_trans_of_irrefl _
  have hroot : ∀ n : Fin limit, env.Reaches v (.selfRef (some n.val)) →
      ∀ r, env.root n = some r → Acc (fun u w => env.Stays w u) r := by
    intro n
    induction n using hwf.induction with
    | _ n ih =>
      intro hreach r hr
      refine acc_stays_of_roots (hroots n r hreach hr) fun m r' hm hr' => ?_
      refine ih ⟨m, hlimit m r' hr'⟩ ⟨hreach, r, hr, hm⟩ ?_ r' hr'
      exact (hreach.tail (.root hr)).trans (reaches_of_stays hm)
  refine acc_stays_of_roots hw fun n r hn hr => ?_
  exact hroot ⟨n, hlimit n r hr⟩ (hreach.trans (reaches_of_stays hn)) r hr

/-- **A check cannot stay at a value for ever** in what a grounded validator leads to, where the references
that it comes to are guarded and there are finitely many sessions. -/
theorem acc_stays {limit : Nat} (hlimit : ∀ n r, env.root n = some r → n < limit)
    (hroots : ∀ n r, env.root n = some r → r.Grounded env.slot) (hv : v.Grounded env.slot)
    (hguarded : ∀ n, env.Reaches v (.selfRef (some n)) → env.Guarded n) (hw : env.Reaches v w) :
    Acc (fun u w => env.Stays w u) w :=
  acc_stays_of_bottomsOut hlimit (fun n r _ hr => (hroots n r hr).bottomsOut) hguarded hw
    (grounded_of_reaches hroots hv hw).bottomsOut

/-- **References are guarded if none stands bare in the root of its own session**, where sessions refer to
earlier ones only: the way of a check that stays at a value then leads to earlier and earlier sessions. -/
theorem guarded_of_not_bares (horder : ∀ n r m, env.root n = some r → r.Holds env.slot (some m) → m ≤ n)
    (hbare : ∀ n r, env.Reaches v (.selfRef (some n)) → env.root n = some r →
      ¬ r.Bares env.slot (some n))
    {n : Nat} (hn : env.Reaches v (.selfRef (some n))) : env.Guarded n := by
  intro r hr hstays
  have hearlier : ∀ u, ReflTransGen env.Stays r u →
      ∃ m ≤ n, ∃ r', env.Reaches v (.selfRef (some m)) ∧ env.root m = some r' ∧
        ReflTransGen (Opens env.slot) r' u := by
    intro u hu
    induction hu with
    | refl => exact ⟨n, Nat.le_refl n, r, hn, hr, .refl⟩
    | @tail u u' hu hstep ih =>
      obtain ⟨m, hm, r', hreach, hr', hopens⟩ := ih
      cases hstep with
      | opens h => exact ⟨m, hm, r', hreach, hr', hopens.tail h⟩
      | @root k _ hr'' =>
        have hk : k ≤ m := horder m r' k hr' (Bares.holds hopens)
        refine ⟨k, Nat.le_trans hk hm, u', ?_, hr'', .refl⟩
        exact (hreach.tail (.root hr')).trans
          (reaches_of_stays (ReflTransGen.mono (fun _ _ => Stays.opens) _ _ hopens))
  obtain ⟨m, hm, r', hreach, hr', hopens⟩ := hearlier _ hstays
  obtain rfl : m = n := Nat.le_antisymm hm (horder m r' n hr' (Bares.holds hopens))
  exact hbare m r' hreach hr' hopens

end Env

end Conformance
