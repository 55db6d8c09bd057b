import Conformance.Proofs.Validator.Agreement
import Conformance.Proofs.Validator.Release
import Conformance.Proofs.Walk.Agreement

/-!
# Absence, when a descriptor is written and later

Whether a key is listed as required in a descriptor is found out once, when the descriptor is written,
and at that time references may still belong to no session, or to sessions of their own.  What admits
absence then is not refused when it is absent from a value later.

## Main Definitions

* `Env.ScopedFor` — the sessions of which references lead back to one tree, or to roots that admit
  absence only if another root does not refuse it

## Main statements

* `Env.exists_admitsAbsence` — there is always an answer to whether absence is admitted
* `Env.check_missing_mono` — a check of absence that ends in time ends alike with more time
* `Env.ScopedFor.missing_ne_false` — what admits absence in some surroundings does not refuse it where
  its references belong to a single session
* `Validator.SelfContained.missing_ne_false` — the same of a tree with references of one session, or of none
-/

namespace Conformance

/-! ## Answers about absence -/

namespace Env

variable {env : Env} {key : Key} {v : Validator}

/-- There is always an answer to whether absence is admitted. -/
theorem exists_admitsAbsence (env : Env) (key : Key) (v : Validator) :
    ∃ b, (env.admitsAbsence key v).outcome = .ok b := by
  obtain ⟨b, hb, -⟩ := Walk.outcome_guarded
    (fun f => .absenceCheckCrashed key.written f.message f.kind) (env.check depthLimit v .missing "")
  exact ⟨b, hb⟩

/-- What is admitted to be absent was accepted by a check. -/
theorem check_of_admitsAbsence (h : (env.admitsAbsence key v).outcome = .ok true) :
    (env.check depthLimit v .missing "").outcome = .ok true := by
  obtain ⟨b, hb, htrue⟩ := Walk.outcome_guarded
    (fun f => .absenceCheckCrashed key.written f.message f.kind) (env.check depthLimit v .missing "")
  exact htrue (Except.ok.inj (hb.symm.trans h))

end Env

/-! ## More time -/

namespace Validator

variable {env : Env} {follow follow' : Validator → Check} {path path' : String}

/-- One layer of a check of absence confirms another one if what it hands on to does. -/
theorem check_missing_confirms
    (hfollow : ∀ v, (follow v .missing path).Confirms (follow' v .missing path')) (v : Validator) :
    (v.check env follow .missing path).Confirms (v.check env follow' .missing path') := by
  induction v using treeInduction with
  | leaf rule => exact .refl _
  | delegate t =>
    rw [check, check]
    cases env.slot t.id with
    | validator h => exact hfollow h.validator
    | _ => exact .refl _
  | delegateTo t copy ih => exact ih
  | anyOf vs ih =>
    rw [check, check, checks_eq_map, checks_eq_map, Check.anyOf, Check.anyOf, Walk.any_map,
      Walk.any_map]
    exact .any ih
  | object ps => exact .refl _
  | arrayOf items least most => exact .refl _
  | selfRef own =>
    intro b hb
    rw [check] at hb ⊢
    cases hroot : own.bind env.root with
    | none =>
      rw [hroot] at hb
      exact hb
    | some r =>
      rw [hroot] at hb
      exact hfollow r b hb
  | external e => exact .refl _

end Validator

/-- **A check of absence that ends in time ends alike with more time**, wherever it is made. -/
theorem Env.check_missing_mono {env : Env} {depth depth' : Nat} (hle : depth ≤ depth')
    (v : Validator) (path path' : String) :
    (env.check depth v .missing path).Confirms (env.check depth' v .missing path') := by
  induction depth generalizing depth' v with
  | zero => exact nofun
  | succ depth ih =>
    cases depth' with
    | zero => omega
    | succ depth' =>
      exact Validator.check_missing_confirms (fun v => ih (Nat.le_of_succ_le_succ hle) v) v

/-! ## Other sessions -/

namespace Validator

variable {env env' : Env} {n : Nat}

/-- **One layer of a check of absence.**  No object pattern and no array accepts absence, and a choice
accepts it by one of its alternatives. -/
theorem check_missing_ne_false {follow follow' : Validator → Check} {path path' : String}
    (htolerance : env'.stepTolerance = env.stepTolerance) {v : Validator}
    (hv : v.release.SelfContained none)
    (hroots : ∀ own, v.Holds env.slot own →
      (check env follow (.selfRef own) .missing path).outcome = .ok true →
      (check env' follow' (.selfRef (some n)) .missing path').outcome ≠ .ok false)
    (h : (v.check env follow .missing path).outcome = .ok true) :
    ((v.release.adopt (some n)).check env' follow' .missing path').outcome ≠ .ok false := by
  induction v using treeInduction with
  | leaf rule =>
    have hsame : ((adopt (some n) (release (.leaf rule))).check env' follow' .missing path').outcome =
        ((Validator.leaf rule).check env follow .missing path).outcome := by
      rw [release, adopt, check, check, htolerance]
    rw [hsame, h]
    intro hfalse
    cases hfalse
  | anyOf vs ih =>
    rw [release, releaseEach_eq_map] at hv ⊢
    cases hv with
    | anyOf hvs =>
    rw [check, checks_eq_map, Check.anyOf, Walk.any_map] at h
    rw [adopt, adoptEach_eq_map, check, checks_eq_map, Check.anyOf, Walk.any_map, Walk.any_map,
      Walk.any_map]
    obtain ⟨v, hmem, htrue⟩ := Walk.exists_of_any_eq_ok_true h
    intro hfalse
    refine ih v hmem (List.forall_mem_map.mp hvs v hmem) (fun own hown => ?_) htrue
      (Walk.any_eq_ok_false_iff.mp hfalse v hmem)
    exact hroots own ((holds_anyOf vs).mpr ⟨v, hmem, hown⟩)
  | object ps => cases h
  | arrayOf items least most => cases h
  | selfRef own => exact hroots own ((holds_selfRef own).mpr rfl) h
  | delegate t => cases hv
  | delegateTo t copy => cases hv
  | external e => cases hv

/-- **Whether a portable validator accepts absence** is the same in all surroundings in which its
references do not accept it. -/
theorem Portable.check_missing_eq {own own' : Option Nat} {follow follow' : Validator → Check}
    {path path' : String} (htolerance : env'.stepTolerance = env.stepTolerance)
    (href : (check env follow (.selfRef own) .missing path).outcome = .ok false)
    (href' : (check env' follow' (.selfRef own') .missing path').outcome = .ok false)
    {v : Validator} (hv : v.Portable) :
    ((v.adopt own).check env follow .missing path).outcome =
      ((v.adopt own').check env' follow' .missing path').outcome := by
  induction hv with
  | leaf _ =>
    rw [adopt, adopt, check, check, htolerance]
  | @anyOf vs _ _ ih =>
    rw [adopt, adopt, adoptEach_eq_map, adoptEach_eq_map, check, check, checks_eq_map, checks_eq_map,
      Check.anyOf, Check.anyOf, Walk.any_map, Walk.any_map, Walk.any_map, Walk.any_map]
    exact Walk.outcome_any_congr ih
  | object _ _ _ => rfl
  | arrayOf _ _ _ => rfl
  | selfRef => exact href.trans href'.symm

end Validator

/-- **Sessions whose references lead back to the tree `u`**, with references of these sessions, or to
roots that admit absence, within a number of steps, only if `root'` in other surroundings does not
refuse it. -/
def Env.ScopedFor (env env' : Env) (u root' : Validator) (limit : Nat) (S : Nat → Prop) : Prop :=
  ∀ m r, S m → env.root m = some r →
    (r.release = u.release ∧ ∀ m', r.Holds env.slot (some m') → S m') ∨
    ∀ depth path, depth ≤ limit → (env.check depth r .missing path).outcome = .ok true →
      ∀ depth' path', (env'.check depth' root' .missing path').outcome ≠ .ok false

/-- **What admits absence is not refused later**, when all its references belong to the session `n`
and lead to the tree of its root. -/
theorem Env.ScopedFor.missing_ne_false {env env' : Env} {u root' v : Validator} {S : Nat → Prop}
    {n limit : Nat} (hscoped : env.ScopedFor env' u root' limit S)
    (hu : u.release.SelfContained none) (htolerance : env'.stepTolerance = env.stepTolerance)
    (hn : env'.root n = some root') (htree : root'.adopt none = u.release.adopt (some n))
    (hv : v.release.SelfContained none) (hS : ∀ m, v.Holds env.slot (some m) → S m) {depth : Nat}
    {path : String} (hle : depth ≤ limit)
    (h : (env.check depth v .missing path).outcome = .ok true) (depth' : Nat) (path' : String) :
    (env'.check depth' (v.release.adopt (some n)) .missing path').outcome ≠ .ok false := by
  -- how far the later check gets does not matter, so the induction is on the depth of the first one
  induction depth generalizing v depth' path path' with
  | zero => cases h
  | succ depth ih =>
    cases depth' with
    | zero => exact nofun
    | succ depth' =>
      refine Validator.check_missing_ne_false htolerance hv (fun own hown hleft => ?_) h
      -- an unbound reference does not admit absence, and a bound one leads to the root of its session
      cases own with
      | none => cases hleft
      | some m =>
        rw [Validator.check, Option.bind_some] at hleft
        rw [Validator.check, Option.bind_some, hn]
        cases hr : env.root m with
        | none =>
          rw [hr] at hleft
          cases hleft
        | some r =>
          rw [hr] at hleft
          rcases hscoped m r (hS m hown) hr with ⟨hsame, hholds⟩ | hadmits
          · have hroot : env'.check depth' root' = env'.check depth' (r.release.adopt (some n)) :=
              check_eq_of_adopt_eq (by rw [htree, hsame, Validator.adopt_adopt_some]) depth'
            dsimp only
            rw [hroot]
            exact ih (hsame ▸ hu) hholds (Nat.le_of_succ_le hle) hleft depth' path'
          · exact hadmits depth path (Nat.le_of_succ_le hle) hleft depth' path'

namespace Validator

/-- The references of a self-contained validator are those of the session that has taken them over. -/
theorem SelfContained.adopt {own : Option Nat} {v : Validator} (hv : v.SelfContained none) :
    (v.adopt own).SelfContained own := by
  induction hv with
  | leaf rule => exact .leaf rule
  | anyOf _ ih =>
    rw [Validator.adopt, adoptEach_eq_map]
    exact .anyOf (List.forall_mem_map.mpr ih)
  | object _ ih =>
    rw [Validator.adopt, adoptProperties_eq_map]
    exact .object (List.forall_mem_map.mpr ih)
  | arrayOf least most _ ih => exact .arrayOf least most ih
  | selfRef => exact .selfRef

/-- What differs in identities only has the same references. -/
theorem SelfContained.of_adopt_eq {own : Option Nat} {v w : Validator} (hv : v.SelfContained own)
    (h : w.adopt none = v.adopt none) : w.SelfContained own := by
  refine .of_adopt_none ?_
  rw [h, ← hv.adopt_release]
  exact hv.release.adopt

/-- Absence is asked about what is left of a validator, with the references of its session, as about the
validator itself. -/
theorem SelfContained.admitsAbsence_release {own : Option Nat} {v : Validator}
    (hv : v.SelfContained own) (env : Env) (key : Key) :
    env.admitsAbsence key (v.release.adopt own) = env.admitsAbsence key v := by
  rw [hv.adopt_release, Env.admitsAbsence_adopt_none]

/-- **What admits absence is not refused later.**  The references of `own` lead to the root `root` as
far as they lead anywhere, and those of `n` lead to the same tree with references of `n`. -/
theorem SelfContained.missing_ne_false {env env' : Env} {own : Option Nat} {n : Nat}
    {root root' v : Validator} (hroot : root.SelfContained none)
    (htolerance : env'.stepTolerance = env.stepTolerance)
    (hown : ∀ m r, own = some m → env.root m = some r → r.adopt none = root.adopt own)
    (hn : env'.root n = some root') (htree : root'.adopt none = root.adopt (some n))
    (hv : v.SelfContained none) {depth : Nat} {path : String}
    (h : (env.check depth (v.adopt own) .missing path).outcome = .ok true) (depth' : Nat)
    (path' : String) :
    (env'.check depth' (v.adopt (some n)) .missing path').outcome ≠ .ok false := by
  have hscoped : env.ScopedFor env' root root' depth (own = some ·) := by
    intro m r hm hr
    have hbare : r.adopt none = root.adopt own := hown m r hm hr
    refine .inl ⟨by rw [← release_adopt none r, hbare, release_adopt], fun m' hholds => ?_⟩
    rw [← holds_adopt_none, hbare] at hholds
    exact (hroot.adopt.eq_of_holds hholds).symm
  have hrelease : ∀ w : Validator, w.SelfContained none →
      w.release.adopt (some n) = w.adopt (some n) :=
    fun w hw => by rw [hw.release_eq, adopt_adopt_none]
  have hrefuses := hscoped.missing_ne_false hroot.release htolerance hn
    (by rw [htree, hrelease root hroot]) (v := v.adopt own)
    (by rw [release_adopt]; exact hv.release)
    (fun m hholds => (hv.adopt.eq_of_holds hholds).symm) (Nat.le_refl depth) h depth' path'
  rwa [release_adopt, hrelease v hv] at hrefuses

end Validator

end Conformance
