import Conformance.Proofs.Validator.Portable

/-!
# References without their sessions

A descriptor writes every reference in the same way, whatever session it belongs to.  What is left of
a validator when the sessions are forgotten is a validator with references of no session.

## Main Definitions

* `Validator.release` — a validator with its references made references of no session

## Main statements

* `Validator.release_adopt` — whose the references are is nothing to what is left
* `Validator.rebindTo_of_release` — a validator without delegates is rebound by taking over the
  references of no session, whatever other references stand in it
-/

namespace Conformance.Validator

/-! ## Forgetting sessions -/

mutual

/-- A validator with all its references made references of no session.  The identities that parts
under the keys of an object pattern keep are forgotten as well. -/
def release : Validator → Validator
  | leaf rule => leaf rule
  | delegate t => delegate t
  | delegateTo t copy => delegateTo t (release copy)
  | anyOf alternatives => anyOf (releaseEach alternatives)
  | object properties => object (releaseProperties properties)
  | arrayOf items least most => arrayOf (release items) least most
  | selfRef _ => selfRef none
  | external e => external e

/-- `release` on every alternative. -/
def releaseEach : List Validator → List Validator
  | [] => []
  | v :: vs => release v :: releaseEach vs

/-- `release` under every key. -/
def releaseProperties : List (Property Validator) → List (Property Validator)
  | [] => []
  | ⟨key, _, rule⟩ :: ps => ⟨key, none, release rule⟩ :: releaseProperties ps

end

theorem releaseEach_eq_map (vs : List Validator) : releaseEach vs = vs.map release := by
  induction vs with
  | nil => rfl
  | cons v vs ih => rw [releaseEach, ih, List.map_cons]

theorem releaseProperties_eq_map (ps : List (Property Validator)) :
    releaseProperties ps = ps.map fun p => (p.map release).bare := by
  induction ps with
  | nil => rfl
  | cons p ps ih =>
    rw [releaseProperties, ih, List.map_cons]
    rfl

/-- Whoever has taken references over, they are the same once their sessions are forgotten. -/
@[simp] theorem release_adopt (session : Option Nat) (v : Validator) :
    (v.adopt session).release = v.release := by
  induction v using treeInduction with
  | leaf rule => rfl
  | delegate t => rfl
  | delegateTo t copy ih => rw [adopt, release, release, ih]
  | anyOf vs ih =>
    rw [adopt, release, release, releaseEach_eq_map, releaseEach_eq_map, adoptEach_eq_map,
      List.map_map]
    exact congrArg anyOf (List.map_congr_left ih)
  | object ps ih =>
    rw [adopt, release, release, releaseProperties_eq_map, releaseProperties_eq_map,
      adoptProperties_eq_map, List.map_map]
    refine congrArg object (List.map_congr_left fun p hp => ?_)
    exact congrArg (Property.mk p.key none) (ih p hp)
  | arrayOf items least most ih => rw [adopt, release, release, ih]
  | selfRef own => cases own <;> rfl
  | external e => rfl

/-- Sessions are forgotten once. -/
@[simp] theorem release_release (v : Validator) : v.release.release = v.release := by
  induction v using treeInduction with
  | leaf rule => rfl
  | delegate t => rfl
  | delegateTo t copy ih => rw [release, release, ih]
  | anyOf vs ih =>
    rw [release, release, releaseEach_eq_map, releaseEach_eq_map, List.map_map]
    exact congrArg anyOf (List.map_congr_left ih)
  | object ps ih =>
    rw [release, release, releaseProperties_eq_map, releaseProperties_eq_map, List.map_map]
    refine congrArg object (List.map_congr_left fun p hp => ?_)
    exact congrArg (Property.mk p.key none) (ih p hp)
  | arrayOf items least most ih => rw [release, release, ih]
  | selfRef own => rfl
  | external e => rfl

/-- Forgetting sessions changes no name. -/
@[simp] theorem name_release (v : Validator) : v.release.name = v.name := by
  induction v using treeInduction with
  | leaf rule => rfl
  | delegate t => rfl
  | delegateTo t copy => rfl
  | anyOf vs ih =>
    rw [release, name, name, names_eq_map, names_eq_map, releaseEach_eq_map, List.map_map]
    exact congrArg (fun names => "one of [" ++ String.intercalate ", " names ++ "]")
      (List.map_congr_left ih)
  | object ps =>
    rw [release, name, name, releaseProperties_eq_map, List.map_map]
    rfl
  | arrayOf items least most ih => rw [release, name, name, ih]
  | selfRef own => rfl
  | external e => rfl

@[simp] theorem typeName_release (v : Validator) : v.release.typeName = v.typeName := by
  cases v <;> rfl

/-- A self-contained validator without its session has references of no session only. -/
theorem SelfContained.release {own : Option Nat} {v : Validator} (h : v.SelfContained own) :
    v.release.SelfContained none := by
  induction h with
  | leaf rule => exact .leaf rule
  | anyOf _ ih =>
    rw [Validator.release, releaseEach_eq_map]
    exact .anyOf (List.forall_mem_map.mpr ih)
  | object _ ih =>
    rw [Validator.release, releaseProperties_eq_map]
    exact .object (List.forall_mem_map.mpr ih)
  | arrayOf least most _ ih => exact .arrayOf least most ih
  | selfRef => exact .selfRef

/-- Where there are references of no session only, none is changed. -/
theorem SelfContained.release_eq {v : Validator} (h : v.SelfContained none) :
    v.release = v.adopt none := by
  induction h with
  | leaf rule => rfl
  | @anyOf vs _ ih =>
    rw [Validator.release, adopt, releaseEach_eq_map, adoptEach_eq_map]
    exact congrArg Validator.anyOf (List.map_congr_left ih)
  | @object ps _ ih =>
    rw [Validator.release, adopt, releaseProperties_eq_map, adoptProperties_eq_map]
    refine congrArg Validator.object (List.map_congr_left fun p hp => ?_)
    exact congrArg (Property.mk p.key none) (ih p hp)
  | arrayOf least most _ ih => rw [Validator.release, adopt, ih]
  | selfRef => rfl

/-- The session that all references belonged to takes them over again. -/
theorem SelfContained.adopt_release {own : Option Nat} {v : Validator} (h : v.SelfContained own) :
    v.release.adopt own = v.adopt none := by
  induction h with
  | leaf rule => rfl
  | @anyOf vs _ ih =>
    rw [Validator.release, adopt, adopt, releaseEach_eq_map, adoptEach_eq_map, adoptEach_eq_map,
      List.map_map]
    exact congrArg Validator.anyOf (List.map_congr_left ih)
  | @object ps _ ih =>
    rw [Validator.release, adopt, adopt, releaseProperties_eq_map, adoptProperties_eq_map,
      adoptProperties_eq_map, List.map_map]
    refine congrArg Validator.object (List.map_congr_left fun p hp => ?_)
    exact congrArg (Property.mk p.key none) (ih p hp)
  | arrayOf least most _ ih => rw [Validator.release, adopt, adopt, ih]
  | selfRef => cases own <;> rfl

/-! ## Rebinding -/

variable {slot : Nat → Slot} {follow : Validator → Except Fault (Rebound Validator)} {n : Nat}

/-- Where there are no delegates there is nothing to freeze, whatever sessions references belong to. -/
theorem freeze_adopt_of_release {v : Validator} (h : v.release.SelfContained none) :
    freeze slot follow (v.adopt (some n)) = .ok (v.adopt (some n)) := by
  induction v using treeInduction with
  | leaf rule => rfl
  | anyOf vs ih =>
    rw [release, releaseEach_eq_map] at h
    cases h with
    | anyOf hvs =>
    have hfrozen : ∀ w ∈ adoptEach (some n) vs, freeze slot follow w = .ok w := by
      rw [adoptEach_eq_map]
      exact List.forall_mem_map.mpr fun v hv => ih v hv (List.forall_mem_map.mp hvs v hv)
    rw [adopt, freeze, freezeEach_eq_ok_iff.mpr (List.forall₂_same.mpr hfrozen)]
    rfl
  | object ps ih =>
    rw [release, releaseProperties_eq_map] at h
    cases h with
    | object hps =>
    have hfrozen : ∀ p ∈ adoptProperties (some n) ps,
        p.key = p.key ∧ p.label = none ∧ freeze slot follow p.rule = .ok p.rule := by
      rw [adoptProperties_eq_map]
      exact List.forall_mem_map.mpr fun p hp => ⟨rfl, rfl, ih p hp (List.forall_mem_map.mp hps p hp)⟩
    rw [adopt, freeze, freezeProperties_eq_ok_iff.mpr (List.forall₂_same.mpr hfrozen)]
    rfl
  | arrayOf items least most ih =>
    cases h with
    | arrayOf _ _ hitems =>
    rw [adopt, freeze, ih hitems]
    rfl
  | selfRef own => cases own <;> rfl
  | delegate t => cases h
  | delegateTo t copy => cases h
  | external e => cases h

/-- **A validator without delegates is rebound by taking over the references of no session**, without
a fault. -/
theorem rebindTo_of_release {v : Validator} (h : v.release.SelfContained none) (depth : Nat)
    (label : Option Label) :
    ∃ r, rebindTo slot n (depth + 1) label v = .ok r ∧ (r.result v).adopt none = v.adopt (some n) := by
  have hmap : (fun r => (r.result v).adopt none) <$> rebindTo slot n (depth + 1) label v =
      freeze slot (rebindTo slot n depth none) (v.adopt (some n)) := rebind_map_adopt label v
  rw [freeze_adopt_of_release h, Except.map_eq_ok_iff] at hmap
  exact hmap

end Conformance.Validator
