import Conformance.Proofs.Validator.Decision

/-!
# Which mappings an object pattern accepts

What a check answers does not depend on the path at which a value is found.  So whether an object
pattern accepts a mapping is told by the rule of object patterns, and what stands under the keys is
asked about values alone.

## Main Definitions

* `Check.PathFree` — a check whose outcome does not depend on the path
* `Env.Takes` — a validator accepts a value

## Main statements

* `Env.check_pathFree` — the check of a validator is such a check
* `Env.takes_object_iff` — an object pattern accepts the mappings that conform to its keys
-/

namespace Conformance

namespace Walk

/-- Guarding, the verdict that a walk accepts stays. -/
theorem guarded_eq_ok_true_iff {w : Walk Bool} {event : Fault → Event} :
    (w.guarded event).outcome = .ok true ↔ w.outcome = .ok true := by
  obtain ⟨events, found, outcome⟩ := w
  cases outcome with
  | ok b => exact Iff.rfl
  | error f => exact iff_of_false nofun nofun

end Walk

/-! ## Paths -/

/-- **A check whose outcome does not depend on the path** at which a value is found. -/
def Check.PathFree (c : Check) : Prop :=
  ∀ x path path', (c x path).outcome = (c x path').outcome

namespace Check.PathFree

/-- A choice between such checks. -/
theorem anyOf {cs : List Check} (h : ∀ c ∈ cs, c.PathFree) : (Check.anyOf cs).PathFree :=
  fun x path path' => Walk.outcome_any_congr fun c hc => h c hc x path path'

/-- An array of items that such a check looks at. -/
theorem arrayOf {c : Check} (h : c.PathFree) (least : Nat) (most : Option Nat) :
    (Check.arrayOf least most c).PathFree := by
  intro x path path'
  cases x with
  | seq form tag items =>
    unfold Check.arrayOf
    dsimp only
    split
    · exact Walk.outcome_all_congr fun e _ => h e.1 _ _
    · rfl
  | _ => rfl

/-- An object pattern of such checks. -/
theorem object {ps : List (Property Check)} (h : ∀ p ∈ ps, p.rule.PathFree) :
    (Check.object ps).PathFree := by
  intro x path path'
  cases x with
  | mapping form tag es =>
    have hentries : (Check.entries ps path es).outcome = (Check.entries ps path' es).outcome :=
      Walk.outcome_all_congr fun e _ => Walk.outcome_all_congr fun p hp =>
        h p (mem_of_mem_claimants hp) e.2 _ _
    unfold Check.object
    dsimp only
    rw [Walk.outcome_bind, Walk.outcome_bind, hentries]
  | _ => rfl

end Check.PathFree

/-- One layer of a validator, if what is followed does not depend on the path. -/
theorem Validator.check_pathFree {env : Env} {follow : Validator → Check}
    (hfollow : ∀ v, (follow v).PathFree) (v : Validator) : (v.check env follow).PathFree := by
  induction v using treeInduction with
  | leaf rule => exact fun x path path' => rfl
  | delegate t =>
    intro x path path'
    rw [check]
    dsimp only
    split
    · exact hfollow _ x path path'
    · rfl
  | delegateTo t copy ih => exact ih
  | anyOf vs ih =>
    rw [check, checks_eq_map]
    exact .anyOf (List.forall_mem_map.mpr ih)
  | object ps ih =>
    rw [check, propertyChecks_eq_map]
    exact .object (List.forall_mem_map.mpr ih)
  | arrayOf items least most ih => exact ih.arrayOf least most
  | selfRef session =>
    intro x path path'
    rw [check]
    dsimp only
    split
    · exact hfollow _ x path path'
    · rfl
  | external e => exact fun x path path' => rfl

namespace Env

variable (env : Env)

/-- **The outcome of a check does not depend on the path.** -/
theorem check_pathFree (depth : Nat) (v : Validator) : (env.check depth v).PathFree := by
  induction depth generalizing v with
  | zero => exact fun x path path' => rfl
  | succ depth ih => exact Validator.check_pathFree ih v

/-- **A validator accepts a value.** -/
def Takes (v : Validator) (x : Value) : Prop := (env.validate v x).outcome = .ok true

variable {env}

/-- A value is accepted if a check accepts it, at whatever path. -/
theorem takes_iff (v : Validator) (x : Value) (path : String) :
    env.Takes v x ↔ (env.check depthLimit v x path).outcome = .ok true := by
  rw [Takes, validate, Walk.guarded_eq_ok_true_iff, env.check_pathFree depthLimit v x Path.root path]

/-- The identities that parts keep are nothing to what is accepted. -/
theorem takes_congr {v w : Validator} (h : v.adopt none = w.adopt none) (x : Value) :
    env.Takes v x ↔ env.Takes w x := by
  rw [takes_iff v x Path.root, takes_iff w x Path.root, check_eq_of_adopt_eq h]

/-! ## Object patterns -/

/-- The number of properties of a key is accepted exactly if the key is satisfied. -/
theorem count_eq_ok_true_iff {p : Property Validator} {names : List String} :
    (Check.count names (p.map (env.check depthLimit))).outcome = .ok true ↔
      p.Judged env.Takes names := by
  unfold Check.count Property.Judged
  rw [Property.key_map, Property.rule_map]
  cases p.key.judge (p.key.count names) with
  | allowed => simp
  | violated expected => simp
  | absent =>
    dsimp only
    rw [absenceWalk, Walk.guarded_eq_ok_true_iff, takes_iff p.rule .missing ""]
    simp

/-- **An object pattern accepts the mappings that conform to its keys.** -/
theorem takes_object_iff {ps : List (Property Validator)} {form : MapForm} {tag : Nat}
    {es : List (Value × Value)} :
    env.Takes (.object ps) (.mapping form tag es) ↔ Conforms env.Takes ps es := by
  have hchecks : env.check depthLimit (.object ps) = Check.object (ps.map (.map (env.check depthLimit))) := by
    show (Validator.object ps).check env (env.check 999) = _
    rw [Validator.check, Validator.propertyChecks_eq_map]
    rfl
  rw [takes_iff _ _ Path.root, hchecks, Check.object_mapping_eq_ok_true_iff,
    Check.entries_eq_ok_true_iff, conforms_iff]
  refine and_congr (forall₂_congr fun e _ => ?_) ?_
  · rw [claimants_map (Property.key_map _), List.forall_mem_map]
    refine forall₂_congr fun p _ => ?_
    rw [takes_iff p.rule e.2, Property.rule_map]
  · rw [specific_map (Property.key_map _), List.forall_mem_map]
    exact forall₂_congr fun p _ => count_eq_ok_true_iff

end Env

end Conformance
