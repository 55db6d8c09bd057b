import Conformance.Proofs.Validator.Adoption
import Conformance.Validator.Explaining

/-!
# Surroundings in which a validator does the same

What a validator does depends on the tree it is, up to the identities of its parts, and on what its
references and delegates lead to.

## Main Definitions

* `Env.AgreeOn` — surroundings that differ nowhere a validator can come to

## Main statements

* `Env.check_eq_of_adopt_eq`, `Env.explain_eq_of_adopt_eq`, `Env.describeTo_eq_of_adopt_eq` — the
  identities that parts keep tell nothing of what a validator does
* `Env.AgreeOn.validate_eq`, `Env.AgreeOn.report_eq`, `Env.AgreeOn.describe_eq` — in surroundings
  that agree on it a validator gives the same verdicts, reports and descriptor
-/

namespace Conformance

/-! ## Identities of parts -/

namespace Check

/-- The check of an object pattern reads no identities. -/
theorem object_map_bare (ps : List (Property Check)) : object (ps.map .bare) = object ps := by
  have hentries : ∀ path es, entries (ps.map .bare) path es = entries ps path es := by
    intro path es
    unfold entries
    simp only [claimants_map Property.key_bare, Walk.all_map, Property.rule_bare]
  have hcount : ∀ names, Walk.all (count names) (specific (ps.map .bare)) =
      Walk.all (count names) (specific ps) := by
    intro names
    rw [specific_map Property.key_bare, Walk.all_map]
    rfl
  funext v path
  cases v <;> simp only [object, hentries, hcount]

end Check

namespace Explain

/-- The explaining check of an object pattern reads the keys and, for its messages, the names of what
stands under them. -/
theorem object_map_bare {absent : Property Validator → Walk Bool} {f : Validator → Validator}
    (hname : ∀ v, (f v).name = v.name) (habsent : ∀ p, absent (p.map f).bare = absent p)
    (keys : List (Property Validator)) (ps : List (Property Check)) :
    object absent (keys.map fun p => (p.map f).bare) (ps.map .bare) = object absent keys ps := by
  have hentries : ∀ path es, entries (ps.map .bare) path es = entries ps path es := by
    intro path es
    unfold entries
    simp only [claimants_map Property.key_bare, Walk.every_map, Property.rule_bare]
  have hstep : ∀ path names p, count absent path names (p.map f).bare = count absent path names p := by
    intro path names p
    simp only [count, Property.key_bare, Property.key_map, Property.rule_bare, Property.rule_map,
      habsent, hname]
  have hcount : ∀ path names,
      Walk.every (count absent path names) (specific (keys.map fun p => (p.map f).bare)) =
        Walk.every (count absent path names) (specific keys) := by
    intro path names
    rw [specific_map (f := fun p => (p.map f).bare) (fun _ => rfl), Walk.every_map]
    exact congrArg (Walk.every · (specific keys)) (funext (hstep path names))
  funext v path
  cases v <;> simp only [object, hentries, hcount]

end Explain

namespace Validator

variable {env : Env}

/-- The check of a validator reads no identities. -/
theorem check_adopt_none (follow : Validator → Check) (v : Validator) :
    (v.adopt none).check env follow = v.check env follow := by
  induction v using treeInduction with
  | leaf rule => rfl
  | delegate t => rfl
  | delegateTo t copy ih => rw [adopt, check, check, ih]
  | anyOf vs ih =>
    rw [adopt, check, check, checks_eq_map, checks_eq_map, adoptEach_eq_map, List.map_map]
    exact congrArg Check.anyOf (List.map_congr_left ih)
  | object ps ih =>
    rw [adopt, check, check, ← Check.object_map_bare (propertyChecks env follow ps),
      propertyChecks_eq_map, propertyChecks_eq_map, adoptProperties_eq_map, List.map_map,
      List.map_map]
    refine congrArg Check.object (List.map_congr_left fun p hp => ?_)
    exact congrArg (Property.mk p.key none) (ih p hp)
  | arrayOf items least most ih => rw [adopt, check, check, ih]
  | selfRef session => cases session <;> rfl
  | external e => rfl

/-- The explaining check of a validator reads no identities. -/
theorem explain_adopt_none {absent : Property Validator → Walk Bool} (follow : Validator → Check)
    (habsent : ∀ p, absent (p.map (adopt none)).bare = absent p) (v : Validator) :
    (v.adopt none).explain env absent follow = v.explain env absent follow := by
  induction v using treeInduction with
  | leaf rule => rfl
  | delegate t => rfl
  | delegateTo t copy ih => rw [adopt, explain, explain, ih]
  | anyOf vs ih =>
    have hname : (anyOf (adoptEach none vs)).name = (anyOf vs).name := name_adopt none (anyOf vs)
    rw [adopt, explain, explain, hname, explainEach_eq_map, explainEach_eq_map, adoptEach_eq_map,
      List.map_map]
    refine congrArg (Explain.anyOf _) (List.map_congr_left fun v hv => ?_)
    rw [Function.comp_apply, name_adopt, ih v hv]
  | object ps ih =>
    rw [adopt, explain, explain, propertyExplains_eq_map, propertyExplains_eq_map,
      adoptProperties_eq_map, List.map_map,
      ← Explain.object_map_bare (name_adopt none) habsent ps (ps.map (.map _)), List.map_map]
    refine congrArg (Explain.object absent _) (List.map_congr_left fun p hp => ?_)
    exact congrArg (Property.mk p.key none) (ih p hp)
  | arrayOf items least most ih => rw [adopt, explain, explain, ih]
  | selfRef session => cases session <;> rfl
  | external e => rfl

mutual

/-- The descriptor of a validator holds no identities, and does not name the session of a
reference. -/
theorem describe_adopt {absent : Key → Validator → Walk Bool} (follow : Validator → Walk Value)
    (session : Option Nat) (v : Validator) :
    (v.adopt session).describe env absent follow =
      v.describe env (fun k u => absent k (u.adopt session)) follow := by
  cases v with
  | leaf rule => rfl
  | delegate t => rfl
  | delegateTo t copy => rw [adopt, describe, describe, describe_adopt follow session copy]
  | anyOf vs => rw [adopt, describe, describe, describeEach_adopt follow session vs]
  | object ps => rw [adopt, describe, describe, describeProperties_adopt follow session ps]
  | arrayOf items least most =>
    rw [adopt, describe, describe, describe_adopt follow session items]
  | selfRef own => cases own <;> rfl
  | external e => rfl

/-- The descriptors of alternatives hold no identities. -/
theorem describeEach_adopt {absent : Key → Validator → Walk Bool} (follow : Validator → Walk Value)
    (session : Option Nat) (vs : List Validator) :
    describeEach env absent follow (adoptEach session vs) =
      describeEach env (fun k u => absent k (u.adopt session)) follow vs := by
  cases vs with
  | nil => rfl
  | cons v vs =>
    rw [adoptEach, describeEach, describeEach, describe_adopt follow session v,
      describeEach_adopt follow session vs]

/-- What is known of the keys of an object pattern holds no identities. -/
theorem describeProperties_adopt {absent : Key → Validator → Walk Bool}
    (follow : Validator → Walk Value) (session : Option Nat) (ps : List (Property Validator)) :
    describeProperties env absent follow (adoptProperties session ps) =
      describeProperties env (fun k u => absent k (u.adopt session)) follow ps := by
  cases ps with
  | nil => rfl
  | cons p ps =>
    obtain ⟨key, label, rule⟩ := p
    rw [adoptProperties, describeProperties, describeProperties, describe_adopt follow session rule,
      describeProperties_adopt follow session ps]

end

end Validator

namespace Env

variable {env : Env} {v w : Validator}

theorem check_adopt_none (depth : Nat) (v : Validator) :
    env.check depth (v.adopt none) = env.check depth v := by
  cases depth with
  | zero => rfl
  | succ depth => exact Validator.check_adopt_none _ v

/-- Validators that differ in identities only check alike. -/
theorem check_eq_of_adopt_eq (h : v.adopt none = w.adopt none) (depth : Nat) :
    env.check depth v = env.check depth w := by
  rw [← check_adopt_none depth v, h, check_adopt_none]

theorem explain_adopt_none (depth : Nat) (v : Validator) :
    env.explain depth (v.adopt none) = env.explain depth v := by
  cases depth with
  | zero => rfl
  | succ depth =>
    refine Validator.explain_adopt_none _ (fun p => ?_) v
    rw [absence, absence, Property.key_bare, Property.rule_bare, Property.rule_map,
      check_adopt_none, Property.key_map]

/-- Validators that differ in identities only explain alike. -/
theorem explain_eq_of_adopt_eq (h : v.adopt none = w.adopt none) (depth : Nat) :
    env.explain depth v = env.explain depth w := by
  rw [← explain_adopt_none depth v, h, explain_adopt_none]

theorem admitsAbsence_adopt_none (key : Key) (v : Validator) :
    env.admitsAbsence key (v.adopt none) = env.admitsAbsence key v := by
  rw [admitsAbsence, admitsAbsence, absence, absence, check_adopt_none]

theorem describeTo_adopt_none (depth : Nat) (v : Validator) :
    env.describeTo depth (v.adopt none) = env.describeTo depth v := by
  cases depth with
  | zero => rfl
  | succ depth =>
    have habsent : (fun k u => env.admitsAbsence k (u.adopt none)) = env.admitsAbsence :=
      funext fun k => funext fun u => admitsAbsence_adopt_none k u
    rw [describeTo, describeTo, Validator.describe_adopt, habsent]

/-- Validators that differ in identities only are described alike. -/
theorem describeTo_eq_of_adopt_eq (h : v.adopt none = w.adopt none) (depth : Nat) :
    env.describeTo depth v = env.describeTo depth w := by
  rw [← describeTo_adopt_none depth v, h, describeTo_adopt_none]

/-- Validators that differ in identities only have the same name. -/
theorem name_eq_of_adopt_eq (h : v.adopt none = w.adopt none) : v.name = w.name := by
  rw [← Validator.name_adopt none v, h, Validator.name_adopt]

/-- Validators that differ in identities only give the same verdicts. -/
theorem validate_eq_of_adopt_eq (h : v.adopt none = w.adopt none) (x : Value) :
    env.validate v x = env.validate w x := by
  have hcrashed : crashed v = crashed w := by
    funext f
    rw [crashed, crashed, name_eq_of_adopt_eq h]
  rw [validate, validate, check_eq_of_adopt_eq h, hcrashed]

/-- Validators that differ in identities only give the same reports. -/
theorem report_eq_of_adopt_eq (h : v.adopt none = w.adopt none) (x : Value) :
    env.report v x = env.report w x := by
  have hcrashed : crashed v = crashed w := by
    funext f
    rw [crashed, crashed, name_eq_of_adopt_eq h]
  have hmismatches : ∀ walk, mismatchesOf v x walk = mismatchesOf w x walk := by
    intro walk
    rw [mismatchesOf, mismatchesOf, name_eq_of_adopt_eq h]
    simp only [internalError, name_eq_of_adopt_eq h]
  rw [report, report, explain_eq_of_adopt_eq h, hcrashed, hmismatches]

/-! ## Surroundings that agree -/

/-- **Surroundings that agree on a validator**: objects of the host and the tolerance are the same,
and so are, up to identities, the roots of all references that a check of the validator comes to. -/
structure AgreeOn (env env' : Env) (v : Validator) : Prop where
  slot : env'.slot = env.slot
  stepTolerance : env'.stepTolerance = env.stepTolerance
  root : ∀ session, env.Reaches v (.selfRef (some session)) →
    (env'.root session).map (Validator.adopt none) = (env.root session).map (Validator.adopt none)

variable {env' : Env}

/-- Surroundings that agree on a validator agree on what a check comes to from it. -/
theorem AgreeOn.next (h : env.AgreeOn env' v) (hnext : env.Next v w) : env.AgreeOn env' w :=
  ⟨h.slot, h.stepTolerance, fun session hreach => h.root session (.head hnext hreach)⟩

theorem AgreeOn.part (h : env.AgreeOn env' v) (hpart : v.Part w) : env.AgreeOn env' w :=
  h.next (.linked (.part hpart))

/-- What is done with the root of a reference that a check comes to is the same. -/
theorem AgreeOn.root_map {α : Type} {session : Nat} {follow follow' : Validator → α}
    (h : env.AgreeOn env' (.selfRef (some session)))
    (hfollow : ∀ r, env.AgreeOn env' r → follow' r = follow r)
    (hbare : ∀ r r', r'.adopt none = r.adopt none → follow' r' = follow' r) :
    (env'.root session).map follow' = (env.root session).map follow := by
  have hroot := h.root session .refl
  cases hold : env.root session with
  | none =>
    rw [hold, Option.map_none, Option.map_eq_none_iff] at hroot
    rw [hroot, Option.map_none, Option.map_none]
  | some r =>
    rw [hold, Option.map_some, Option.map_eq_some_iff] at hroot
    obtain ⟨r', hnew, hbares⟩ := hroot
    rw [hnew, Option.map_some, Option.map_some, hbare r r' hbares, hfollow r (h.next (.root hold))]

end Env

namespace Validator

variable {env env' : Env} {follow follow' : Validator → Check} {v : Validator}

/-- **One layer of a check** in surroundings that agree. -/
theorem check_eq_of_agreeOn (hfollow : ∀ w, env.AgreeOn env' w → follow' w = follow w)
    (hbare : ∀ w w', w'.adopt none = w.adopt none → follow' w' = follow' w)
    (h : env.AgreeOn env' v) : v.check env' follow' = v.check env follow := by
  induction v using treeInduction with
  | leaf rule => rw [check, check, h.stepTolerance]
  | delegate t =>
    rw [check, check, h.slot]
    cases hslot : env.slot t.id with
    | validator handle => exact hfollow handle.validator (h.next (.linked (.live hslot)))
    | _ => rfl
  | delegateTo t copy ih => rw [check, check, ih (h.part (.copy t copy))]
  | anyOf vs ih =>
    rw [check, check, checks_eq_map, checks_eq_map]
    exact congrArg Check.anyOf
      (List.map_congr_left fun v hv => ih v hv (h.part (.alternative hv)))
  | object ps ih =>
    rw [check, check, propertyChecks_eq_map, propertyChecks_eq_map]
    refine congrArg Check.object (List.map_congr_left fun p hp => ?_)
    exact congrArg (Property.mk p.key p.label) (ih p hp (h.part (.property hp)))
  | arrayOf items least most ih => rw [check, check, ih (h.part (.element items least most))]
  | selfRef session =>
    funext x path
    cases session with
    | none => rfl
    | some session =>
      have hroot := h.root_map hfollow hbare
      rw [check, check, Option.bind_some, Option.bind_some]
      cases hold : env.root session <;> cases hnew : env'.root session <;>
        simp_all only [Option.map_none, Option.map_some, Option.some.injEq, reduceCtorEq]
  | external e => rfl

/-- **One layer of an explaining check** in surroundings that agree. -/
theorem explain_eq_of_agreeOn {absent absent' : Property Validator → Walk Bool}
    (hfollow : ∀ w, env.AgreeOn env' w → follow' w = follow w)
    (hbare : ∀ w w', w'.adopt none = w.adopt none → follow' w' = follow' w)
    (habsent : ∀ p : Property Validator, env.AgreeOn env' p.rule → absent' p = absent p)
    (h : env.AgreeOn env' v) : v.explain env' absent' follow' = v.explain env absent follow := by
  induction v using treeInduction with
  | leaf rule => rw [explain, explain, h.stepTolerance]
  | delegate t =>
    rw [explain, explain, h.slot]
    cases hslot : env.slot t.id with
    | validator handle => exact hfollow handle.validator (h.next (.linked (.live hslot)))
    | _ => rfl
  | delegateTo t copy ih => rw [explain, explain, ih (h.part (.copy t copy))]
  | anyOf vs ih =>
    rw [explain, explain, explainEach_eq_map, explainEach_eq_map]
    refine congrArg (Explain.anyOf _) (List.map_congr_left fun v hv => ?_)
    rw [ih v hv (h.part (.alternative hv))]
  | object ps ih =>
    have hchecks : propertyExplains env' absent' follow' ps =
        propertyExplains env absent follow ps := by
      rw [propertyExplains_eq_map, propertyExplains_eq_map]
      refine List.map_congr_left fun p hp => ?_
      exact congrArg (Property.mk p.key p.label) (ih p hp (h.part (.property hp)))
    have hcount : ∀ path names,
        Walk.every (Explain.count absent' path names) (specific ps) =
          Walk.every (Explain.count absent path names) (specific ps) := by
      intro path names
      refine Walk.every_congr fun p hp => ?_
      unfold Explain.count
      rw [habsent p (h.part (.property (mem_of_mem_specific hp)))]
    rw [explain, explain, hchecks]
    funext x path
    cases x <;> simp only [Explain.object, hcount]
  | arrayOf items least most ih => rw [explain, explain, ih (h.part (.element items least most))]
  | selfRef session =>
    funext x path
    cases session with
    | none => rfl
    | some session =>
      have hroot := h.root_map hfollow hbare
      rw [explain, explain, Option.bind_some, Option.bind_some]
      cases hold : env.root session <;> cases hnew : env'.root session <;>
        simp_all only [Option.map_none, Option.map_some, Option.some.injEq, reduceCtorEq]
  | external e => rfl

mutual

/-- **One layer of a descriptor** in surroundings that agree. -/
theorem describe_eq_of_agreeOn {absent absent' : Key → Validator → Walk Bool}
    {follow follow' : Validator → Walk Value}
    (hfollow : ∀ w, env.AgreeOn env' w → follow' w = follow w)
    (habsent : ∀ k w, env.AgreeOn env' w → absent' k w = absent k w)
    (v : Validator) (h : env.AgreeOn env' v) :
    v.describe env' absent' follow' = v.describe env absent follow := by
  cases v with
  | leaf rule => rfl
  | delegate t =>
    rw [describe, describe, h.slot]
    cases hslot : env.slot t.id with
    | validator handle =>
      exact hfollow handle.validator (h.next (.linked (.live hslot)))
    | _ => rfl
  | delegateTo t copy =>
    rw [describe, describe, describe_eq_of_agreeOn hfollow habsent copy (h.part (.copy t copy))]
  | anyOf vs =>
    rw [describe, describe,
      describeEach_eq_of_agreeOn hfollow habsent vs fun v hv => h.part (.alternative hv)]
  | object ps =>
    rw [describe, describe,
      describeProperties_eq_of_agreeOn hfollow habsent ps fun p hp => h.part (.property hp)]
  | arrayOf items least most =>
    rw [describe, describe,
      describe_eq_of_agreeOn hfollow habsent items (h.part (.element items least most))]
  | selfRef session => rfl
  | external e => rfl

/-- The descriptors of alternatives in surroundings that agree on each. -/
theorem describeEach_eq_of_agreeOn {absent absent' : Key → Validator → Walk Bool}
    {follow follow' : Validator → Walk Value}
    (hfollow : ∀ w, env.AgreeOn env' w → follow' w = follow w)
    (habsent : ∀ k w, env.AgreeOn env' w → absent' k w = absent k w)
    (vs : List Validator) (h : ∀ v ∈ vs, env.AgreeOn env' v) :
    describeEach env' absent' follow' vs = describeEach env absent follow vs := by
  cases vs with
  | nil => rfl
  | cons v vs =>
    obtain ⟨hv, hvs⟩ := List.forall_mem_cons.mp h
    rw [describeEach, describeEach, describe_eq_of_agreeOn hfollow habsent v hv,
      describeEach_eq_of_agreeOn hfollow habsent vs hvs]

/-- What is known of the keys of an object pattern in surroundings that agree on what stands under
each. -/
theorem describeProperties_eq_of_agreeOn {absent absent' : Key → Validator → Walk Bool}
    {follow follow' : Validator → Walk Value}
    (hfollow : ∀ w, env.AgreeOn env' w → follow' w = follow w)
    (habsent : ∀ k w, env.AgreeOn env' w → absent' k w = absent k w)
    (ps : List (Property Validator)) (h : ∀ p ∈ ps, env.AgreeOn env' p.rule) :
    describeProperties env' absent' follow' ps = describeProperties env absent follow ps := by
  cases ps with
  | nil => rfl
  | cons p ps =>
    obtain ⟨key, label, rule⟩ := p
    obtain ⟨hrule, hps⟩ := List.forall_mem_cons.mp h
    rw [describeProperties, describeProperties, describe_eq_of_agreeOn hfollow habsent rule hrule,
      describeProperties_eq_of_agreeOn hfollow habsent ps hps, habsent key rule hrule]

end

end Validator

namespace Env.AgreeOn

variable {env env' : Env} {v : Validator}

/-- Surroundings that agree on a validator check it alike, to every depth. -/
theorem check_eq (h : env.AgreeOn env' v) (depth : Nat) : env'.check depth v = env.check depth v := by
  induction depth generalizing v with
  | zero => rfl
  | succ depth ih =>
    exact Validator.check_eq_of_agreeOn (fun _ hw => ih hw)
      (fun _ _ hbare => check_eq_of_adopt_eq hbare depth) h

/-- Surroundings that agree on a validator judge its absence alike. -/
theorem absence_eq (h : env.AgreeOn env' v) (depth : Nat) (key : Key) :
    env'.absence depth key v = env.absence depth key v := by
  rw [absence, absence, h.check_eq depth]

/-- Surroundings that agree on a validator explain it alike, to every depth. -/
theorem explain_eq (h : env.AgreeOn env' v) (depth : Nat) :
    env'.explain depth v = env.explain depth v := by
  induction depth generalizing v with
  | zero => rfl
  | succ depth ih =>
    exact Validator.explain_eq_of_agreeOn (fun _ hw => ih hw)
      (fun _ _ hbare => explain_eq_of_adopt_eq hbare depth)
      (fun p hp => hp.absence_eq (depth + 1) p.key) h

/-- Surroundings that agree on a validator describe it alike, to every depth. -/
theorem describeTo_eq (h : env.AgreeOn env' v) (depth : Nat) :
    env'.describeTo depth v = env.describeTo depth v := by
  induction depth generalizing v with
  | zero => rfl
  | succ depth ih =>
    exact Validator.describe_eq_of_agreeOn (fun _ hw => ih hw)
      (fun k _ hw => hw.absence_eq depthLimit k) v h

/-- **The same verdict** on every value, with the same events. -/
theorem validate_eq (h : env.AgreeOn env' v) (x : Value) : env'.validate v x = env.validate v x := by
  rw [validate, validate, h.check_eq]

/-- **The same report** on every value, with the same events. -/
theorem report_eq (h : env.AgreeOn env' v) (x : Value) : env'.report v x = env.report v x := by
  rw [report, report, h.explain_eq]

/-- **The same descriptor.** -/
theorem describe_eq (h : env.AgreeOn env' v) : env'.describe v = env.describe v :=
  h.describeTo_eq depthLimit

end Env.AgreeOn

end Conformance
