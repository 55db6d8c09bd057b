import Conformance.Proofs.Validator.ComingBack

/-!
# Validators that mirror others

A validator that comes back from a descriptor is not the one that went into it: keys are written
differently and stand in another order, and references mean another root.  It mirrors the old one in
that their checks agree as soon as the checks of the two roots do.

## Main Definitions

* `Env.Facing` — two surroundings in which references of two sessions agree, and in which no check
  refuses the absence of what admitted absence when the descriptor was written
* `Validator.Mirrors` — a validator that agrees with another one in facing surroundings
* `Property.Mirrors` — the same for keys of object patterns

## Main statements

* `Validator.Mirrors.object`, `Validator.Mirrors.anyOf`, … — validators put together from mirroring
  parts mirror each other
* `Validator.Mirrors.check_agree` — a root that mirrors another one agrees with it, to every depth
* `Validator.Mirrors.validate_eq` — and gives the same verdicts
-/

namespace Conformance

/-- **Two surroundings face each other**: the references of `n` in one agree with those of `n'` in the
other, and where a check answered to a key that absence is admitted, no check in the first refuses
it. -/
structure Env.Facing (absent : Key → Validator → Walk Bool) (n n' : Nat) (env env' : Env)
    (follow follow' : Validator → Check) : Prop where
  stepTolerance : env'.stepTolerance = env.stepTolerance
  roots : Check.Agree (Validator.check env follow (.selfRef (some n)))
    (Validator.check env' follow' (.selfRef (some n')))
  absent : ∀ k v, v.SelfContained none → (absent k v).outcome = .ok true →
    ¬ ((v.adopt (some n)).check env follow .missing "").Ends false

/-- **A validator mirrors another one**: where surroundings face each other, its check agrees with that
of the other once a session has taken over the references of the other. -/
def Validator.Mirrors (absent : Key → Validator → Walk Bool) (n' : Nat) (v w : Validator) : Prop :=
  ∀ n env env' follow follow', Env.Facing absent n n' env env' follow follow' →
    Check.Agree ((v.adopt (some n)).check env follow) (w.check env' follow')

/-- **A key mirrors another one** of an object pattern: it says the same, given that absence was admitted,
and the rule under it mirrors the other. -/
structure Property.Mirrors (absent : Key → Validator → Walk Bool) (n' : Nat)
    (p q : Property Validator) : Prop where
  key : Key.SaysSame ((absent p.key p.rule).outcome = .ok true) p.key q.key
  rule : Validator.Mirrors absent n' p.rule q.rule

namespace Validator.Mirrors

variable {absent : Key → Validator → Walk Bool} {n' : Nat}

/-! ## Leaves -/

/-- A rule that comes back with the same meaning is mirrored. -/
theorem leaf {rule : Leaf} {w : Validator} (h : rule.ComesBackAs w) (hrule : rule.IsExact) :
    Mirrors absent n' (.leaf rule) w := by
  intro n env env' follow follow' hfacing x _ path
  exact Walk.agree_of_outcome_eq (h.outcome_check hrule hfacing.stepTolerance x path).symm

/-- A reference mirrors a reference of the other session. -/
theorem selfRef : Mirrors absent n' (.selfRef none) (.selfRef (some n')) :=
  fun _ _ _ _ _ hfacing => hfacing.roots

/-! ## Choices, arrays and object patterns -/

/-- Choices between validators that mirror each other mirror each other. -/
theorem anyOf {vs ws : List Validator} (h : List.Forall₂ (Mirrors absent n') vs ws) :
    Mirrors absent n' (.anyOf vs) (.anyOf ws) := by
  intro n env env' follow follow' hfacing
  rw [adopt, check, check, checks_eq_map, checks_eq_map, adoptEach_eq_map, List.map_map]
  refine .anyOf (List.forall₂_map_left_iff.mpr (List.forall₂_map_right_iff.mpr ?_))
  exact h.imp fun v w hmirrors => hmirrors n env env' follow follow' hfacing

/-- Arrays of validators that mirror each other mirror each other. -/
theorem arrayOf {v w : Validator} (h : Mirrors absent n' v w) (least : Nat) (most : Option Nat) :
    Mirrors absent n' (.arrayOf v least most) (.arrayOf w least most) := by
  intro n env env' follow follow' hfacing
  rw [adopt, check, check]
  exact .arrayOf (h n env env' follow follow' hfacing) least most

/-- **Object patterns whose keys mirror each other mirror each other**, in whatever order. -/
theorem object {ps qs : List (Property Validator)}
    (hkeys : ∀ p ∈ ps, Key.ofWritten p.key.written = .ok p.key)
    (hmembers : ps.Pairwise fun p q => p.key.member ≠ q.key.member)
    (hrules : ∀ p ∈ ps, p.rule.SelfContained none)
    (hforth : ∀ p ∈ ps, ∃ q ∈ qs, Property.Mirrors absent n' p q)
    (hback : ∀ q ∈ qs, ∃ p ∈ ps, Property.Mirrors absent n' p q) :
    Mirrors absent n' (.object ps) (.object qs) := by
  intro n env env' follow follow' hfacing
  rw [adopt, check, check, propertyChecks_eq_map, propertyChecks_eq_map, adoptProperties_eq_map,
    List.map_map]
  have hagree : ∀ p ∈ ps, ∀ q, Property.Mirrors absent n' p q →
      Property.Agree ((p.map (adopt (some n))).bare.map (check env follow))
        (q.map (check env' follow')) := by
    intro p hp q hmirrors
    refine ⟨hmirrors.key.imp fun _ _ hadmits => ?_, hmirrors.rule n env env' follow follow' hfacing⟩
    exact hfacing.absent p.key p.rule (hrules p hp) hadmits
  have hkey : ∀ p : Property Validator,
      ((p.map (adopt (some n))).bare.map (check env follow)).key = p.key := fun _ => rfl
  refine Check.agree_object ⟨?_, ?_⟩ (Key.catchAll_unique hkey hmembers)
    (Key.forall_isSingle hkey hkeys)
  · refine List.forall_mem_map.mpr fun p hp => ?_
    obtain ⟨q, hq, hmirrors⟩ := hforth p hp
    exact ⟨_, List.mem_map_of_mem hq, hagree p hp q hmirrors⟩
  · refine List.forall_mem_map.mpr fun q hq => ?_
    obtain ⟨p, hp, hmirrors⟩ := hback q hq
    exact ⟨_, List.mem_map_of_mem hp, hagree p hp q hmirrors⟩

end Validator.Mirrors

/-- **What a validator is rebuilt as mirrors it**, if what its rules come back as does and absence was
answered to be admitted where it is taken to be. -/
theorem Validator.RebuiltAs.mirrors {back : Leaf → Validator → Prop} {admitted : Key → Validator → Prop}
    {absent : Key → Validator → Walk Bool} {n : Nat} {v w : Validator}
    (h : RebuiltAs back admitted n v w) (hback : ∀ rule u, back rule u → Mirrors absent n (.leaf rule) u)
    (hadmitted : ∀ k u, admitted k u → (absent k u).outcome = .ok true) : Mirrors absent n v w := by
  induction h with
  | leaf hrule => exact hback _ _ hrule
  | @anyOf es _ ih =>
    refine .anyOf (List.forall₂_map_left_iff.mpr (List.forall₂_map_right_iff.mpr ?_))
    exact List.forall₂_same.mpr ih
  | @object ps es hkeys hmembers hcolumn hsame hrules ih =>
    obtain ⟨hforth, hback⟩ := forth_back (R := Property.Mirrors absent n) (f := id) (g := id) hcolumn
      fun e he => ⟨(hsame e he).imp fun _ _ => hadmitted _ _, ih e he⟩
    rw [List.map_id] at hforth hback
    have hcontained := (RebuiltAs.object hkeys hmembers hcolumn hsame hrules).selfContained_none
    cases hcontained with
    | object hcontained =>
    refine .object hkeys hmembers hcontained ?_ ?_
    · simpa using hforth
    · simpa using hback
  | arrayOf least most _ ih => exact .arrayOf ih least most
  | selfRef => exact .selfRef

/-- **What a validator comes back as mirrors it**, if its rules come back with the same meaning and
absence was answered to be admitted where it is taken to be. -/
theorem Validator.ComesBackAs.mirrors {good : Leaf → Prop} {admitted : Key → Validator → Prop}
    {absent : Key → Validator → Walk Bool} {n : Nat} {v w : Validator}
    (h : ComesBackAs good admitted n v w) (hgood : ∀ rule, good rule → rule.IsExact)
    (hadmitted : ∀ k u, admitted k u → (absent k u).outcome = .ok true) : Mirrors absent n v w :=
  RebuiltAs.mirrors h (fun rule _ hrule => .leaf hrule.2 (hgood rule hrule.1)) hadmitted

/-! ## Roots that mirror each other -/

/-- **A root that mirrors another one agrees with it**, to every depth, where the references of both
sessions lead back to these roots. -/
theorem Validator.Mirrors.check_agree {absent : Key → Validator → Walk Bool} {n n' : Nat}
    {v w root root' : Validator} {env env' : Env} (hmirrors : Mirrors absent n' v w)
    (htolerance : env'.stepTolerance = env.stepTolerance)
    (hroot : env.root n = some root) (htree : root.adopt none = v.adopt (some n))
    (hroot' : env'.root n' = some root') (htree' : root'.adopt none = w.adopt none)
    (habsent : ∀ k u, u.SelfContained none → (absent k u).outcome = .ok true →
      ∀ depth, ¬ (env.check depth (u.adopt (some n)) .missing "").Ends false) (depth : Nat) :
    Check.Agree (env.check depth root) (env'.check depth root') := by
  have hleads : env.LeadsTo n root (v.adopt (some n)) := ⟨hroot, by rw [htree, adopt_adopt_some]⟩
  have hleads' : env'.LeadsTo n' root' w := ⟨hroot', htree'⟩
  refine hleads.check_rel hleads' (fun x _ path b b' hb _ => ?_) (fun depth hroots => ?_) depth
  · cases hb.1
  · exact hmirrors n env env' _ _
      ⟨htolerance, hroots, fun k u hu hadmits => habsent k u hu hadmits (depth + 1)⟩

/-- **A part that mirrors a part of the other root** agrees with it, to every depth. -/
theorem Validator.Mirrors.part_agree {absent : Key → Validator → Walk Bool} {n n' : Nat}
    {v w root root' v₀ w₀ : Validator} {env env' : Env} (hpart : Mirrors absent n' v₀ w₀)
    (hmirrors : Mirrors absent n' v w) (htolerance : env'.stepTolerance = env.stepTolerance)
    (hroot : env.root n = some root) (htree : root.adopt none = v.adopt (some n))
    (hroot' : env'.root n' = some root') (htree' : root'.adopt none = w.adopt none)
    (habsent : ∀ k u, u.SelfContained none → (absent k u).outcome = .ok true →
      ∀ depth, ¬ (env.check depth (u.adopt (some n)) .missing "").Ends false) (depth : Nat) :
    Check.Agree (env.check (depth + 1) (v₀.adopt (some n))) (env'.check (depth + 1) w₀) := by
  have hleads : env.LeadsTo n root (v.adopt (some n)) := ⟨hroot, by rw [htree, adopt_adopt_some]⟩
  have hleads' : env'.LeadsTo n' root' w := ⟨hroot', htree'⟩
  refine hpart n env env' _ _
    ⟨htolerance, ?_, fun k u hu hadmits => habsent k u hu hadmits (depth + 1)⟩
  rw [hleads.check_selfRef, hleads'.check_selfRef]
  exact hmirrors.check_agree htolerance hroot htree hroot' htree' habsent depth

/-- **Validators whose checks agree give the same verdicts** on values in whose mappings no two properties
have one name, where both checks stay calm. -/
theorem Env.validate_eq_of_agree {env env' : Env} {v w : Validator}
    (hagree : Check.Agree (env.check depthLimit v) (env'.check depthLimit w)) {x : Value}
    (hx : x.NamesDiffer) (hcalm : (env.validate v x).IsCalm) (hcalm' : (env'.validate w x).IsCalm) :
    (env'.validate w x).outcome = (env.validate v x).outcome := by
  have hguarded : (env.validate v x).Agree (env'.validate w x) :=
    (hagree x hx Path.root).guarded (fun _ => rfl) fun _ => rfl
  -- both answers are given, and calm walks that agree give the same one
  obtain ⟨b, hb, -⟩ := Walk.outcome_guarded (Env.crashed v) (env.check depthLimit v x Path.root)
  obtain ⟨b', hb', -⟩ := Walk.outcome_guarded (Env.crashed w) (env'.check depthLimit w x Path.root)
  have hsame : b = b' := hguarded b b' ⟨hb, hcalm⟩ ⟨hb', hcalm'⟩
  rw [Env.validate, Env.validate, hb, hb', hsame]

/-- **A root that mirrors another one gives the same verdicts** on values whose mappings have texts as
keys, where both checks stay calm. -/
theorem Validator.Mirrors.validate_eq {absent : Key → Validator → Walk Bool} {n n' : Nat}
    {v w root root' : Validator} {env env' : Env} (hmirrors : Mirrors absent n' v w)
    (htolerance : env'.stepTolerance = env.stepTolerance)
    (hroot : env.root n = some root) (htree : root.adopt none = v.adopt (some n))
    (hroot' : env'.root n' = some root') (htree' : root'.adopt none = w.adopt none)
    (habsent : ∀ k u, u.SelfContained none → (absent k u).outcome = .ok true →
      ∀ depth, ¬ (env.check depth (u.adopt (some n)) .missing "").Ends false)
    {x : Value} (hx : x.TextKeyed) (hcalm : (env.validate root x).IsCalm)
    (hcalm' : (env'.validate root' x).IsCalm) :
    (env'.validate root' x).outcome = (env.validate root x).outcome :=
  Env.validate_eq_of_agree
    (hmirrors.check_agree htolerance hroot htree hroot' htree' habsent depthLimit) hx.namesDiffer hcalm
    hcalm'

end Conformance
