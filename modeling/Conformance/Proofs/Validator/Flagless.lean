import Conformance.Proofs.Descriptor.ComingBack
import Conformance.Proofs.Descriptor.StringSources
import Conformance.Proofs.Validator.Mirroring

/-!
# Validators whose regexes have no flags

A descriptor holds the source of a regex and not the flags it was compiled with, so that it is read as the
regex that the source is without flags.  What comes back from the descriptor of a validator mirrors the
validator in which each regex was replaced by that one.

## Main Definitions

* `Regex.flagless`, `Leaf.flagless` — a regex, and a rule, read again without flags
* `Validator.mapRules` — a validator with other rules
* `Leaf.IsRereadable` — the rules whose descriptors can be read, the flags of regexes left out
* `Leaf.RereadsAs` — what such a rule is read as

## Main statements

* `Env.admitsAbsence_mapRules` — absence is admitted alike if the rules are alike to absence
* `Validator.RebuiltAs.mapRules` — what a validator is rebuilt as is what the one with other rules is
  rebuilt as
* `Validator.RebuiltAs.mirrors_flagless` — what is read mirrors the validator without flags
-/

namespace Conformance

/-! ## Other rules -/

namespace Validator

variable {f : Leaf → Leaf}

mutual

/-- A validator with other rules. -/
def mapRules (f : Leaf → Leaf) : Validator → Validator
  | leaf rule => leaf (f rule)
  | delegate t => delegate t
  | delegateTo t copy => delegateTo t (mapRules f copy)
  | anyOf alternatives => anyOf (mapRulesEach f alternatives)
  | object properties => object (mapRulesUnder f properties)
  | arrayOf items least most => arrayOf (mapRules f items) least most
  | selfRef session => selfRef session
  | external e => external e

/-- `mapRules` on every alternative. -/
def mapRulesEach (f : Leaf → Leaf) : List Validator → List Validator
  | [] => []
  | v :: vs => mapRules f v :: mapRulesEach f vs

/-- `mapRules` under every key. -/
def mapRulesUnder (f : Leaf → Leaf) : List (Property Validator) → List (Property Validator)
  | [] => []
  | ⟨key, label, rule⟩ :: ps => ⟨key, label, mapRules f rule⟩ :: mapRulesUnder f ps

end

theorem mapRulesEach_eq_map (vs : List Validator) : mapRulesEach f vs = vs.map (mapRules f) := by
  induction vs with
  | nil => rfl
  | cons v vs ih => rw [mapRulesEach, ih, List.map_cons]

theorem mapRulesUnder_eq_map (ps : List (Property Validator)) :
    mapRulesUnder f ps = ps.map (Property.map (mapRules f)) := by
  induction ps with
  | nil => rfl
  | cons p ps ih =>
    rw [mapRulesUnder, ih, List.map_cons]
    rfl

/-- Rules are nothing to a session that takes references over. -/
theorem adopt_mapRules (session : Option Nat) (v : Validator) :
    (v.mapRules f).adopt session = (v.adopt session).mapRules f := by
  induction v using treeInduction with
  | leaf rule => rfl
  | delegate t => rfl
  | delegateTo t copy ih => rw [mapRules, adopt, adopt, mapRules, ih]
  | anyOf vs ih =>
    rw [mapRules, adopt, adopt, mapRules, mapRulesEach_eq_map, mapRulesEach_eq_map, adoptEach_eq_map,
      adoptEach_eq_map, List.map_map, List.map_map]
    exact congrArg anyOf (List.map_congr_left ih)
  | object ps ih =>
    rw [mapRules, adopt, adopt, mapRules, mapRulesUnder_eq_map, mapRulesUnder_eq_map,
      adoptProperties_eq_map, adoptProperties_eq_map, List.map_map, List.map_map]
    refine congrArg object (List.map_congr_left fun p hp => ?_)
    exact congrArg (Property.mk p.key none) (ih p hp)
  | arrayOf items least most ih => rw [mapRules, adopt, adopt, mapRules, ih]
  | selfRef session => cases session <;> rfl
  | external e => rfl

/-- Rules are nothing to leaving sessions out. -/
theorem release_mapRules (v : Validator) : (v.mapRules f).release = v.release.mapRules f := by
  induction v using treeInduction with
  | leaf rule => rfl
  | delegate t => rfl
  | delegateTo t copy ih => rw [mapRules, release, release, mapRules, ih]
  | anyOf vs ih =>
    rw [mapRules, release, release, mapRules, mapRulesEach_eq_map, mapRulesEach_eq_map,
      releaseEach_eq_map, releaseEach_eq_map, List.map_map, List.map_map]
    exact congrArg anyOf (List.map_congr_left ih)
  | object ps ih =>
    rw [mapRules, release, release, mapRules, mapRulesUnder_eq_map, mapRulesUnder_eq_map,
      releaseProperties_eq_map, releaseProperties_eq_map, List.map_map, List.map_map]
    refine congrArg object (List.map_congr_left fun p hp => ?_)
    exact congrArg (Property.mk p.key none) (ih p hp)
  | arrayOf items least most ih => rw [mapRules, release, release, mapRules, ih]
  | selfRef session => rfl
  | external e => rfl

theorem SelfContained.mapRules {own : Option Nat} {v : Validator} (h : v.SelfContained own) :
    (v.mapRules f).SelfContained own := by
  induction h with
  | leaf rule => exact .leaf _
  | anyOf _ ih =>
    rw [Validator.mapRules, mapRulesEach_eq_map]
    exact .anyOf (List.forall_mem_map.mpr ih)
  | object _ ih =>
    rw [Validator.mapRules, mapRulesUnder_eq_map]
    exact .object (List.forall_mem_map.mpr ih)
  | arrayOf least most _ ih => exact .arrayOf least most ih
  | selfRef => exact .selfRef

/-- Nothing changes where the rules stay as they are. -/
theorem MadeOf.mapRules_eq {kept : Key → Validator → Prop} {v : Validator}
    (h : v.MadeOf (fun rule => f rule = rule) kept) : v.mapRules f = v := by
  induction h with
  | leaf hrule => exact congrArg Validator.leaf hrule
  | @anyOf vs _ _ ih =>
    rw [mapRules, mapRulesEach_eq_map]
    exact congrArg Validator.anyOf ((List.map_congr_left ih).trans (List.map_id vs))
  | @object ps _ _ _ ih =>
    have hsame : ∀ p ∈ ps, p.map (mapRules f) = id p :=
      fun p hp => congrArg (Property.mk p.key p.label) (ih p hp)
    rw [mapRules, mapRulesUnder_eq_map, List.map_congr_left hsame, List.map_id]
  | arrayOf least most _ ih => rw [mapRules, ih]
  | selfRef => rfl

end Validator

/-! ## Absence -/

/-- The same surroundings, with other rules in the roots. -/
def Env.mapRules (f : Leaf → Leaf) (env : Env) : Env :=
  { env with root := fun n => (env.root n).map (Validator.mapRules f) }

/-- A rule has the same answer to absence as another one. -/
def Leaf.AbsenceAlike (tolerance : Binary64) (rule rule' : Leaf) : Prop :=
  (Test.checkAll (rule'.tests tolerance .missing)).outcome =
    (Test.checkAll (rule.tests tolerance .missing)).outcome

namespace Env

variable {f : Leaf → Leaf} {env : Env} {own : Option Nat}
  (hrules : ∀ rule, Leaf.AbsenceAlike env.stepTolerance rule (f rule))
  (hroots : ∀ m r, own = some m → env.root m = some r → r.SelfContained own)
include hrules hroots

/-- **Absence is checked alike** if the rules are alike to absence. -/
theorem outcome_check_mapRules {v : Validator} (hv : v.SelfContained own) (depth : Nat)
    (path : String) : ((env.mapRules f).check depth (v.mapRules f) .missing path).outcome =
      (env.check depth v .missing path).outcome := by
  -- a choice is walked in one step, and a reference uses one up
  induction depth generalizing v with
  | zero => rfl
  | succ depth ih =>
    induction hv with
    | leaf rule => exact hrules rule
    | @anyOf vs _ ihvs =>
      rw [Validator.mapRules, Validator.mapRulesEach_eq_map, check, check, Validator.check,
        Validator.check, Validator.checks_eq_map, Validator.checks_eq_map, Check.anyOf, Check.anyOf]
      simp only [Walk.any_map]
      exact Walk.outcome_any_congr ihvs
    | object _ _ => rfl
    | arrayOf least most _ _ => rfl
    | selfRef =>
      rw [Validator.mapRules, check, check, Validator.check, Validator.check]
      cases own with
      | none => rfl
      | some m =>
        have hroot : (env.mapRules f).root m = (env.root m).map (Validator.mapRules f) := rfl
        rw [Option.bind_some, Option.bind_some, hroot]
        cases hr : env.root m with
        | none => rfl
        | some r => exact ih (hroots m r rfl hr)

/-- **Absence is admitted alike.** -/
theorem admitsAbsence_mapRules {v : Validator} (hv : v.SelfContained own) (key : Key) :
    ((env.mapRules f).admitsAbsence key (v.mapRules f)).outcome =
      (env.admitsAbsence key v).outcome :=
  Walk.outcome_guarded_congr (outcome_check_mapRules hrules hroots hv depthLimit "")

end Env

/-! ## Rebuilding -/

namespace Validator.RebuiltAs

variable {back back' : Leaf → Validator → Prop} {admitted admitted' : Key → Validator → Prop} {n : Nat}
  {f : Leaf → Leaf} {v w : Validator}

/-- **What a validator is rebuilt as** is what the one with other rules is rebuilt as, if its rules come
back as the same and absence is admitted alike. -/
theorem mapRules (h : RebuiltAs back admitted n v w) (hback : ∀ rule u, back rule u → back' (f rule) u)
    (hadmitted : ∀ k u, u.SelfContained none → admitted k u → admitted' k (u.mapRules f)) :
    RebuiltAs back' admitted' n (v.mapRules f) w := by
  induction h with
  | leaf hrule => exact .leaf (hback _ _ hrule)
  | @anyOf es _ ih =>
    have hes : (es.map Prod.fst).map (Validator.mapRules f) =
        (es.map fun e => (e.1.mapRules f, e.2)).map Prod.fst := by
      rw [List.map_map, List.map_map]
      rfl
    have hes' : es.map Prod.snd = (es.map fun e => (e.1.mapRules f, e.2)).map Prod.snd := by
      rw [List.map_map]
      rfl
    rw [Validator.mapRules, mapRulesEach_eq_map, hes, hes']
    exact .anyOf (List.forall_mem_map.mpr ih)
  | @object ps es hkeys hmembers hcolumn hsame hrules ih =>
    have hes : es.map Prod.snd = (es.map fun e => (e.1.map (Validator.mapRules f), e.2)).map Prod.snd := by
      rw [List.map_map]
      rfl
    have hparts : Key.byPart (·.key) (ps.map (Property.map (Validator.mapRules f))) =
        (Key.byPart (·.key) ps).map (Property.map (Validator.mapRules f)) := Key.byPart_map _ _ ps
    rw [Validator.mapRules, mapRulesUnder_eq_map, hes]
    refine .object (List.forall_mem_map.mpr hkeys) (List.pairwise_map.mpr hmembers) ?_
      (List.forall_mem_map.mpr fun e he => ?_) (List.forall_mem_map.mpr ih)
    · rw [hparts, ← hcolumn, List.map_map, List.map_map]
      rfl
    · exact (hsame e he).imp fun _ _ => hadmitted _ _ (hrules e he).selfContained_none
  | arrayOf least most _ ih => exact .arrayOf least most ih
  | selfRef => exact .selfRef

end Validator.RebuiltAs

/-! ## Regexes without flags -/

/-- **A regex read again from its source**, without the flags it was compiled with. -/
def Regex.flagless (r : Regex) : Regex := (ofSource r.source .none).toOption.getD r

/-- A source that is read without flags is what is left of a regex. -/
theorem Regex.flagless_eq {r r' : Regex} (h : ofSource r.source .none = .ok r') : r.flagless = r' := by
  rw [flagless, h]
  rfl

namespace Leaf

/-- A rule without flags. -/
def flagless : Leaf → Leaf
  | regex r => regex r.flagless
  | rule => rule

/-- **The rules whose descriptors can be read**, the flags of regexes left out: those that can be told in
full, and regexes whose source is a regex without flags, and not one whose counts are digits of another
script. -/
def IsRereadable : Leaf → Prop
  | regex r => (∃ r', Regex.ofSource r.source .none = .ok r') ∧ StringRule.HasPlainCounts r.source
  | rule => rule.Portable

/-- **What such a rule is read as.** -/
inductive RereadsAs : Leaf → Validator → Prop where
  | source {r r' : Regex} {rule : Leaf} : Regex.ofSource r.source .none = .ok r' →
    rule.SearchesAs r' → RereadsAs (regex r) (.leaf rule)
  | told {rule : Leaf} {w : Validator} : rule.Portable → rule.ComesBackAs w → RereadsAs rule w

variable {rule : Leaf} {w : Validator}

theorem Portable.isRereadable (h : rule.Portable) : rule.IsRereadable := by
  cases rule with
  | regex r => exact ⟨⟨r, h.1⟩, StringRule.hasPlainCounts_of_shape h.2⟩
  | _ => exact h

/-- What can be told in full has no flags that it was compiled with. -/
theorem Portable.flagless_eq (h : rule.Portable) : rule.flagless = rule := by
  cases rule with
  | regex r => exact congrArg Leaf.regex (Regex.flagless_eq h.1)
  | _ => rfl

/-- Flags are nothing to absence. -/
theorem absenceAlike_flagless (tolerance : Binary64) (rule : Leaf) :
    rule.AbsenceAlike tolerance rule.flagless := by
  cases rule with
  | regex r => exact (Test.outcome_checkAll_singleton _).trans (Test.outcome_checkAll_singleton _).symm
  | _ => rfl

theorem RereadsAs.selfContained (h : rule.RereadsAs w) (own : Option Nat) : w.SelfContained own := by
  cases h with
  | source _ _ => exact .leaf _
  | told _ hback => exact hback.selfContained own

/-- **The descriptor of a rule** is read as what is left of the rule without flags. -/
theorem IsRereadable.readsAs (h : rule.IsRereadable) :
    ∃ fs, rule.describe = .record fs ∧ Descriptor.ReadsAs (fun _ => rule.RereadsAs) fs := by
  have htold : rule.Portable →
      ∃ fs, rule.describe = .record fs ∧ Descriptor.ReadsAs (fun _ => rule.RereadsAs) fs := by
    intro hportable
    obtain ⟨fs, hfs, hreads⟩ := Descriptor.readsAs_leaf hportable.recoverable
    exact ⟨fs, hfs, hreads.mono fun _ w hw => .told hportable hw⟩
  cases rule with
  | regex r =>
    obtain ⟨⟨r', hr⟩, hcounts⟩ := h
    refine ⟨_, rfl, .of_sublist ["type", "pattern"] (by decide) (.refl _) fun n => ?_⟩
    refine (Descriptor.reads_source hr hcounts).mono ?_
    rintro w ⟨rule, rfl, hsearches⟩
    exact .source hr hsearches
  | _ => exact htold h

/-- What a rule is read as mirrors the rule without flags. -/
theorem RereadsAs.mirrors (h : rule.RereadsAs w) (absent : Key → Validator → Walk Bool) (n : Nat) :
    Validator.Mirrors absent n (.leaf rule.flagless) w := by
  cases h with
  | @source r r' rule hr hsearches =>
    intro m env env' follow follow' hfacing x _ path
    have hflagless : (Leaf.regex r).flagless = .regex r' := congrArg Leaf.regex (Regex.flagless_eq hr)
    refine Walk.agree_of_outcome_eq ?_
    rw [hflagless, Validator.adopt, hsearches.outcome_check, Leaf.SearchesAs.regex.outcome_check]
  | told hportable hback =>
    rw [hportable.flagless_eq]
    exact .leaf hback hportable.isExact

end Leaf

/-- **What is read mirrors the validator without flags.** -/
theorem Validator.RebuiltAs.mirrors_flagless {admitted : Key → Validator → Prop}
    {absent : Key → Validator → Walk Bool} {n : Nat} {v w : Validator}
    (h : RebuiltAs Leaf.RereadsAs admitted n v w)
    (hadmitted : ∀ k u, u.SelfContained none → admitted k u →
      (absent k (u.mapRules Leaf.flagless)).outcome = .ok true) :
    Mirrors absent n (v.mapRules Leaf.flagless) w := by
  have hrebuilt : RebuiltAs (fun rule u => Mirrors absent n (.leaf rule) u)
      (fun k u => (absent k u).outcome = .ok true) n (v.mapRules Leaf.flagless) w :=
    h.mapRules (fun rule u hrule => hrule.mirrors absent n) hadmitted
  exact hrebuilt.mirrors (fun _ _ => id) fun _ _ => id

end Conformance
