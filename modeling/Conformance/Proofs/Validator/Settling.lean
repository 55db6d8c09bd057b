import Conformance.Proofs.Validator.Attempts

/-!
# Every check settles

Given depth enough, the check of a value comes to a verdict, or it ends with a fault to whatever depth: a
fault of its own, or a recursion without end.

A recursion without end goes on at one and the same part of the value from some step on, and there only
through alternatives of which those before are refused.  Cut off at any depth such a chain ends with a
fault: what is refused in the end is accepted to no depth, and so no alternative before saves it.

## Main Definitions

* `Env.ComesTo` — a check comes to a verdict
* `Env.Breaks` — a check ends with faults
* `Env.JudgeAlike` — two validators whose checks come to the same verdicts, and end with faults on the
  same values

## Main statements

* `Env.settlesOn` — attempts and checks of a validator settle
* `Env.comesTo_iff` — what checks come to is what an attempt ends with
* `Env.judgeAlike_of_alike` — validators that are alike up to the pairs of a bisimulation judge alike
-/

open Filter

namespace Conformance

/-- What settles from some member on settles from some later member on. -/
theorem Walk.bothSettle_succ_iff {w u : Nat → Walk Bool} :
    Walk.BothSettle (fun k => w (k + 1)) (fun k => u (k + 1)) ↔ Walk.BothSettle w u :=
  or_congr
    (exists_congr fun b => and_congr
      (eventually_succ_iff (p := fun k => (w k).outcome = .ok b))
      (eventually_succ_iff (p := fun k => (u k).outcome = .ok b)))
    (eventually_succ_iff (p := fun k => (u k).Faults))

namespace Env

open Validator (AlikeUpTo)

variable {env : Env} {v w : Validator} {x : Value} {path : String}

/-- Attempts and checks of a validator settle, on one value. -/
def SettlesOn (env : Env) (x : Value) (path : String) (v : Validator) : Prop :=
  Walk.BothSettle (fun k => env.attempt k v x path) fun k => env.check k v x path

/-- **One layer settles, or it hangs** on a validator that does not settle on the same value: the layer
ends with a fault wherever that validator does. -/
def LayerSettlesOn (env : Env) (x : Value) (path : String) (v : Validator) : Prop :=
  Walk.BothSettle (fun k => v.check env (env.attempt k) x path)
      (fun k => v.check env (env.check k) x path) ∨
    ∃ u, ¬ env.SettlesOn x path u ∧
      ∀ k, (env.check k u x path).Faults → (v.check env (env.check k) x path).Faults

theorem settlesOn_iff : env.SettlesOn x path v ↔
    Walk.BothSettle (fun k => v.check env (env.attempt k) x path)
      (fun k => v.check env (env.check k) x path) :=
  Walk.bothSettle_succ_iff.symm

/-- What is judged about absence settles. -/
theorem bothSettle_absence (key : Key) (v : Validator) :
    Walk.BothSettle (fun k => absenceWalk key (v.check env (env.attempt k) .missing ""))
      fun k => absenceWalk key (v.check env (env.check k) .missing "") := by
  have hattempt : ∀ k, (v.check env (env.attempt k) .missing "").outcome = .ok true ↔
      env.answer v = .ok true := by
    intro k
    rw [← attempt]
    exact attempt_missing
  by_cases hanswer : env.answer v = .ok true
  · refine .inl ⟨true, .of_forall fun k => ?_, ?_⟩
    · exact absenceWalk_eq_ok_iff.mpr (iff_of_true rfl ((hattempt k).mpr hanswer))
    · filter_upwards [Walk.eventually_succ_iff.mpr (eventually_check_of_answer hanswer "")] with k hk
      exact absenceWalk_eq_ok_iff.mpr (iff_of_true rfl hk)
  · refine .inl ⟨false, .of_forall fun k => ?_, .of_forall fun k => ?_⟩
    · exact absenceWalk_eq_ok_iff.mpr (iff_of_false Bool.false_ne_true (mt (hattempt k).mp hanswer))
    · refine absenceWalk_eq_ok_iff.mpr (iff_of_false Bool.false_ne_true fun htrue => hanswer ?_)
      have hcheck : (env.check (k + 1) v .missing "").outcome = .ok true := htrue
      exact answer_of_check hcheck

/-- A choice settles or hangs if each of its alternatives does: those before the one on which it hangs are
refused in the end, and accepted to no depth. -/
theorem layerSettlesOn_any {vs : List Validator} (h : ∀ v ∈ vs, env.LayerSettlesOn x path v) :
    Walk.BothSettle (fun k => Walk.any (fun v => v.check env (env.attempt k) x path) vs)
        (fun k => Walk.any (fun v => v.check env (env.check k) x path) vs) ∨
      ∃ u, ¬ env.SettlesOn x path u ∧ ∀ k, (env.check k u x path).Faults →
        (Walk.any (fun v => v.check env (env.check k) x path) vs).Faults := by
  induction vs with
  | nil => exact .inl (Walk.lifts_bothSettle.const _)
  | cons v vs ih =>
    obtain ⟨hv, hvs⟩ := List.forall_mem_cons.mp h
    rcases hv with (⟨b, hattempt, hcheck⟩ | hfaults) | ⟨u, hu, hangs⟩
    · cases b with
      | true =>
        refine .inl (.inl ⟨true, ?_, ?_⟩)
        · exact hattempt.mono fun k hk => Walk.orElse_eq_ok_iff.mpr (.inr ⟨hk, rfl⟩)
        · exact hcheck.mono fun k hk => Walk.orElse_eq_ok_iff.mpr (.inr ⟨hk, rfl⟩)
      | false =>
        refine (ih hvs).imp (fun hsettle => ?_) fun ⟨u, hu, hangs⟩ => ⟨u, hu, fun k hk => ?_⟩
        · exact Walk.lifts_bothSettle.or_else (.inl ⟨false, hattempt, hcheck⟩) hsettle
        · obtain ⟨depth, hrefuses⟩ := hattempt.exists
          rcases (v.check env (env.check k) x path).exists_ok_or_faults with ⟨b, hb⟩ | hfaults
          · cases b with
            | true => exact absurd hrefuses (attempt_spares_check (depth + 1) (k + 1) v x path hb)
            | false => exact .of_ok hb (hangs k hk)
          · exact hfaults.bind _
    · exact .inl (.inr (hfaults.mono fun k hk => hk.bind _))
    · exact .inr ⟨u, hu, fun k hk => (hangs k hk).bind _⟩

/-- **One layer settles or hangs**, on a value on whose parts every validator settles. -/
theorem layerSettlesOn (hparts : ∀ y ∈ x.parts, ∀ path v, env.SettlesOn y path v) (v : Validator) :
    env.LayerSettlesOn x path v := by
  have hconst : ∀ w : Walk Bool, Walk.BothSettle (fun _ => w) fun _ => w := Walk.lifts_bothSettle.const
  have hfollow : ∀ v w, (∀ follow, v.check env follow x path = follow w x path) →
      env.LayerSettlesOn x path v := by
    intro v w hw
    by_cases hsettles : env.SettlesOn x path w
    · refine .inl ?_
      simp only [hw]
      exact hsettles
    · exact .inr ⟨w, hsettles, fun k hk => by rwa [hw]⟩
  induction v using Validator.treeInduction with
  | leaf rule => exact .inl (hconst _)
  | delegate t =>
    cases hslot : env.slot t.id with
    | validator h => exact hfollow _ h.validator fun follow => by rw [Validator.check, hslot]
    | _ =>
      refine .inl ?_
      simp only [Validator.check, hslot]
      exact hconst _
  | delegateTo t copy ih => exact ih
  | anyOf vs ih =>
    rw [LayerSettlesOn]
    simp only [Validator.check, Validator.checks_eq_map, Check.anyOf, Walk.any_map]
    exact layerSettlesOn_any ih
  | object ps =>
    refine .inl ?_
    cases x with
    | mapping form tag entries =>
      refine Validator.lift_object Walk.lifts_bothSettle (F := env.attempt) (G := env.check)
        (List.forall₂_same.mpr fun p _ => ⟨rfl, fun e he path => ?_, fun key => ?_⟩)
      · exact settlesOn_iff.mp (hparts e.2 (List.mem_map_of_mem he) path p.rule)
      · exact bothSettle_absence key p.rule
    | _ => exact hconst _
  | arrayOf items least most =>
    refine .inl ?_
    cases x with
    | seq form tag xs =>
      exact Validator.lift_arrayOf Walk.lifts_bothSettle (F := env.attempt) (G := env.check)
        fun y hy path => settlesOn_iff.mp (hparts y hy path items)
    | _ => exact hconst _
  | selfRef own =>
    cases hroot : own.bind env.root with
    | some root => exact hfollow _ root fun follow => by rw [Validator.check, hroot]
    | none =>
      refine .inl ?_
      simp only [Validator.check, hroot]
      exact hconst _
  | external e => exact .inl (hconst _)

/-- **Attempts and checks of a validator settle**, on every value. -/
theorem settlesOn (env : Env) (x : Value) (path : String) (v : Validator) : env.SettlesOn x path v := by
  induction hsize : sizeOf x using Nat.strong_induction_on generalizing x path v with
  | _ size ih =>
    have hparts : ∀ y ∈ x.parts, ∀ path v, env.SettlesOn y path v := by
      intro y hy path v
      exact ih (sizeOf y) (hsize ▸ Value.sizeOf_lt_of_mem_parts hy) y path v rfl
    -- what does not settle hangs on something that does not settle, with one step less to go
    have hfaults : ∀ k u, ¬ env.SettlesOn x path u → (env.check k u x path).Faults := by
      intro k
      induction k with
      | zero => exact fun u _ => ⟨.endless, rfl⟩
      | succ k ihk =>
        intro u hu
        rcases layerSettlesOn hparts u with hsettles | ⟨u', hu', hangs⟩
        · exact absurd (settlesOn_iff.mpr hsettles) hu
        · exact hangs k (ihk u' hu')
    by_contra hv
    exact hv (.inr (.of_forall fun k => hfaults k v hv))

/-! ## Verdicts -/

/-- **A check comes to a verdict**, given depth enough. -/
def ComesTo (env : Env) (v : Validator) (x : Value) (b : Bool) : Prop :=
  ∀ᶠ depth in atTop, (env.check depth v x Path.root).outcome = .ok b

/-- **A check breaks**: it ends with a fault to every great depth, be it one of its own or because a
recursion has no end. -/
def Breaks (env : Env) (v : Validator) (x : Value) : Prop :=
  ∀ᶠ depth in atTop, (env.check depth v x Path.root).Faults

/-- **A check comes to a verdict or it breaks.** -/
theorem exists_comesTo_or_breaks (env : Env) (v : Validator) (x : Value) :
    (∃ b, env.ComesTo v x b) ∨ env.Breaks v x :=
  (env.settlesOn x Path.root v).imp_left fun ⟨b, _, hcheck⟩ => ⟨b, hcheck⟩

/-- Not both, and not to two verdicts. -/
theorem ComesTo.not_breaks {b : Bool} (h : env.ComesTo v x b) : ¬ env.Breaks v x := by
  intro hbreaks
  obtain ⟨depth, hb, hfaults⟩ := (h.and hbreaks).exists
  exact hfaults.ne_ok b hb

/-- **What checks come to is what an attempt ends with.** -/
theorem comesTo_iff {b : Bool} :
    env.ComesTo v x b ↔ ∃ depth, (env.attempt depth v x Path.root).outcome = .ok b := by
  constructor
  · intro h
    rcases env.settlesOn x Path.root v with ⟨b', hattempt, hcheck⟩ | hfaults
    · obtain ⟨depth, hb, hb'⟩ := (h.and hcheck).exists
      cases hb.symm.trans hb'
      exact hattempt.exists
    · exact absurd hfaults h.not_breaks
  · rintro ⟨depth, hb⟩
    exact attempt_foretells_check (isBisimulation_false env) depth (.refl v) x Path.root b hb

/-- Within the limit of depth as well, a check that meets no fault ends with what checks come to. -/
theorem comesTo_of_validate {b : Bool} (h : (env.validate v x).Ends b) : env.ComesTo v x b :=
  comesTo_iff.mpr ⟨_, check_vouches_attempt _ _ _ _ b (Walk.ends_of_ends_guarded (fun _ => rfl) h)⟩

/-- **Two validators judge alike**: on every value their checks come to the same verdict, or both break.
Within the limit of depth as well they give the same verdict if neither meets a fault. -/
structure JudgeAlike (env : Env) (v w : Validator) : Prop where
  settles (x : Value) : (∃ b, env.ComesTo v x b) ∨ env.Breaks v x
  comesTo (x : Value) (b : Bool) : env.ComesTo v x b ↔ env.ComesTo w x b
  breaks (x : Value) : env.Breaks v x ↔ env.Breaks w x
  validate (x : Value) : (env.validate v x).Agree (env.validate w x)

/-- Judging reads no identities. -/
theorem JudgeAlike.of_adopt (h : env.JudgeAlike (v.adopt none) (w.adopt none)) : env.JudgeAlike v w := by
  have hvalidate : ∀ u x, env.validate (u.adopt none) x = env.validate u x :=
    fun u x => validate_eq_of_adopt_eq (Validator.adopt_adopt_none none u) x
  refine ⟨env.exists_comesTo_or_breaks v, fun x b => ?_, fun x => ?_, fun x => ?_⟩
  · simpa only [ComesTo, check_adopt_none] using h.comesTo x b
  · simpa only [Breaks, check_adopt_none] using h.breaks x
  · simpa only [hvalidate] using h.validate x

/-- **Validators that are alike up to the pairs of a bisimulation judge alike.** -/
theorem judgeAlike_of_alike {B : Validator → Validator → Prop} (hB : env.IsBisimulation B)
    (h : AlikeUpTo B v w) : env.JudgeAlike v w := by
  have hforth : ∀ {B : Validator → Validator → Prop} {v w}, env.IsBisimulation B → AlikeUpTo B v w →
      ∀ {x b}, env.ComesTo v x b → env.ComesTo w x b := by
    intro B v w hB h x b hv
    obtain ⟨depth, hb⟩ := comesTo_iff.mp hv
    exact attempt_foretells_check hB depth h x Path.root b hb
  have hcomesTo : ∀ x b, env.ComesTo v x b ↔ env.ComesTo w x b :=
    fun x b => ⟨hforth hB h, hforth hB.flip h.flip⟩
  have hbreaks : ∀ v x, env.Breaks v x ↔ ∀ b, ¬ env.ComesTo v x b := by
    intro v x
    constructor
    · exact fun hbreaks b hb => hb.not_breaks hbreaks
    · exact fun hnone => (env.exists_comesTo_or_breaks v x).resolve_left fun ⟨b, hb⟩ => hnone b hb
  refine ⟨env.exists_comesTo_or_breaks v, hcomesTo, fun x => ?_, fun x b b' hb hb' => ?_⟩
  · rw [hbreaks, hbreaks]
    exact forall_congr' fun b => not_congr (hcomesTo x b)
  · have hw := (hcomesTo x b).mp (comesTo_of_validate hb)
    obtain ⟨depth, hdepth, hdepth'⟩ := (hw.and (comesTo_of_validate hb')).exists
    exact Except.ok.inj (hdepth.symm.trans hdepth')

end Env

end Conformance
