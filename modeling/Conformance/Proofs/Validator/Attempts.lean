import Conformance.Proofs.Validator.Absence
import Conformance.Proofs.Validator.Lifting

/-!
# What a check comes to, given depth enough

A check is cut off at some depth, and a cut turns into non-conformance where absence is judged, so a check
that ends with a verdict may end with another one at a greater depth.  What it comes to in the end is
found out by a check that is cut off as well but knows the answers about absence: an attempt.  Absence
is judged without going into a value, and so its answers are known beforehand.

## Main Definitions

* `Env.IsTower` — checks for every depth, each a layer over the one before
* `Env.answer` — what a check of absence comes to
* `Env.attempt` — a check, to a depth, that knows the answers about absence
* `Env.IsBisimulation` — pairs of validators that lead on to the same, or to validators that are alike up
  to such pairs

## Main statements

* `Env.IsTower.foretells` — one tower of checks foretells another one, on validators that are alike up to
  the pairs of a bisimulation
* `Env.attempt_foretells_check` — what an attempt ends with, checks come to
* `Env.check_vouches_attempt` — what a check ends with that met no fault about absence, an attempt ends
  with
-/

open Filter

namespace Conformance.Env

open Validator (AlikeUpTo)

variable {env : Env}

/-! ## Towers -/

/-- **A tower of checks**: one for every depth, each a layer over the one before.  None reads the
identities of parts. -/
structure IsTower (env : Env) (G : Nat → Validator → Check) : Prop where
  step (depth : Nat) (v : Validator) : G (depth + 1) v = v.check env (G depth)
  bare (depth : Nat) {v w : Validator} : v.adopt none = w.adopt none → G depth v = G depth w

theorem isTower_check (env : Env) : env.IsTower env.check :=
  ⟨fun _ _ => rfl, fun depth _ _ h => check_eq_of_adopt_eq h depth⟩

/-- **A validator leads on to another one**: its check is the check of that one, with one step less to
go.  References lead on to the roots of their sessions. -/
def LeadsOn (env : Env) (v w : Validator) : Prop :=
  ∃ root : Validator, root.adopt none = w.adopt none ∧ ∀ follow, v.check env follow = follow root

/-- Two validators meet: one of them leads on to the other, or they lead on to validators that are
related. -/
inductive Meet (env : Env) (R : Validator → Validator → Prop) : Validator → Validator → Prop where
  | both {v w v' w' : Validator} : env.LeadsOn v v' → env.LeadsOn w w' → R v' w' → Meet env R v w
  | left {v w : Validator} : env.LeadsOn v w → Meet env R v w
  | right {v w : Validator} : env.LeadsOn w v → Meet env R v w

/-- **A bisimulation**: each of its pairs meets, in validators that are alike up to its pairs. -/
def IsBisimulation (env : Env) (B : Validator → Validator → Prop) : Prop :=
  ∀ v w, B v w → env.Meet (AlikeUpTo B) v w

/-- Without pairs there is nothing to meet. -/
theorem isBisimulation_false (env : Env) : env.IsBisimulation fun _ _ => False := fun _ _ => False.elim

theorem IsBisimulation.flip {B : Validator → Validator → Prop} (hB : env.IsBisimulation B) :
    env.IsBisimulation fun w v => B v w := by
  intro w v hvw
  cases hB v w hvw with
  | both hv hw hR => exact .both hw hv hR.flip
  | left h => exact .right h
  | right h => exact .left h

namespace IsTower

variable {F G : Nat → Validator → Check} {v w : Validator}

/-- What leads on is checked as what it leads to. -/
theorem check_eq_of_leadsOn (hG : env.IsTower G) (h : env.LeadsOn v w) (depth : Nat) :
    v.check env (G depth) = G depth w := by
  obtain ⟨root, hroot, hstep⟩ := h
  rw [hstep, hG.bare depth hroot]

/-- **One tower foretells another one** on validators that are alike up to the pairs of a bisimulation, if
it does at the bottom and where absence is judged. -/
theorem foretells (hF : env.IsTower F) (hG : env.IsTower G) {B : Validator → Validator → Prop}
    (hB : env.IsBisimulation B) {X : Value → Prop} (hX : ∀ x, X x → ∀ y ∈ x.parts, X y)
    (hzero : ∀ v w, AlikeUpTo B v w → ∀ x path, X x → (F 0 v x path).Foretells fun k => G k w x path)
    (habsent : ∀ x, X x → x.isMapping = true → ∀ depth v w, AlikeUpTo B v w → ∀ key,
      (absenceWalk key (F (depth + 1) v .missing "")).Foretells
        fun k => absenceWalk key (G (k + 1) w .missing ""))
    (depth : Nat) (h : AlikeUpTo B v w) (x : Value) (path : String) (hx : X x) :
    (F depth v x path).Foretells fun k => G k w x path := by
  induction depth generalizing v w x path with
  | zero => exact hzero v w h x path hx
  | succ depth ih =>
    have hlayer : ∀ {C : Validator → Validator → Prop}, (∀ v w, C v w → B v w) →
        (∀ v w, C v w → ∀ x path, X x →
          (F (depth + 1) v x path).Foretells fun k => G (k + 1) w x path) →
        ∀ {v w}, AlikeUpTo C v w → ∀ x path, X x →
          (F (depth + 1) v x path).Foretells fun k => G k w x path := by
      intro C hCB hC v w h x path hx
      rw [← Walk.foretells_succ_iff]
      simp only [hF.step, hG.step] at hC habsent ⊢
      exact h.lift Walk.lifts_foretells (F := fun _ => F depth) hX
        (fun v x path hx => ih (.refl v) x path hx) hC
        (fun x hx hmapping v w h key => habsent x hx hmapping depth v w (h.mono hCB) key) x path hx
    -- a validator alone first: a pair may lead on to its other half, which is at the same depth then
    have hself : ∀ v x path, X x → (F (depth + 1) v x path).Foretells fun k => G k v x path :=
      fun v => hlayer (C := fun _ _ => False) (fun _ _ => False.elim) (fun _ _ => False.elim) (.refl v)
    refine hlayer (fun _ _ => id) (fun v w hvw x path hx => ?_) h x path hx
    cases hB v w hvw with
    | both hv hw hR =>
      simp only [hF.step, hG.step, hF.check_eq_of_leadsOn hv, hG.check_eq_of_leadsOn hw]
      exact ih hR x path hx
    | left hv =>
      refine (Walk.foretells_succ_iff (u := fun k => G k w x path)).mpr ?_
      rw [hF.step, hF.check_eq_of_leadsOn hv]
      exact ih (.refl w) x path hx
    | right hw =>
      simp only [hG.step, hG.check_eq_of_leadsOn hw]
      exact hself v x path hx

end IsTower

/-! ## Absence -/

/-- Absence has no parts. -/
theorem eq_missing_of_mem_parts (x : Value) (hx : x = .missing) : ∀ y ∈ x.parts, y = .missing := by
  rw [hx]
  exact fun y hy => absurd hy List.not_mem_nil

/-- What is judged about absence is whether a check of it ends with `true`. -/
theorem absenceWalk_eq_ok_iff {key : Key} {w : Walk Bool} {b : Bool} :
    (absenceWalk key w).outcome = .ok b ↔ (b = true ↔ w.outcome = .ok true) := by
  unfold absenceWalk Walk.guarded
  cases hw : w.outcome with
  | error f => cases b <;> simp
  | ok passed => cases b <;> cases passed <;> simp

variable {v w : Validator} {B : Validator → Validator → Prop}

/-- **Checks of absence are foretold** on validators that are alike up to the pairs of a bisimulation. -/
theorem check_missing_foretells (hB : env.IsBisimulation B) (depth : Nat) (h : AlikeUpTo B v w)
    (path : String) :
    (env.check depth v .missing path).Foretells fun k => env.check k w .missing path := by
  refine (isTower_check env).foretells (isTower_check env) hB eq_missing_of_mem_parts
    (fun v w _ x path _ b hb => ?_) (fun x hx hmapping => ?_) depth h .missing path rfl
  · cases hb
  · rw [hx] at hmapping
    cases hmapping

open Classical in
/-- **What a check of absence comes to**, given depth enough: a verdict, or a recursion without end. -/
noncomputable def answer (env : Env) (v : Validator) : Except Fault Bool :=
  if ∃ depth, (env.check depth v .missing "").outcome = .ok true then .ok true
  else if ∃ depth, (env.check depth v .missing "").outcome = .ok false then .ok false
  else .error .endless

/-- Checks of absence that end at different depths end alike. -/
theorem answer_eq_ok_iff {b : Bool} :
    env.answer v = .ok b ↔ ∃ depth, (env.check depth v .missing "").outcome = .ok b := by
  have hunique : ∀ {b b' depth depth'}, (env.check depth v .missing "").outcome = .ok b →
      (env.check depth' v .missing "").outcome = .ok b' → b = b' := by
    intro b b' depth depth' hb hb'
    have hlater := check_missing_mono (Nat.le_max_left depth depth') v "" "" b hb
    have hlater' := check_missing_mono (Nat.le_max_right depth depth') v "" "" b' hb'
    exact Except.ok.inj (hlater.symm.trans hlater')
  have hany : ∀ {b}, (∃ depth, (env.check depth v .missing "").outcome = .ok b) →
      ∀ {b'}, Except.ok b = (.ok b' : Except Fault Bool) ↔
        ∃ depth, (env.check depth v .missing "").outcome = .ok b' := by
    rintro b ⟨depth, hb⟩ b'
    rw [Except.ok.injEq]
    exact ⟨fun heq => ⟨depth, heq ▸ hb⟩, fun ⟨depth', hb'⟩ => hunique hb hb'⟩
  unfold answer
  split
  · next htrue => exact hany htrue
  · next htrue =>
    split
    · next hfalse => exact hany hfalse
    · next hfalse =>
      cases b with
      | true => exact iff_of_false (fun h => by cases h) htrue
      | false => exact iff_of_false (fun h => by cases h) hfalse

/-- What a check of absence comes to, checks at all great depths end with. -/
theorem eventually_check_of_answer {b : Bool} (h : env.answer v = .ok b) (path : String) :
    ∀ᶠ depth in atTop, (env.check depth v .missing path).outcome = .ok b := by
  obtain ⟨depth, hb⟩ := answer_eq_ok_iff.mp h
  exact eventually_atTop.mpr ⟨depth, fun k hk => check_missing_mono hk v "" path b hb⟩

/-- What a check of absence ends with is the answer. -/
theorem answer_of_check {b : Bool} {depth : Nat} {path : String}
    (h : (env.check depth v .missing path).outcome = .ok b) : env.answer v = .ok b :=
  answer_eq_ok_iff.mpr ⟨depth, check_missing_mono (Nat.le_refl depth) v path "" b h⟩

/-- **Validators that are alike have the same answer.** -/
theorem answer_eq_of_alike (hB : env.IsBisimulation B) (h : AlikeUpTo B v w) {b : Bool} :
    env.answer v = .ok b ↔ env.answer w = .ok b := by
  have hforth : ∀ {B : Validator → Validator → Prop} {v w}, env.IsBisimulation B → AlikeUpTo B v w →
      env.answer v = .ok b → env.answer w = .ok b := by
    intro B v w hB h hv
    obtain ⟨depth, hb⟩ := answer_eq_ok_iff.mp hv
    exact answer_eq_ok_iff.mpr (check_missing_foretells hB depth h "" b hb).exists
  exact ⟨hforth hB h, hforth hB.flip h.flip⟩

/-! ## Attempts -/

/-- **An attempt at a check**, to a depth, that knows what checks of absence come to. -/
noncomputable def attempt (env : Env) : Nat → Validator → Check
  | 0, v => fun x _ =>
    match x with
    | .missing => .ofExcept (env.answer v)
    | _ => .fail .endless
  | depth + 1, v => v.check env (attempt env depth)

theorem isTower_attempt (env : Env) : env.IsTower env.attempt where
  step _ _ := rfl
  bare depth v w h := by
    cases depth with
    | zero =>
      have hcheck : ∀ depth, env.check depth v = env.check depth w := check_eq_of_adopt_eq h
      have hanswer : env.answer v = env.answer w := by
        classical
        simp only [answer, hcheck]
      simp only [attempt, hanswer]
    | succ depth =>
      rw [attempt, attempt, ← Validator.check_adopt_none, h, Validator.check_adopt_none]

/-- An attempt at absence foretells what checks end with. -/
theorem attempt_missing_foretells (depth : Nat) (v : Validator) (path : String) :
    (env.attempt depth v .missing path).Foretells fun k => env.check k v .missing path := by
  refine (isTower_attempt env).foretells (isTower_check env) (isBisimulation_false env)
    eq_missing_of_mem_parts (fun v w h x path hx b hb => ?_) (fun x hx hmapping => ?_) depth (.refl v)
    .missing path rfl
  · rw [hx] at hb ⊢
    exact eventually_check_of_answer ((answer_eq_of_alike (isBisimulation_false env) h).mp hb) path
  · rw [hx] at hmapping
    cases hmapping

/-- **An attempt at absence ends with the answer**, to every depth. -/
theorem attempt_missing {depth : Nat} {path : String} {b : Bool} :
    (env.attempt depth v .missing path).outcome = .ok b ↔ env.answer v = .ok b := by
  constructor
  · intro hb
    obtain ⟨k, hk⟩ := (attempt_missing_foretells depth v path b hb).exists
    exact answer_of_check hk
  · intro hb
    induction depth generalizing v path b with
    | zero => exact hb
    | succ depth ih =>
      obtain ⟨k, hk⟩ := answer_eq_ok_iff.mp hb
      cases k with
      | zero => cases hk
      | succ k =>
        have hconfirms : ∀ w b, (env.check k w .missing "").outcome = .ok b →
            (env.attempt depth w .missing path).outcome = .ok b := fun w b hw => ih (answer_of_check hw)
        exact Validator.check_missing_confirms hconfirms v b hk

/-! ## Attempts and checks -/

/-- Checks of absence come to be judged as an attempt at it. -/
theorem absence_foretells {key : Key} {a : Walk Bool} {u : Nat → Walk Bool}
    (h : a.outcome = .ok true → ∀ᶠ k in atTop, (u k).outcome = .ok true)
    (h' : ∀ k, (u k).outcome = .ok true → a.outcome = .ok true) :
    (absenceWalk key a).Foretells fun k => absenceWalk key (u k) := by
  intro b hb
  rw [absenceWalk_eq_ok_iff] at hb
  simp only [absenceWalk_eq_ok_iff]
  cases b with
  | true =>
    filter_upwards [h (hb.mp rfl)] with k hk
    exact iff_of_true rfl hk
  | false =>
    refine .of_forall fun k => iff_of_false Bool.false_ne_true fun hk => ?_
    exact Bool.false_ne_true (hb.mpr (h' k hk))

/-- **What an attempt ends with, checks come to**, of a validator that is alike as well. -/
theorem attempt_foretells_check (hB : env.IsBisimulation B) (depth : Nat) (h : AlikeUpTo B v w)
    (x : Value) (path : String) :
    (env.attempt depth v x path).Foretells fun k => env.check k w x path := by
  refine (isTower_attempt env).foretells (isTower_check env) hB (X := fun _ => True)
    (fun _ _ _ _ => trivial) (fun v w h x path _ b hb => ?_) (fun x _ _ depth v w h key => ?_) depth h x
    path trivial
  · cases x with
    | missing => exact eventually_check_of_answer ((answer_eq_of_alike hB h).mp hb) path
    | _ => cases hb
  · refine absence_foretells (fun htrue => ?_) fun k htrue => ?_
    · rw [attempt_missing, answer_eq_of_alike hB h] at htrue
      exact Walk.eventually_succ_iff.mpr (eventually_check_of_answer htrue "")
    · rw [attempt_missing, answer_eq_of_alike hB h]
      exact answer_of_check htrue

/-- **An attempt spares checks**: it refuses nothing that some check accepts. -/
theorem attempt_spares_check (depth k : Nat) (v : Validator) (x : Value) (path : String) :
    (env.attempt depth v x path).Spares (env.check k v x path) := by
  have hB := isBisimulation_false env
  induction k generalizing depth v x path with
  | zero => exact fun htrue => by cases htrue
  | succ k ih =>
    cases depth with
    | zero =>
      intro htrue hfalse
      cases x with
      | missing => cases (answer_of_check htrue).symm.trans hfalse
      | _ => cases hfalse
    | succ depth =>
      refine AlikeUpTo.lift Walk.lifts_spares (F := fun _ => env.attempt depth)
        (G := fun _ => env.check k) (X := fun _ => True) (fun _ _ _ _ => trivial)
        (fun v x path _ => ih depth v x path) (fun _ _ => False.elim) (fun x _ _ v w h key => ?_)
        (.refl v) x path trivial
      intro htrue hfalse
      have haccepts : (env.check (k + 1) w .missing "").outcome = .ok true :=
        (absenceWalk_eq_ok_iff.mp htrue).mp rfl
      have hanswer := (answer_eq_of_alike hB h).mpr (answer_of_check haccepts)
      have hattempt : (env.attempt (depth + 1) v .missing "").outcome = .ok true :=
        attempt_missing.mpr hanswer
      exact Bool.false_ne_true ((absenceWalk_eq_ok_iff.mp hfalse).mpr hattempt)

/-- **A check that met no fault about absence vouches for the attempt.** -/
theorem check_vouches_attempt (depth : Nat) (v : Validator) (x : Value) (path : String) :
    (env.check depth v x path).Vouches (env.attempt depth v x path) := by
  have hB := isBisimulation_false env
  induction depth generalizing v x path with
  | zero => exact fun b hb => by cases hb.1
  | succ depth ih =>
    refine AlikeUpTo.lift Walk.lifts_vouches (F := fun _ => env.check depth)
      (G := fun _ => env.attempt depth) (X := fun _ => True) (fun _ _ _ _ => trivial)
      (fun v x path _ => ih v x path) (fun _ _ => False.elim) (fun x _ _ v w h key => ?_) (.refl v) x path
      trivial
    intro b hb
    have hends : (env.check (depth + 1) v .missing "").Ends b :=
      Walk.ends_of_ends_guarded (fun _ => rfl) hb
    have hanswer := (answer_eq_of_alike hB h).mp (answer_of_check hends.1)
    have hattempt : (env.attempt (depth + 1) w .missing "").outcome = .ok b :=
      attempt_missing.mpr hanswer
    refine absenceWalk_eq_ok_iff.mpr ?_
    change _ ↔ (env.attempt (depth + 1) w .missing "").outcome = .ok true
    rw [hattempt, Except.ok.injEq]

end Conformance.Env
