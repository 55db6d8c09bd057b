import Conformance.Proofs.Validator.Lifting
import Conformance.Validator.Explaining

/-!
# Checks that come to an end

A check is cut off at some depth, where it ends with a fault.  If it would end in the same way whatever
stood in the place of that fault, it never gets to the cut: it comes to an end by itself.

A check goes down into a value or stays at it.  Values are finite, so a check comes to an end if it cannot
stay at a value for ever.  Absence is judged at a value of its own, which is no part of the one before; but
it has no parts, so from there the check can only stay.

## Main Definitions

* `Env.checkOver`, `Env.explainOver` — a check that goes on with something else when it is cut off
* `Env.Halts`, `Env.Terminates` — a check that comes to an end within a depth, or within some depth, in
  both ways to walk
* `Validator.Opens`, `Env.Stays` — a step of a check that stays at the value it is at

## Main statements

* `Env.exists_halts_of_steps` — one layer comes to an end if what it leads to does
* `Env.exists_halts` — a check comes to an end if it cannot stay at a value for ever
-/

namespace Conformance

/-! ## Steps that do the same -/

/-- **Families of walks whose members are all the same walk.** -/
theorem Walk.lifts_same {ι κ : Type} :
    Walk.Lifts fun (w : ι → Walk Bool) (u : κ → Walk Bool) => ∀ i k, w i = u k where
  const _ _ _ := rfl
  and_then h h' i k := by simp only [h i k, h' i k]
  or_else h h' i k := by simp only [h i k, h' i k]

namespace Explain

variable {x : Value} {path : String}

/-- The groups of a choice, from alternatives that do the same. -/
theorem groups_congr {as bs : List Named}
    (h : List.Forall₂ (fun a b => a.name = b.name ∧ a.check x path = b.check x path) as bs) :
    groups x path as = groups x path bs := by
  induction h with
  | nil => rfl
  | @cons a b as bs hab _ ih => rw [groups, groups, hab.1, hab.2, ih]

/-- An array of items that two checks do the same on. -/
theorem arrayOf_congr {c c' : Check} (least : Nat) (most : Option Nat) {form : SeqForm} {tag : Nat}
    {items : List Value} (h : ∀ y ∈ items, ∀ path, c y path = c' y path) :
    arrayOf least most c (.seq form tag items) path =
      arrayOf least most c' (.seq form tag items) path := by
  have hitems : Walk.every (fun (e : Value × Nat) => c e.1 (Path.index path e.2)) items.zipIdx =
      Walk.every (fun (e : Value × Nat) => c' e.1 (Path.index path e.2)) items.zipIdx :=
    Walk.every_congr fun e he => h e.1 (List.fst_mem_of_mem_zipIdx he) _
  simp only [arrayOf, hitems]

/-- An object pattern on a mapping for which what stands under the keys does the same. -/
theorem object_congr {f f' : Validator → Check} {absent absent' : Property Validator → Walk Bool}
    {ps : List (Property Validator)} {form : MapForm} {tag : Nat} {es : List (Value × Value)}
    (hrules : ∀ p ∈ ps, ∀ e ∈ es, ∀ path, f p.rule e.2 path = f' p.rule e.2 path)
    (habsent : ∀ p ∈ ps, absent p = absent' p) :
    object absent ps (ps.map (.map f)) (.mapping form tag es) path =
      object absent' ps (ps.map (.map f')) (.mapping form tag es) path := by
  have hentries : entries (ps.map (.map f)) path es = entries (ps.map (.map f')) path es := by
    unfold entries
    refine Walk.every_congr fun e he => ?_
    simp only [claimants_map (Property.key_map _), Walk.every_map, Property.rule_map]
    exact Walk.every_congr fun p hp => hrules p (mem_of_mem_claimants hp) e he _
  have hcounts : Walk.every (count absent path (propertyNames es)) (specific ps) =
      Walk.every (count absent' path (propertyNames es)) (specific ps) := by
    refine Walk.every_congr fun p hp => ?_
    rw [count, count, habsent p (mem_of_mem_specific hp)]
  simp only [object, hentries, hcounts]

end Explain

/-- **A validator opens to another one** that is checked on the same value: an alternative, or what a
delegate stands for.  What stands under a key, and what the elements of an array are checked by, is not
checked on the same value. -/
inductive Validator.Opens (slot : Nat → Slot) : Validator → Validator → Prop where
  | alternative {vs : List Validator} {v : Validator} : v ∈ vs → Opens slot (anyOf vs) v
  | copy (t : Target) (v : Validator) : Opens slot (delegateTo t v) v
  | live {t : Target} {h : Handle} :
    slot t.id = .validator h → Opens slot (delegate t) h.validator

theorem Validator.Opens.linked {slot : Nat → Slot} {v w : Validator} (h : v.Opens slot w) :
    v.Linked slot w := by
  cases h with
  | alternative hv => exact .part (.alternative hv)
  | copy t => exact .part (.copy t w)
  | live hslot => exact .live hslot

namespace Env

variable {env : Env} {depth : Nat} {v w : Validator} {x : Value}

/-! ## What stands in the place of the cut -/

/-- **A check that goes on with something else** when its depth is used up. -/
def checkOver (env : Env) (rest : Validator → Check) : Nat → Validator → Check
  | 0 => rest
  | depth + 1 => fun v => v.check env (env.checkOver rest depth)

/-- An explaining check that goes on with something else when its depth is used up: with `rest` where
absence is judged, and else with `other`. -/
def explainOver (env : Env) (rest other : Validator → Check) : Nat → Validator → Check
  | 0 => other
  | depth + 1 => fun v =>
    v.explain env (fun p => absenceWalk p.key (env.checkOver rest (depth + 1) p.rule .missing ""))
      (env.explainOver rest other depth)

/-- What a check goes on with when it is cut off: a fault. -/
def cut : Validator → Check := fun _ _ _ => .fail .endless

theorem checkOver_cut (depth : Nat) : env.checkOver cut depth = env.check depth := by
  induction depth with
  | zero => rfl
  | succ depth ih =>
    funext v
    rw [checkOver, ih, check]

theorem explainOver_cut (depth : Nat) : env.explainOver cut cut depth = env.explain depth := by
  induction depth with
  | zero => rfl
  | succ depth ih =>
    funext v
    rw [explainOver, ih, checkOver_cut, explain]
    rfl

/-- A check that may take one step more goes on with that step. -/
theorem checkOver_succ (rest : Validator → Check) (depth : Nat) :
    env.checkOver rest (depth + 1) = env.checkOver (env.checkOver rest 1) depth := by
  induction depth with
  | zero => rfl
  | succ depth ih =>
    funext v
    rw [checkOver, ih]
    rfl

theorem explainOver_succ (rest other : Validator → Check) (depth : Nat) :
    env.explainOver rest other (depth + 1) =
      env.explainOver (env.checkOver rest 1) (env.explainOver rest other 1) depth := by
  induction depth with
  | zero => rfl
  | succ depth ih =>
    funext v
    rw [explainOver, ih, checkOver_succ rest (depth + 1)]
    rfl

/-- **A check comes to an end within a depth**, in both ways to walk, if it does not matter what it would
go on with. -/
structure Halts (env : Env) (depth : Nat) (v : Validator) (x : Value) : Prop where
  check (rest rest' : Validator → Check) (path : String) :
    env.checkOver rest depth v x path = env.checkOver rest' depth v x path
  explain (rest rest' other other' : Validator → Check) (path : String) :
    env.explainOver rest other depth v x path = env.explainOver rest' other' depth v x path

/-- **A check comes to an end by itself**, in both ways to walk: from some depth on it does the same
whatever the depth is and whatever it would go on with if it was cut off. -/
def Terminates (env : Env) (v : Validator) (x : Value) : Prop :=
  ∃ n, ∀ depth ≥ n, ∀ path,
    (∀ rest, env.checkOver rest depth v x path = env.check n v x path) ∧
    ∀ rest other, env.explainOver rest other depth v x path = env.explain n v x path

namespace Halts

/-- What comes to an end within a depth does so within a greater one. -/
theorem mono {depth' : Nat} (h : env.Halts depth v x) (hle : depth ≤ depth') :
    env.Halts depth' v x := by
  induction hle with
  | refl => exact h
  | @step depth' _ ih =>
    refine ⟨fun rest rest' path => ?_, fun rest rest' other other' path => ?_⟩
    · rw [checkOver_succ rest, checkOver_succ rest']
      exact ih.check _ _ path
    · rw [explainOver_succ rest, explainOver_succ rest']
      exact ih.explain _ _ _ _ path

/-- **A check that comes to an end does not depend on the depth.** -/
theorem check_eq {depth' : Nat} (h : env.Halts depth v x) (hle : depth ≤ depth')
    (rest : Validator → Check) (path : String) :
    env.checkOver rest depth' v x path = env.check depth v x path := by
  rw [← checkOver_cut]
  induction hle with
  | refl => exact h.check _ _ path
  | @step depth' hle ih =>
    rw [checkOver_succ, (h.mono hle).check _ rest path, ih]

theorem explain_eq {depth' : Nat} (h : env.Halts depth v x) (hle : depth ≤ depth')
    (rest other : Validator → Check) (path : String) :
    env.explainOver rest other depth' v x path = env.explain depth v x path := by
  rw [← explainOver_cut]
  induction hle with
  | refl => exact h.explain _ _ _ _ path
  | @step depth' hle ih =>
    rw [explainOver_succ, (h.mono hle).explain _ rest _ other path, ih]

theorem terminates (h : env.Halts depth v x) : env.Terminates v x :=
  ⟨depth, fun _ hle path => ⟨fun rest => h.check_eq hle rest path,
    fun rest other => h.explain_eq hle rest other path⟩⟩

/-! ## One layer -/

/-- What leads to nothing comes to an end. -/
theorem of_const (hcheck : ∀ follow follow', v.check env follow x = v.check env follow' x)
    (hexplain : ∀ absent absent' follow follow',
      v.explain env absent follow x = v.explain env absent' follow' x) : env.Halts (depth + 1) v x :=
  ⟨fun _ _ path => congrFun (hcheck _ _) path, fun _ _ _ _ path => congrFun (hexplain _ _ _ _) path⟩

/-- What leads on to another validator comes to an end one step after it. -/
theorem of_follow (h : env.Halts depth w x) (hcheck : ∀ follow, v.check env follow x = follow w x)
    (hexplain : ∀ absent follow, v.explain env absent follow x = follow w x) :
    env.Halts (depth + 1) v x := by
  refine ⟨fun rest rest' path => ?_, fun rest rest' other other' path => ?_⟩
  · simp only [checkOver, hcheck]
    exact h.check rest rest' path
  · simp only [explainOver, hexplain]
    exact h.explain rest rest' other other' path

theorem delegateTo (t : Target) (h : env.Halts (depth + 1) v x) :
    env.Halts (depth + 1) (.delegateTo t v) x :=
  ⟨h.check, h.explain⟩

theorem anyOf {vs : List Validator} (h : ∀ v ∈ vs, env.Halts (depth + 1) v x) :
    env.Halts (depth + 1) (.anyOf vs) x := by
  refine ⟨fun rest rest' path => ?_, fun rest rest' other other' path => ?_⟩
  · simp only [checkOver, Validator.check, Validator.checks_eq_map, Check.anyOf, Walk.any_map]
    exact Walk.any_congr fun v hv => (h v hv).check rest rest' path
  · simp only [explainOver, Validator.explain, Validator.explainEach_eq_map, Explain.anyOf]
    rw [Explain.groups_congr]
    refine List.forall₂_map_left_iff.mpr (List.forall₂_map_right_iff.mpr ?_)
    exact List.forall₂_same.mpr fun v hv => ⟨rfl, (h v hv).explain rest rest' other other' path⟩

theorem arrayOf (least : Nat) (most : Option Nat) {form : SeqForm} {tag : Nat} {items : List Value}
    (h : ∀ y ∈ items, env.Halts (depth + 1) v y) :
    env.Halts (depth + 1) (.arrayOf v least most) (.seq form tag items) := by
  refine ⟨fun rest rest' path => ?_, fun rest rest' other other' path => ?_⟩
  · exact Validator.lift_arrayOf Walk.lifts_same (F := fun (_ : Unit) => env.checkOver rest depth)
      (G := fun (_ : Unit) => env.checkOver rest' depth)
      (fun y hy path _ _ => (h y hy).check rest rest' path) () ()
  · simp only [explainOver, Validator.explain]
    exact Explain.arrayOf_congr least most fun y hy path =>
      (h y hy).explain rest rest' other other' path

theorem object {ps : List (Property Validator)} {form : MapForm} {tag : Nat}
    {es : List (Value × Value)} (h : ∀ p ∈ ps, ∀ e ∈ es, env.Halts (depth + 1) p.rule e.2)
    (habsent : ∀ p ∈ ps, env.Halts (depth + 1) p.rule .missing) :
    env.Halts (depth + 1) (.object ps) (.mapping form tag es) := by
  refine ⟨fun rest rest' path => ?_, fun rest rest' other other' path => ?_⟩
  · refine Validator.lift_object Walk.lifts_same (F := fun (_ : Unit) => env.checkOver rest depth)
      (G := fun (_ : Unit) => env.checkOver rest' depth)
      (List.forall₂_same.mpr fun p hp => ⟨rfl, fun e he path _ _ => ?_, fun key _ _ => ?_⟩) () ()
    · exact (h p hp e he).check rest rest' path
    · exact congrArg (absenceWalk key) ((habsent p hp).check rest rest' "")
  · simp only [explainOver, Validator.explain, Validator.propertyExplains_eq_map]
    refine Explain.object_congr (fun p hp e he path => ?_) fun p hp => ?_
    · exact (h p hp e he).explain rest rest' other other' path
    · exact congrArg (absenceWalk p.key) ((habsent p hp).check rest rest' "")

end Halts

/-! ## Steps -/

/-- **A step of a check that stays at the value it is at**: within a validator, or to the root that a
reference leads to. -/
inductive Stays (env : Env) : Validator → Validator → Prop where
  | opens {v w : Validator} : v.Opens env.slot w → Stays env v w
  | root {session : Nat} {r : Validator} :
    env.root session = some r → Stays env (.selfRef (some session)) r

theorem Stays.next (h : env.Stays v w) : env.Next v w := by
  cases h with
  | opens hopens => exact .linked hopens.linked
  | root hroot => exact .root hroot

/-- One depth is enough for finitely many things. -/
theorem exists_depth {α : Type} {as : List α} {P : Nat → α → Prop}
    (hmono : ∀ a n n', n ≤ n' → P n a → P n' a) (h : ∀ a ∈ as, ∃ n, P n a) : ∃ n, ∀ a ∈ as, P n a := by
  induction as with
  | nil => exact ⟨0, by simp⟩
  | cons a as ih =>
    obtain ⟨⟨n, hn⟩, has⟩ := List.forall_mem_cons.mp h
    obtain ⟨n', hn'⟩ := ih has
    refine ⟨max n n', List.forall_mem_cons.mpr ⟨hmono a n _ (Nat.le_max_left n n') hn, fun b hb => ?_⟩⟩
    exact hmono b n' _ (Nat.le_max_right n n') (hn' b hb)

/-- **One layer comes to an end if what it leads to does**: at the same value, at its parts, and where
absence is judged. -/
theorem exists_halts_of_steps (hstays : ∀ w, env.Stays v w → ∃ n, env.Halts n w x)
    (hparts : ∀ w, v.Part w → ∀ y ∈ x.parts, ∃ n, env.Halts n w y)
    (habsent : ∀ w, v.Part w → x.isMapping = true → ∃ n, env.Halts n w .missing) :
    ∃ n, env.Halts n v x := by
  have hmono : ∀ {α : Type} (f : α → Validator) (g : α → Value) (a : α) (n n' : Nat), n ≤ n' →
      env.Halts (n + 1) (f a) (g a) → env.Halts (n' + 1) (f a) (g a) :=
    fun f g a n n' hle h => h.mono (Nat.succ_le_succ hle)
  have hsucc : ∀ {w y}, (∃ n, env.Halts n w y) → ∃ n, env.Halts (n + 1) w y :=
    fun ⟨n, hn⟩ => ⟨n, hn.mono (Nat.le_succ n)⟩
  cases v with
  | leaf rule => exact ⟨1, .of_const (fun _ _ => rfl) fun _ _ _ _ => rfl⟩
  | external e => exact ⟨1, .of_const (fun _ _ => rfl) fun _ _ _ _ => rfl⟩
  | delegate t =>
    cases hslot : env.slot t.id with
    | validator h =>
      obtain ⟨n, hn⟩ := hstays _ (.opens (.live hslot))
      exact ⟨n + 1, hn.of_follow (fun _ => by simp only [Validator.check, hslot])
        fun _ _ => by simp only [Validator.explain, hslot]⟩
    | _ =>
      exact ⟨1, .of_const (fun _ _ => by simp only [Validator.check, hslot])
        fun _ _ _ _ => by simp only [Validator.explain, hslot]⟩
  | delegateTo t copy =>
    obtain ⟨n, hn⟩ := hsucc (hstays _ (.opens (.copy t copy)))
    exact ⟨n + 1, hn.delegateTo t⟩
  | anyOf vs =>
    obtain ⟨n, hn⟩ := exists_depth (hmono id fun _ => x)
      fun w hw => hsucc (hstays w (.opens (.alternative hw)))
    exact ⟨n + 1, .anyOf hn⟩
  | selfRef own =>
    cases hroot : own.bind env.root with
    | none =>
      exact ⟨1, .of_const (fun _ _ => by simp only [Validator.check, hroot])
        fun _ _ _ _ => by simp only [Validator.explain, hroot]⟩
    | some r =>
      obtain ⟨session, rfl, hr⟩ := Option.bind_eq_some_iff.mp hroot
      obtain ⟨n, hn⟩ := hstays _ (.root hr)
      exact ⟨n + 1, hn.of_follow (fun _ => by simp only [Validator.check, hroot])
        fun _ _ => by simp only [Validator.explain, hroot]⟩
  | arrayOf items least most =>
    cases x with
    | seq form tag ys =>
      obtain ⟨n, hn⟩ := exists_depth (hmono (fun _ => items) id)
        fun y hy => hsucc (hparts items (.element items least most) y hy)
      exact ⟨n + 1, .arrayOf least most hn⟩
    | _ => exact ⟨1, .of_const (fun _ _ => rfl) fun _ _ _ _ => rfl⟩
  | object ps =>
    cases x with
    | mapping form tag es =>
      have hrules : ∀ p ∈ ps, ∃ n, ∀ e ∈ es, env.Halts (n + 1) p.rule e.2 := fun p hp =>
        exists_depth (hmono (fun _ => p.rule) Prod.snd)
          fun e he => hsucc (hparts p.rule (.property hp) e.2 (List.mem_map_of_mem he))
      obtain ⟨n, hn⟩ := exists_depth
        (fun p n n' hle h e he => hmono (fun _ => p.rule) Prod.snd e n n' hle (h e he)) hrules
      obtain ⟨m, hm⟩ := exists_depth (hmono Property.rule fun _ => .missing)
        fun p hp => hsucc (habsent p.rule (.property hp) rfl)
      refine ⟨max n m + 1, .object (fun p hp e he => ?_) fun p hp => ?_⟩
      · exact (hn p hp e he).mono (Nat.succ_le_succ (Nat.le_max_left n m))
      · exact (hm p hp).mono (Nat.succ_le_succ (Nat.le_max_right n m))
    | _ => exact ⟨1, .of_const (fun _ _ => rfl) fun _ _ _ _ => rfl⟩

/-- **A check comes to an end** on every value if nowhere on its way it can stay at a value for ever. -/
theorem exists_halts (h : ∀ w, env.Reaches v w → Acc (fun u w => env.Stays w u) w) (x : Value) :
    ∃ n, env.Halts n v x := by
  -- steps that stay first, then steps into the value
  have hstay : ∀ x : Value,
      (∀ y, y ∈ x.parts ∨ x.isMapping = true ∧ y = .missing →
        ∀ w, env.Reaches v w → ∃ n, env.Halts n w y) →
      ∀ w, env.Reaches v w → ∃ n, env.Halts n w x := by
    intro x hless w hw
    induction h w hw with
    | intro w _ ih =>
      refine exists_halts_of_steps (fun u hu => ih u hu (hw.tail hu.next))
        (fun u hu y hy => hless y (.inl hy) u (hw.tail (.linked (.part hu)))) fun u hu hmapping => ?_
      exact hless .missing (.inr ⟨hmapping, rfl⟩) u (hw.tail (.linked (.part hu)))
  have hmissing : ∀ w, env.Reaches v w → ∃ n, env.Halts n w .missing := by
    refine hstay .missing ?_
    rintro y (hy | ⟨hmapping, -⟩)
    · cases hy
    · cases hmapping
  have hall : ∀ x w, env.Reaches v w → ∃ n, env.Halts n w x := by
    intro x
    induction hsize : sizeOf x using Nat.strong_induction_on generalizing x with
    | _ size ih =>
      refine hstay x ?_
      rintro y (hy | ⟨-, rfl⟩)
      · exact ih (sizeOf y) (hsize ▸ Value.sizeOf_lt_of_mem_parts hy) y rfl
      · exact hmissing
  exact hall x v .refl

end Env

end Conformance
