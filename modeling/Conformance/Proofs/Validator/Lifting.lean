import Conformance.Proofs.Validator.Decision
import Conformance.Proofs.Walk.Lifting

/-!
# One layer of the checks of validators that are alike

Two validators that are the same tree but for parts that stand at the same places are checked in the same
steps up to these parts.  So whatever relation between walks is lifted holds of one layer of their checks
as soon as it holds of the parts and of what references and live delegates lead to.

## Main Definitions

* `Validator.AlikeUpTo` — validators that are the same tree up to pairs of parts
* `Value.parts` — the values that a check of a value comes to

## Main statements

* `Validator.AlikeUpTo.lift` — a relation that lifts holds of one layer of the checks of validators that
  are alike
-/

namespace Conformance

/-! ## Values and their parts -/

/-- What stands directly in a value: the items of a sequence and what the keys of a mapping lead to. -/
def Value.parts : Value → List Value
  | seq _ _ items => items
  | mapping _ _ entries => entries.map Prod.snd
  | _ => []

/-- A part is smaller than the whole. -/
theorem Value.sizeOf_lt_of_mem_parts {x y : Value} (h : y ∈ x.parts) : sizeOf y < sizeOf x := by
  cases x with
  | seq form tag items =>
    have hlt : sizeOf y < sizeOf items := List.sizeOf_lt_of_mem h
    rw [seq.sizeOf_spec]
    omega
  | mapping form tag entries =>
    obtain ⟨e, he, rfl⟩ := List.mem_map.mp h
    have hlt : sizeOf e < sizeOf entries := List.sizeOf_lt_of_mem he
    have hsnd : sizeOf e = 1 + sizeOf e.1 + sizeOf e.2 := rfl
    rw [mapping.sizeOf_spec]
    omega
  | _ => exact absurd h List.not_mem_nil

namespace Validator

/-! ## Validators that are alike -/

/-- **Two validators are alike up to pairs** of parts that stand at the same places in them.  The
identities of what stands under keys may differ. -/
inductive AlikeUpTo (B : Validator → Validator → Prop) : Validator → Validator → Prop where
  | pair {v w : Validator} : B v w → AlikeUpTo B v w
  | leaf (rule : Leaf) : AlikeUpTo B (leaf rule) (leaf rule)
  | delegate (t : Target) : AlikeUpTo B (delegate t) (delegate t)
  | delegateTo (t : Target) {v w : Validator} :
    AlikeUpTo B v w → AlikeUpTo B (delegateTo t v) (delegateTo t w)
  | anyOf {es : List (Validator × Validator)} : (∀ e ∈ es, AlikeUpTo B e.1 e.2) →
    AlikeUpTo B (anyOf (es.map Prod.fst)) (anyOf (es.map Prod.snd))
  | object {es : List (Property Validator × Property Validator)} :
    (∀ e ∈ es, e.1.key = e.2.key) → (∀ e ∈ es, AlikeUpTo B e.1.rule e.2.rule) →
    AlikeUpTo B (object (es.map Prod.fst)) (object (es.map Prod.snd))
  | arrayOf {v w : Validator} (least : Nat) (most : Option Nat) :
    AlikeUpTo B v w → AlikeUpTo B (arrayOf v least most) (arrayOf w least most)
  | selfRef (own : Option Nat) : AlikeUpTo B (selfRef own) (selfRef own)
  | external (e : External) : AlikeUpTo B (external e) (external e)

namespace AlikeUpTo

variable {B : Validator → Validator → Prop} {v w : Validator}

/-- Choices between alternatives that are alike one by one. -/
theorem of_forall₂ {vs ws : List Validator} (h : List.Forall₂ (AlikeUpTo B) vs ws) :
    AlikeUpTo B (Validator.anyOf vs) (Validator.anyOf ws) := by
  obtain ⟨es, rfl, rfl, hes⟩ := h.exists_columns
  exact .anyOf hes

/-- Object patterns with the same keys and rules under them that are alike one by one. -/
theorem of_forall₂_rules {ps qs : List (Property Validator)}
    (h : List.Forall₂ (fun p q => p.key = q.key ∧ AlikeUpTo B p.rule q.rule) ps qs) :
    AlikeUpTo B (Validator.object ps) (Validator.object qs) := by
  obtain ⟨es, rfl, rfl, hes⟩ := h.exists_columns
  exact .object (fun e he => (hes e he).1) fun e he => (hes e he).2

/-- Every validator is alike itself. -/
theorem refl (v : Validator) : AlikeUpTo B v v := by
  induction v using treeInduction with
  | leaf rule => exact .leaf rule
  | delegate t => exact .delegate t
  | delegateTo t copy ih => exact .delegateTo t ih
  | anyOf vs ih => exact .of_forall₂ (List.forall₂_same.mpr ih)
  | object ps ih => exact .of_forall₂_rules (List.forall₂_same.mpr fun p hp => ⟨rfl, ih p hp⟩)
  | arrayOf items least most ih => exact .arrayOf least most ih
  | selfRef own => exact .selfRef own
  | external e => exact .external e

/-- More pairs make more validators alike. -/
theorem mono {C : Validator → Validator → Prop} (h : AlikeUpTo B v w) (hBC : ∀ v w, B v w → C v w) :
    AlikeUpTo C v w := by
  induction h with
  | pair hB => exact .pair (hBC _ _ hB)
  | leaf rule => exact .leaf rule
  | delegate t => exact .delegate t
  | delegateTo t _ ih => exact .delegateTo t ih
  | anyOf _ ih => exact .anyOf ih
  | object hkeys _ ih => exact .object hkeys ih
  | arrayOf least most _ ih => exact .arrayOf least most ih
  | selfRef own => exact .selfRef own
  | external e => exact .external e

/-- The same the other way round. -/
theorem flip (h : AlikeUpTo B v w) : AlikeUpTo (fun w v => B v w) w v := by
  have hcolumns : ∀ {V : Type} (es : List (V × V)), (es.map Prod.swap).map Prod.fst = es.map Prod.snd ∧
      (es.map Prod.swap).map Prod.snd = es.map Prod.fst := by
    intro V es
    rw [List.map_map, List.map_map]
    exact ⟨rfl, rfl⟩
  induction h with
  | pair hB => exact .pair hB
  | leaf rule => exact .leaf rule
  | delegate t => exact .delegate t
  | delegateTo t _ ih => exact .delegateTo t ih
  | @anyOf es _ ih =>
    rw [← (hcolumns es).1, ← (hcolumns es).2]
    exact .anyOf (List.forall_mem_map.mpr ih)
  | @object es hkeys _ ih =>
    rw [← (hcolumns es).1, ← (hcolumns es).2]
    exact .object (List.forall_mem_map.mpr fun e he => (hkeys e he).symm) (List.forall_mem_map.mpr ih)
  | arrayOf least most _ ih => exact .arrayOf least most ih
  | selfRef own => exact .selfRef own
  | external e => exact .external e

end AlikeUpTo

/-! ## One layer -/

variable {env : Env}

/-- The check of an object pattern on a mapping: first each property by all the keys that are about it,
then the number of properties of each key. -/
theorem check_object_mapping (follow : Validator → Check) (ps : List (Property Validator))
    (form : MapForm) (tag : Nat) (entries : List (Value × Value)) (path : String) :
    (object ps).check env follow (.mapping form tag entries) path =
      Walk.andThen
        (Walk.all (fun e => Walk.all
          (fun p => p.rule.check env follow e.2 (Path.member path e.1.nameText))
          (claimants ps e.1.nameText)) entries)
        (Walk.all (fun p => Check.count (propertyNames entries) (p.map (check env follow)))
          (specific ps)) := by
  rw [check, propertyChecks_eq_map, Check.object, specific_map (Property.key_map _), Walk.all_map]
  have hentries : Check.entries (ps.map (.map (check env follow))) path entries =
      Walk.all (fun e => Walk.all
        (fun p => p.rule.check env follow e.2 (Path.member path e.1.nameText))
        (claimants ps e.1.nameText)) entries := by
    unfold Check.entries
    refine congrArg (Walk.all · entries) (funext fun e => ?_)
    dsimp only
    rw [claimants_map (Property.key_map _), Walk.all_map]
    rfl
  rw [hentries]
  rfl

section Lifts

open Walk (Lifts)

variable {ι κ : Type} {r : (ι → Walk Bool) → (κ → Walk Bool) → Prop} (hr : Lifts r)
  {F : ι → Validator → Check} {G : κ → Validator → Check}
include hr

/-- **Object patterns with the same keys**, on a mapping for whose properties the rules under them are
related. -/
theorem lift_object {ps qs : List (Property Validator)} {form : MapForm} {tag : Nat}
    {entries : List (Value × Value)} {path : String}
    (h : List.Forall₂ (fun p q => p.key = q.key ∧
      (∀ e ∈ entries, ∀ path, r (fun i => p.rule.check env (F i) e.2 path)
        fun k => q.rule.check env (G k) e.2 path) ∧
      ∀ key, r (fun i => absenceWalk key (p.rule.check env (F i) .missing ""))
        fun k => absenceWalk key (q.rule.check env (G k) .missing "")) ps qs) :
    r (fun i => (object ps).check env (F i) (.mapping form tag entries) path)
      fun k => (object qs).check env (G k) (.mapping form tag entries) path := by
  simp only [check_object_mapping]
  refine hr.and_then (hr.all (List.forall₂_same.mpr fun e he => hr.all ?_)) (hr.all ?_)
  · exact (forall₂_claimants h (fun _ _ hpq => hpq.1) _).imp fun p q hpq => hpq.2.1 e he _
  · refine (forall₂_specific h fun _ _ hpq => hpq.1).imp fun p q hpq => ?_
    obtain ⟨hkey, -, habsent⟩ := hpq
    simp only [Check.count, Property.key_map, Property.rule_map, hkey]
    cases q.key.judge (q.key.count (propertyNames entries)) with
    | allowed => exact hr.const _
    | violated expected => exact hr.const _
    | absent => exact habsent q.key

/-- **Arrays**, on a sequence for whose items the rules are related. -/
theorem lift_arrayOf {v w : Validator} {least : Nat} {most : Option Nat} {form : SeqForm} {tag : Nat}
    {items : List Value} {path : String}
    (h : ∀ x ∈ items, ∀ path, r (fun i => v.check env (F i) x path) fun k => w.check env (G k) x path) :
    r (fun i => (arrayOf v least most).check env (F i) (.seq form tag items) path)
      fun k => (arrayOf w least most).check env (G k) (.seq form tag items) path := by
  simp only [check, Check.arrayOf]
  by_cases hlength : withinLengths least most items.length = true
  · simp only [if_pos hlength]
    refine hr.all (List.forall₂_same.mpr fun e he => ?_)
    exact h e.1 (List.fst_mem_of_mem_zipIdx he) _
  · simp only [if_neg hlength]
    exact hr.const _

/-- What a reference or a live delegate does is what it leads to, or does not depend on that. -/
theorem lift_live {x : Value} {path : String}
    (hfollow : ∀ v, r (fun i => F i v x path) fun k => G k v x path) {v : Validator}
    (hv : (∃ t, v = delegate t) ∨ ∃ own, v = selfRef own) :
    r (fun i => v.check env (F i) x path) fun k => v.check env (G k) x path := by
  rcases hv with ⟨t, rfl⟩ | ⟨own, rfl⟩
  · simp only [check]
    cases env.slot t.id with
    | validator h => exact hfollow h.validator
    | _ => exact hr.const _
  · simp only [check]
    cases own.bind env.root with
    | some root => exact hfollow root
    | none => exact hr.const _

/-- **One layer of the checks of validators that are alike**, on the values `X`, which have their parts
among them. -/
theorem AlikeUpTo.lift {B : Validator → Validator → Prop} {X : Value → Prop}
    (hX : ∀ x, X x → ∀ y ∈ x.parts, X y)
    (hfollow : ∀ v x path, X x → r (fun i => F i v x path) fun k => G k v x path)
    (hpair : ∀ v w, B v w → ∀ x path, X x →
      r (fun i => v.check env (F i) x path) fun k => w.check env (G k) x path)
    (habsent : ∀ x, X x → x.isMapping = true → ∀ v w, AlikeUpTo B v w → ∀ key,
      r (fun i => absenceWalk key (v.check env (F i) .missing ""))
        fun k => absenceWalk key (w.check env (G k) .missing ""))
    {v w : Validator} (h : AlikeUpTo B v w) (x : Value) (path : String) (hx : X x) :
    r (fun i => v.check env (F i) x path) fun k => w.check env (G k) x path := by
  induction h generalizing x path with
  | pair hB => exact hpair _ _ hB x path hx
  | leaf rule => exact hr.const _
  | delegate t => exact lift_live hr (fun v => hfollow v x path hx) (.inl ⟨t, rfl⟩)
  | delegateTo t _ ih => exact ih x path hx
  | @anyOf es _ ih =>
    simp only [check, checks_eq_map, Check.anyOf, Walk.any_map]
    exact hr.any (List.forall₂_same.mpr fun e he => ih e he x path hx)
  | @object es hkeys hrules ih =>
    cases x with
    | mapping form tag entries =>
      refine lift_object hr (List.forall₂_map_left_iff.mpr (List.forall₂_map_right_iff.mpr ?_))
      refine List.forall₂_same.mpr fun e he => ⟨hkeys e he, fun entry hentry path => ?_, ?_⟩
      · exact ih e he entry.2 path (hX _ hx _ (List.mem_map_of_mem hentry))
      · exact habsent _ hx rfl _ _ (hrules e he)
    | _ => exact hr.const _
  | @arrayOf v w least most _ ih =>
    cases x with
    | seq form tag items => exact lift_arrayOf hr fun y hy path => ih y path (hX _ hx y hy)
    | _ => exact hr.const _
  | selfRef own => exact lift_live hr (fun v => hfollow v x path hx) (.inr ⟨own, rfl⟩)
  | external e => exact hr.const _

end Lifts

end Validator

end Conformance
