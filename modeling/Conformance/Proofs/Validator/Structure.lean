import Conformance.Session.Store
import Conformance.Proofs.Walk
import Mathlib.Data.List.Forall2
import Mathlib.Logic.Relation

/-!
# The structure of validators

A validator is a finite tree in which references and live delegates are leaves.  What lies behind
these leaves is found through the surroundings.

## Main Definitions

* `Validator.Part` — a validator directly below another one in its tree
* `Validator.Linked` — a validator directly below another one in its tree, or behind a live delegate
* `Env.Next` — the same, or the root that a reference leads to
* `Env.Reaches` — a validator that a check can come to from another one

## Main statements

* `Validator.treeInduction` — induction on the tree, with one case for each kind of validator
* `Validator.checks_eq_map`, `Validator.propertyExplains_eq_map`, … — what is said of a list of parts
  is said of each part
-/

/-! ## Lists whose members are related -/

namespace List.Forall₂

variable {α β : Type} {R : α → β → Prop} {as : List α} {bs : List β}

theorem exists_right (h : Forall₂ R as bs) {a : α} (ha : a ∈ as) : ∃ b ∈ bs, R a b := by
  induction h with
  | nil => cases ha
  | cons hab _ ih =>
    rcases mem_cons.mp ha with rfl | ha
    · exact ⟨_, mem_cons_self, hab⟩
    · obtain ⟨b, hb, hR⟩ := ih ha
      exact ⟨b, mem_cons_of_mem _ hb, hR⟩

theorem exists_left (h : Forall₂ R as bs) {b : β} (hb : b ∈ bs) : ∃ a ∈ as, R a b :=
  exists_right h.flip hb

/-- Searches that tell related members alike find related members. -/
theorem find?_rel (h : Forall₂ R as bs) {p : α → Bool} {q : β → Bool}
    (hpq : ∀ a b, R a b → p a = q b) : Option.Rel R (as.find? p) (bs.find? q) := by
  induction h with
  | nil => exact .none
  | cons hab _ ih =>
    rw [find?_cons, find?_cons, hpq _ _ hab]
    split
    · exact .some hab
    · exact ih

theorem exists_of_forall (h : ∀ a ∈ as, ∃ b, R a b) : ∃ bs, Forall₂ R as bs := by
  induction as with
  | nil => exact ⟨[], .nil⟩
  | cons a as ih =>
    obtain ⟨⟨b, hb⟩, has⟩ := forall_mem_cons.mp h
    obtain ⟨bs, hbs⟩ := ih has
    exact ⟨b :: bs, .cons hb hbs⟩

/-- One relation after the other. -/
theorem comp {γ : Type} {S : β → γ → Prop} {cs : List γ} (h : Forall₂ R as bs) (h' : Forall₂ S bs cs) :
    Forall₂ (fun a c => ∃ b, R a b ∧ S b c) as cs := by
  induction h generalizing cs with
  | nil =>
    cases h'
    exact .nil
  | cons hab _ ih =>
    cases h' with
    | cons hbc h' => exact .cons ⟨_, hab, hbc⟩ (ih h')

/-- Members in between make a list in between. -/
theorem exists_between {γ : Type} {P : α → γ → Prop} {Q : β → γ → Prop}
    (h : Forall₂ (fun a b => ∃ c, P a c ∧ Q b c) as bs) : ∃ cs, Forall₂ P as cs ∧ Forall₂ Q bs cs := by
  induction h with
  | nil => exact ⟨[], .nil, .nil⟩
  | cons hab _ ih =>
    obtain ⟨c, hP, hQ⟩ := hab
    obtain ⟨cs, hPs, hQs⟩ := ih
    exact ⟨c :: cs, .cons hP hPs, .cons hQ hQs⟩

/-- Filters that tell related members alike keep related members. -/
theorem filter (h : Forall₂ R as bs) {p : α → Bool} {q : β → Bool}
    (hpq : ∀ a b, R a b → p a = q b) : Forall₂ R (as.filter p) (bs.filter q) :=
  rel_filter (fun a b hab => by show p a = true ↔ q b = true; rw [hpq a b hab]) h

/-- What is made alike of related members makes the same list. -/
theorem map_eq_map {γ : Type} {f : α → γ} {g : β → γ} (h : Forall₂ R as bs)
    (hfg : ∀ a b, R a b → f a = g b) : as.map f = bs.map g := by
  induction h with
  | nil => rfl
  | cons hab _ ih => rw [map_cons, map_cons, hfg _ _ hab, ih]

/-- Two related lists are the two columns of a list of pairs. -/
theorem exists_columns (h : Forall₂ R as bs) :
    ∃ es : List (α × β), es.map Prod.fst = as ∧ es.map Prod.snd = bs ∧ ∀ e ∈ es, R e.1 e.2 := by
  induction h with
  | nil => exact ⟨[], rfl, rfl, fun e he => absurd he not_mem_nil⟩
  | cons hab _ ih =>
    obtain ⟨es, rfl, rfl, hes⟩ := ih
    exact ⟨(_, _) :: es, rfl, rfl, forall_mem_cons.mpr ⟨hab, hes⟩⟩

end List.Forall₂

namespace Option.Rel

variable {α β : Type} {R : α → β → Prop} {o : Option α} {o' : Option β}

theorem exists_right (h : Option.Rel R o o') {a : α} (ha : o = .some a) :
    ∃ b, o' = .some b ∧ R a b := by
  cases h with
  | none => cases ha
  | some hab =>
    cases ha
    exact ⟨_, rfl, hab⟩

theorem exists_left (h : Option.Rel R o o') {b : β} (hb : o' = .some b) :
    ∃ a, o = .some a ∧ R a b := by
  cases h with
  | none => cases hb
  | some hab =>
    cases hb
    exact ⟨_, rfl, hab⟩

end Option.Rel

namespace Conformance

/-! ## Properties with something else under their keys -/

variable {V W : Type}

/-- A property with something else under its key. -/
def Property.map (f : V → W) (p : Property V) : Property W := ⟨p.key, p.label, f p.rule⟩

@[simp] theorem Property.key_map (f : V → W) (p : Property V) : (p.map f).key = p.key := rfl

@[simp] theorem Property.rule_map (f : V → W) (p : Property V) : (p.map f).rule = f p.rule := rfl

/-- A property without the identity of what stands under its key. -/
def Property.bare (p : Property V) : Property V := ⟨p.key, none, p.rule⟩

@[simp] theorem Property.key_bare (p : Property V) : p.bare.key = p.key := rfl

@[simp] theorem Property.rule_bare (p : Property V) : p.bare.rule = p.rule := rfl

/-- Which keys are specific does not depend on what stands under them. -/
theorem specific_map {f : Property V → Property W} (hkey : ∀ p, (f p).key = p.key)
    (ps : List (Property V)) : specific (ps.map f) = (specific ps).map f := by
  rw [specific, specific, List.filter_map]
  refine congrArg (List.map f) (List.filter_congr fun p _ => ?_)
  rw [Function.comp_apply, hkey]

/-- Which keys are about a property does not depend on what stands under them. -/
theorem claimants_map {f : Property V → Property W} (hkey : ∀ p, (f p).key = p.key)
    (ps : List (Property V)) (name : String) :
    claimants (ps.map f) name = (claimants ps name).map f := by
  have hclaim : (specific (ps.map f)).filter (fun p => p.key.claims name) =
      ((specific ps).filter fun p => p.key.claims name).map f := by
    rw [specific_map hkey, List.filter_map]
    refine congrArg (List.map f) (List.filter_congr fun p _ => ?_)
    rw [Function.comp_apply, hkey]
  have hfind : (ps.map f).find? (fun p => p.key.isCatchAll) =
      (ps.find? fun p => p.key.isCatchAll).map f := by
    rw [List.find?_map]
    refine congrArg (Option.map f) (congrArg (fun c => List.find? c ps) (funext fun p => ?_))
    rw [Function.comp_apply, hkey]
  rw [claimants, claimants, hclaim, hfind]
  cases (specific ps).filter fun p => p.key.claims name with
  | nil => cases ps.find? fun p => p.key.isCatchAll <;> rfl
  | cons p claiming => rfl

theorem mem_of_mem_specific {ps : List (Property V)} {p : Property V} (h : p ∈ specific ps) :
    p ∈ ps :=
  (List.mem_filter.mp h).1

/-- Every key that is about a property is a key of the pattern. -/
theorem mem_of_mem_claimants {ps : List (Property V)} {name : String} {p : Property V}
    (h : p ∈ claimants ps name) : p ∈ ps := by
  unfold claimants at h
  split at h
  · exact List.mem_of_find?_eq_some (Option.mem_toList.mp h)
  · exact mem_of_mem_specific (List.mem_filter.mp h).1

namespace Validator

/-! ## Induction on the tree -/

/-- **Induction on the tree of a validator.**  The parts of a choice and of an object pattern are the
members of a list, and each comes with its hypothesis. -/
@[elab_as_elim]
theorem treeInduction {P : Validator → Prop}
    (leaf : ∀ rule, P (leaf rule))
    (delegate : ∀ t, P (delegate t))
    (delegateTo : ∀ t copy, P copy → P (delegateTo t copy))
    (anyOf : ∀ vs, (∀ v ∈ vs, P v) → P (anyOf vs))
    (object : ∀ ps : List (Property Validator), (∀ p ∈ ps, P p.rule) → P (object ps))
    (arrayOf : ∀ items least most, P items → P (arrayOf items least most))
    (selfRef : ∀ session, P (selfRef session))
    (external : ∀ e, P (external e)) (v : Validator) : P v :=
  Validator.rec (motive_1 := P) (motive_2 := fun vs => ∀ v ∈ vs, P v)
    (motive_3 := fun ps => ∀ p ∈ ps, P p.rule) (motive_4 := fun p => P p.rule)
    leaf delegate delegateTo anyOf object arrayOf selfRef external
    (by simp) (fun _ _ hv hvs => List.forall_mem_cons.mpr ⟨hv, hvs⟩)
    (by simp) (fun _ _ hp hps => List.forall_mem_cons.mpr ⟨hp, hps⟩)
    (fun _ _ _ hrule => hrule) v

/-! ## Lists of parts -/

theorem names_eq_map (vs : List Validator) : names vs = vs.map name := by
  induction vs with
  | nil => rfl
  | cons v vs ih => rw [names, ih, List.map_cons]

theorem checks_eq_map (env : Env) (follow : Validator → Check) (vs : List Validator) :
    checks env follow vs = vs.map (check env follow) := by
  induction vs with
  | nil => rfl
  | cons v vs ih => rw [checks, ih, List.map_cons]

theorem propertyChecks_eq_map (env : Env) (follow : Validator → Check)
    (ps : List (Property Validator)) :
    propertyChecks env follow ps = ps.map (.map (check env follow)) := by
  induction ps with
  | nil => rfl
  | cons p ps ih =>
    rw [propertyChecks, ih, List.map_cons]
    rfl

theorem explainEach_eq_map (env : Env) (absent : Property Validator → Walk Bool)
    (follow : Validator → Check) (vs : List Validator) :
    explainEach env absent follow vs = vs.map fun v => ⟨v.name, v.explain env absent follow⟩ := by
  induction vs with
  | nil => rfl
  | cons v vs ih => rw [explainEach, ih, List.map_cons]

theorem propertyExplains_eq_map (env : Env) (absent : Property Validator → Walk Bool)
    (follow : Validator → Check) (ps : List (Property Validator)) :
    propertyExplains env absent follow ps = ps.map (.map (explain env absent follow)) := by
  induction ps with
  | nil => rfl
  | cons p ps ih =>
    rw [propertyExplains, ih, List.map_cons]
    rfl

/-! ## What lies below a validator -/

/-- The second validator stands directly below the first in its tree. -/
inductive Part : Validator → Validator → Prop where
  | copy (t : Target) (v : Validator) : Part (delegateTo t v) v
  | alternative {vs : List Validator} {v : Validator} : v ∈ vs → Part (anyOf vs) v
  | property {ps : List (Property Validator)} {p : Property Validator} :
    p ∈ ps → Part (object ps) p.rule
  | element (v : Validator) (least : Nat) (most : Option Nat) : Part (arrayOf v least most) v

/-- The second validator stands directly below the first in its tree, or is what the first, a live
delegate, stands for. -/
inductive Linked (slot : Nat → Slot) : Validator → Validator → Prop where
  | part {v w : Validator} : v.Part w → Linked slot v w
  | live {t : Target} {h : Handle} :
    slot t.id = .validator h → Linked slot (delegate t) h.validator

end Validator

namespace Env

/-- A step that a check takes from one validator to another: down the tree, through a live delegate,
or through a reference to the root of its session. -/
inductive Next (env : Env) : Validator → Validator → Prop where
  | linked {v w : Validator} : v.Linked env.slot w → Next env v w
  | root {session : Nat} {r : Validator} :
    env.root session = some r → Next env (.selfRef (some session)) r

/-- A check of the first validator can come to the second. -/
def Reaches (env : Env) : Validator → Validator → Prop := Relation.ReflTransGen env.Next

theorem Reaches.part {env : Env} {v w u : Validator} (h : v.Part w) (hw : env.Reaches w u) :
    env.Reaches v u :=
  .head (.linked (.part h)) hw

theorem Reaches.live {env : Env} {t : Target} {h : Handle} {u : Validator}
    (hslot : env.slot t.id = .validator h) (hw : env.Reaches h.validator u) :
    env.Reaches (.delegate t) u :=
  .head (.linked (.live hslot)) hw

theorem Reaches.root {env : Env} {session : Nat} {r u : Validator}
    (hroot : env.root session = some r) (hw : env.Reaches r u) :
    env.Reaches (.selfRef (some session)) u :=
  .head (.root hroot) hw

end Env

end Conformance
