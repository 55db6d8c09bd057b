import Conformance.Proofs.Mismatch
import Conformance.Proofs.Validator.Findings

/-!
# The places of a walk

The check that explains takes a walk at every place that it comes to: a validator and the value that it
is about, the path of the value, and how many references and delegates may still lead on from there.

## Main Definitions

* `Place`, `Env.walk` — a place and the walk that is taken there
* `Env.Enters` — a place whose walk is a part of the walk at another place
* `Env.Tries` — a place of an alternative, whose walk is taken aside
* `Env.Collects`, `Env.Visits` — all places that a walk comes to, outside of alternatives and with them
* `Env.Noted` — a mismatch that is noted at a place itself
* `Env.Accounts` — a walk whose mismatches and whose refusal come from a place or one that it enters

## Main statements

* `Env.placeInduction` — induction from the places that are entered or tried to the place itself
* `Env.explain_object`, `Env.explain_arrayOf`, `Env.explain_anyOf` — a walk by the walks at the places
  that it comes to
* `Env.Visits.extends` — the paths of these places go on from the path of the first
* `Env.collects_of_visits` — without a choice on the way, all places are outside of alternatives
* `Env.walk_accounts`, `Env.exists_noted` — where the mismatches of a walk come from, in one step and in
  all
* `Env.extends_of_mem_found` — they lie at the path of the place or further on
-/

namespace Conformance

open Walk

/-! ## The rules that tests name -/

/-- The test of a bound names the rule of the bound. -/
theorem Bounds.rule_boundTest {v : Value} {rule sign : String} {holds : Num → Bool} {o : Option Num} :
    ∀ t ∈ boundTest v rule sign holds o, t.rule = rule := by
  cases o <;> simp [boundTest, Test.plain]

/-- No test of a rule is the one of a choice. -/
theorem Leaf.rule_ne_anyOf (tolerance : Binary64) (rule : Leaf) (v : Value) :
    ∀ t ∈ rule.tests tolerance v, t.rule ≠ "any_of" := by
  cases rule with
  | number b =>
    cases v with
    | number n =>
      have hbound : ∀ {name sign : String} {holds : Num → Bool} {o : Option Num}, name ≠ "any_of" →
          ∀ t ∈ Bounds.boundTest (.number n) name sign holds o, t.rule ≠ "any_of" :=
        fun hname t ht => (Bounds.rule_boundTest t ht).trans_ne hname
      simp only [tests, Bounds.tests, List.forall_mem_append, List.forall_mem_map]
      exact ⟨⟨⟨⟨hbound (by decide), hbound (by decide)⟩, hbound (by decide)⟩, hbound (by decide)⟩,
        fun _ _ => by decide⟩
    | _ => simp [tests, Test.plain]
  | string | stringOf rule => cases v <;> simp [tests, textTest, Test.plain]
  | sequenceLike x | mappingLike x =>
    simp only [tests]
    split <;> simp [sequenceTest, mappingTest, Test.plain]
  | _ => simp [tests, sequenceTest, mappingTest, Test.plain]

/-- What stands in the place of a validator names one rule. -/
theorem Slot.rule_test (t : Target) (v : Value) (slot : Slot) : (slot.test t v).rule = "schema" := by
  cases slot <;> rfl

/-- A test notes nothing but its mismatch. -/
theorem Test.eq_of_mem_found_explain {path : String} {t : Test} {m : Mismatch}
    (h : m ∈ (t.explain path).found) : m = t.mismatch path := by
  rcases mem_found_bind h with hm | ⟨passed, -, hm⟩
  · cases hm
  · cases passed with
    | true => cases hm
    | false => exact List.mem_singleton.mp hm

/-! ## Places -/

/-- **A place of a walk.** -/
structure Place where
  /-- The number of references and delegates that may lead on. -/
  depth : Nat
  validator : Validator
  value : Value
  path : String

namespace Env

variable {env : Env} {a b c : Place}

/-- The walk at a place. -/
def walk (env : Env) (a : Place) : Walk Bool := env.explain a.depth a.validator a.value a.path

/-- **The second place is entered from the first**: what it notes, the first notes. -/
inductive Enters (env : Env) : Place → Place → Prop where
  | copy {depth : Nat} {t : Target} {v : Validator} {x : Value} {path : String} :
    Enters env ⟨depth, .delegateTo t v, x, path⟩ ⟨depth, v, x, path⟩
  | live {depth : Nat} {t : Target} {h : Handle} {x : Value} {path : String} :
    env.slot t.id = .validator h →
    Enters env ⟨depth + 1, .delegate t, x, path⟩ ⟨depth, h.validator, x, path⟩
  | root {depth session : Nat} {r : Validator} {x : Value} {path : String} :
    env.root session = some r →
    Enters env ⟨depth + 1, .selfRef (some session), x, path⟩ ⟨depth, r, x, path⟩
  | property {depth : Nat} {ps : List (Property Validator)} {form : MapForm} {tag : Nat}
      {es : List (Value × Value)} {path : String} {e : Value × Value} {p : Property Validator} :
    e ∈ es → p ∈ claimants ps e.1.nameText →
    Enters env ⟨depth, .object ps, .mapping form tag es, path⟩
      ⟨depth, p.rule, e.2, Path.member path e.1.nameText⟩
  | element {depth : Nat} {item : Validator} {least : Nat} {most : Option Nat} {form : SeqForm}
      {tag : Nat} {items : List Value} {path : String} {e : Value × Nat} :
    e ∈ items.zipIdx →
    Enters env ⟨depth, .arrayOf item least most, .seq form tag items, path⟩
      ⟨depth, item, e.1, Path.index path e.2⟩

/-- **The second place is tried from the first**, a choice: the first notes what it notes as a group,
and only if all alternatives fail. -/
inductive Tries : Place → Place → Prop where
  | alternative {depth : Nat} {vs : List Validator} {w : Validator} {x : Value} {path : String} :
    w ∈ vs → Tries ⟨depth, .anyOf vs, x, path⟩ ⟨depth, w, x, path⟩

/-- A place that a walk comes to outside of alternatives. -/
def Collects (env : Env) : Place → Place → Prop := Relation.ReflTransGen env.Enters

/-- A place that a walk comes to. -/
def Visits (env : Env) : Place → Place → Prop :=
  Relation.ReflTransGen fun a b => env.Enters a b ∨ Tries a b

theorem Enters.next (h : env.Enters a b) : env.Next a.validator b.validator := by
  cases h with
  | copy => exact .linked (.part (.copy _ _))
  | live hslot => exact .linked (.live hslot)
  | root hroot => exact .root hroot
  | property _ hp => exact .linked (.part (.property (mem_of_mem_claimants hp)))
  | element _ => exact .linked (.part (.element _ _ _))

theorem Tries.next (h : Tries a b) : env.Next a.validator b.validator := by
  cases h with
  | alternative hw => exact .linked (.part (.alternative hw))

/-- **Induction on places**: what holds of a place if it holds of all that are entered or tried from
there, holds of every place. -/
@[elab_as_elim]
theorem placeInduction (env : Env) {P : Place → Prop}
    (step : ∀ a, (∀ b, env.Enters a b → P b) → (∀ b, Tries a b → P b) → P a) (a : Place) : P a := by
  obtain ⟨depth, v, x, path⟩ := a
  -- references and live delegates lead to a smaller depth, all others down the tree
  induction depth using Nat.strongRecOn generalizing v x path with
  | ind depth ihdepth =>
    induction v using Validator.treeInduction generalizing x path with
    | delegateTo t copy ih => exact step _ (fun | _, .copy => ih x path) nofun
    | anyOf vs ih => exact step _ nofun (fun | _, .alternative hw => ih _ hw x path)
    | object ps ih =>
      exact step _ (fun | _, .property _ hp => ih _ (mem_of_mem_claimants hp) _ _) nofun
    | arrayOf item least most ih => exact step _ (fun | _, .element _ => ih _ _) nofun
    | delegate t => exact step _ (fun | _, .live _ => ihdepth _ (Nat.lt_succ_self _) _ x path) nofun
    | selfRef session =>
      exact step _ (fun | _, .root _ => ihdepth _ (Nat.lt_succ_self _) _ x path) nofun
    | leaf rule => exact step _ nofun nofun
    | external e => exact step _ nofun nofun

/-! ## A walk by the walks that it is made of -/

/-- The walk of an object pattern over a mapping: every property by every key that is about it, and then
the numbers of properties of all specific keys. -/
theorem explain_object (env : Env) (depth : Nat) (ps : List (Property Validator)) (form : MapForm)
    (tag : Nat) (es : List (Value × Value)) (path : String) :
    env.explain (depth + 1) (.object ps) (.mapping form tag es) path =
      (every (fun e => every (fun p =>
        env.explain (depth + 1) p.rule e.2 (Path.member path e.1.nameText))
        (claimants ps e.1.nameText)) es >>= fun conform =>
      every (Explain.count (fun p => env.absence (depth + 1) p.key p.rule) path (propertyNames es))
        (specific ps) >>= fun counted => Pure.pure (conform && counted)) := by
  simp only [explain, Validator.explain, Validator.propertyExplains_eq_map, Explain.object,
    Explain.entries, claimants_map (Property.key_map _), every_map, Property.rule_map]

/-- The walk of an array over a sequence: the length, and then every element. -/
theorem explain_arrayOf (env : Env) (depth : Nat) (item : Validator) (least : Nat) (most : Option Nat)
    (form : SeqForm) (tag : Nat) (items : List Value) (path : String) :
    env.explain (depth + 1) (.arrayOf item least most) (.seq form tag items) path =
      ((if withinLengths least most items.length then Pure.pure true
        else Walk.reject (lengthMismatch path least most items.length)) >>= fun fits =>
      every (fun e => env.explain (depth + 1) item e.1 (Path.index path e.2)) items.zipIdx >>=
        fun conform => Pure.pure (fits && conform)) := by
  simp only [explain, Validator.explain, Explain.arrayOf]
  cases withinLengths least most items.length <;> rfl

/-- The walk of a choice: one mismatch with all groups, unless an alternative accepts. -/
theorem explain_anyOf (env : Env) (depth : Nat) (vs : List Validator) (x : Value) (path : String) :
    env.explain (depth + 1) (.anyOf vs) x path =
      (Explain.groups x path (vs.map fun w => ⟨w.name, env.explain (depth + 1) w⟩) >>= fun r =>
        match r with
        | none => Pure.pure true
        | some groups =>
          Walk.reject ⟨path, "any_of", (Validator.anyOf vs).name, x.represent, groups⟩) := by
  rw [explain, Validator.explain, Validator.explainEach_eq_map]
  rfl

section Same

variable {depth : Nat} {x : Value} {path : String}

/-- The copy of a delegate takes the walk of the delegate. -/
theorem explain_delegateTo {t : Target} {v : Validator} :
    env.explain depth (.delegateTo t v) x path = env.explain depth v x path := by
  cases depth with
  | zero => rfl
  | succ depth => simp only [explain, Validator.explain]

/-- A live delegate takes the walk of the validator that it stands for. -/
theorem explain_delegate {t : Target} {h : Handle} (hslot : env.slot t.id = .validator h) :
    env.explain (depth + 1) (.delegate t) x path = env.explain depth h.validator x path := by
  simp only [explain, Validator.explain, hslot]

/-- A reference takes the walk of the root of its session. -/
theorem explain_selfRef {session : Nat} {r : Validator} (hroot : env.root session = some r) :
    env.explain (depth + 1) (.selfRef (some session)) x path = env.explain depth r x path := by
  simp only [explain, Validator.explain, Option.bind_some, hroot]

end Same

/-! ## Paths and choices on the way -/

theorem Enters.extends (h : env.Enters a b) : Path.Extends a.path b.path := by
  cases h with
  | copy | live _ | root _ => exact .self
  | property _ _ => exact .member _ .self
  | element _ => exact .index _ .self

theorem Tries.extends (h : Tries a b) : Path.Extends a.path b.path := by
  cases h with
  | alternative _ => exact .self

/-- **The paths of the places that a walk comes to** go on from the path where it begins. -/
theorem Visits.extends (h : env.Visits a b) : Path.Extends a.path b.path := by
  induction h with
  | refl => exact .self
  | tail _ hstep ih => exact ih.trans (hstep.elim Enters.extends Tries.extends)

theorem Collects.visits (h : env.Collects a b) : env.Visits a b :=
  Relation.ReflTransGen.mono (fun _ _ => .inl) _ _ h

/-- **Without a choice on the way**, a walk comes to all places outside of alternatives. -/
theorem collects_of_visits (hfree : env.ChoiceFree a.validator) (h : env.Visits a b) :
    env.Collects a b := by
  induction h using Relation.ReflTransGen.head_induction_on with
  | refl => exact .refl
  | head hstep _ ih =>
    rcases hstep with henters | htries
    · exact .head henters (ih (hfree.next henters.next))
    · cases htries with
      | alternative _ => exact absurd .refl (hfree _)

/-! ## What is noted at a place itself -/

/-- **A mismatch that is noted at a place itself** and not at one that is entered from there: a failure
without alternatives, or the failure of a choice with its groups. -/
inductive Noted (env : Env) (a : Place) : Mismatch → Prop where
  | failure {m : Mismatch} :
    Path.Extends a.path m.path → m.rule ≠ "any_of" → m.alternatives = [] → Noted env a m
  | choice {vs : List Validator} {groups : List (List Mismatch)} :
    a.validator = .anyOf vs →
    (Explain.groups a.value a.path (vs.map fun w => ⟨w.name, env.explain a.depth w⟩)).outcome =
      .ok (some groups) →
    Noted env a ⟨a.path, "any_of", (Validator.anyOf vs).name, a.value.represent, groups⟩

theorem Noted.extends {m : Mismatch} (h : env.Noted a m) : Path.Extends a.path m.path := by
  cases h with
  | failure hpath => exact hpath
  | choice => exact .self

theorem noted_leaf {rule expected actual path : String} (hpath : Path.Extends a.path path)
    (hrule : rule ≠ "any_of") : env.Noted a (.leaf path rule expected actual) :=
  .failure hpath hrule rfl

/-! ## What a walk says of its place -/

/-- **A walk that accounts for a place**: what it notes is noted at the place itself or at one that is
entered from there, and so is its refusal, unless it is that of a validator of the host. -/
structure Accounts (env : Env) (a : Place) (w : Walk Bool) : Prop where
  noted : ∀ m ∈ w.found, env.Noted a m ∨ ∃ b, env.Enters a b ∧ m ∈ (env.walk b).found
  refused : w.outcome = .ok false → w.found ≠ [] ∨
    (∃ b, env.Enters a b ∧ (env.walk b).outcome = .ok false) ∨
    ∃ e, a.validator = .external e ∧ e.verdict a.value = .ok false

section Accounts

variable {α : Type} {w w' : Walk Bool} {m : Mismatch}

theorem accounts_own (hnoted : ∀ m ∈ w.found, env.Noted a m) (htells : w.Tells) : env.Accounts a w where
  noted m hm := .inl (hnoted m hm)
  refused h := .inl (htells.refused h)

theorem accounts_reject (h : env.Noted a m) : env.Accounts a (reject m) :=
  accounts_own (fun _ hm => List.mem_singleton.mp hm ▸ h) (tells_reject m)

theorem accounts_entered (h : env.Enters a b) : env.Accounts a (env.walk b) where
  noted _ hm := .inr ⟨b, h, hm⟩
  refused hb := .inr (.inl ⟨b, h, hb⟩)

theorem Accounts.and_then (hw : env.Accounts a w) (hw' : env.Accounts a w') :
    env.Accounts a (w >>= fun c => w' >>= fun c' => Pure.pure (c && c')) where
  noted m hm := by
    rcases mem_found_bind hm with hm | ⟨_, -, hm⟩
    · exact hw.noted m hm
    · rcases mem_found_bind hm with hm | ⟨_, -, hm⟩
      · exact hw'.noted m hm
      · cases hm
  refused h := by
    obtain ⟨c, c', hc, hc', hand, hfound⟩ := both_eq_ok h
    rw [hfound]
    rcases Bool.and_eq_false_iff.mp hand.symm with rfl | rfl
    · exact (hw.refused hc).imp_left fun hne => List.append_ne_nil_of_left_ne_nil hne _
    · exact (hw'.refused hc').imp_left fun hne => List.append_ne_nil_of_right_ne_nil _ hne

theorem Accounts.every {step : α → Walk Bool} {xs : List α} (h : ∀ x ∈ xs, env.Accounts a (step x)) :
    env.Accounts a (Walk.every step xs) := by
  induction xs with
  | nil => exact accounts_own (fun _ hm => by cases hm) tells_pure_true
  | cons x xs ih =>
    obtain ⟨hx, hxs⟩ := List.forall_mem_cons.mp h
    exact hx.and_then (ih hxs)

theorem accounts_test {t : Test} (hrule : t.rule ≠ "any_of") : env.Accounts a (t.explain a.path) := by
  refine accounts_own (fun m hm => ?_) (t.explain_tells a.path)
  obtain rfl := Test.eq_of_mem_found_explain hm
  exact noted_leaf .self hrule

/-- Counting the properties of a key accounts for the place of the object pattern. -/
theorem accounts_count (names : List String) (p : Property Validator) :
    env.Accounts a (Explain.count (fun p => env.absence a.depth p.key p.rule) a.path names p) := by
  refine accounts_own (fun m hm => ?_) (Explain.count_tells (found_guarded _ _) _ _)
  simp only [Explain.count] at hm
  cases hjudge : p.key.judge (p.key.count names) with
  | allowed =>
    rw [hjudge] at hm
    cases hm
  | violated expected =>
    rw [hjudge] at hm
    obtain rfl := List.mem_singleton.mp hm
    exact noted_leaf .self (by decide)
  | absent =>
    rw [hjudge] at hm
    rcases mem_found_bind hm with hm | ⟨passed, -, hm⟩
    · rw [absence, absenceWalk, found_guarded] at hm
      cases hm
    · cases passed with
      | true => cases hm
      | false =>
        obtain rfl := List.mem_singleton.mp hm
        exact noted_leaf (.member _ .self) (by decide)

end Accounts

/-- **One step**: the walk at a place accounts for the place. -/
theorem walk_accounts (env : Env) (a : Place) : env.Accounts a (env.walk a) := by
  obtain ⟨depth, v, x, path⟩ := a
  cases depth with
  | zero => exact accounts_own (fun _ hm => by cases hm) (tells_of_fault rfl)
  | succ depth =>
    cases v with
    | leaf rule => exact .every fun t ht => accounts_test (rule.rule_ne_anyOf _ _ t ht)
    | delegate t =>
      cases hslot : env.slot t.id with
      | validator h =>
        rw [walk, explain_delegate hslot]
        exact accounts_entered (.live hslot)
      | _ =>
        simp only [walk, explain, Validator.explain, hslot]
        exact accounts_test (by rw [Slot.rule_test]; decide)
    | delegateTo t copy =>
      rw [walk, explain_delegateTo]
      exact accounts_entered .copy
    | anyOf vs =>
      refine accounts_own (fun m hm => ?_) (Explain.anyOf_tells _ _ x path)
      rw [walk, explain_anyOf] at hm
      rcases mem_found_bind hm with hm | ⟨r, hr, hm⟩
      · rw [Explain.found_groups] at hm
        cases hm
      · cases r with
        | none => cases hm
        | some groups =>
          obtain rfl := List.mem_singleton.mp hm
          exact .choice rfl hr
    | object ps =>
      cases x with
      | mapping form tag es =>
        rw [walk, explain_object]
        exact .and_then (.every fun e he => .every fun p hp => accounts_entered (.property he hp))
          (.every fun p _ => accounts_count _ p)
      | _ => exact accounts_reject (noted_leaf .self (show "object" ≠ "any_of" by decide))
    | arrayOf item least most =>
      cases x with
      | seq form tag items =>
        rw [walk, explain_arrayOf]
        refine .and_then ?_ (.every fun e he => accounts_entered (.element he))
        split
        · exact accounts_own (fun _ hm => by cases hm) tells_pure_true
        · exact accounts_reject (noted_leaf .self (by decide))
      | _ => exact accounts_reject (noted_leaf .self (show "array" ≠ "any_of" by decide))
    | selfRef session =>
      cases hroot : session.bind env.root with
      | some r =>
        obtain ⟨n, rfl, hr⟩ := Option.bind_eq_some_iff.mp hroot
        rw [walk, explain_selfRef hr]
        exact accounts_entered (.root hr)
      | none =>
        simp only [walk, explain, Validator.explain, hroot]
        refine accounts_own (fun m hm => ?_) (.after rfl fun _ _ => tells_reject _)
        obtain rfl := List.mem_singleton.mp hm
        exact noted_leaf .self (by decide)
    | external e => exact ⟨List.forall_mem_nil _, fun h => .inr (.inr ⟨e, rfl, h⟩)⟩

/-- **What a walk notes** is noted at a place that it comes to outside of alternatives. -/
theorem exists_noted {m : Mismatch} (h : m ∈ (env.walk a).found) :
    ∃ b, env.Collects a b ∧ env.Noted b m := by
  induction a using placeInduction env with
  | step a ih _ =>
    rcases (env.walk_accounts a).noted m h with hnoted | ⟨b, hstep, hm⟩
    · exact ⟨a, .refl, hnoted⟩
    · obtain ⟨c, hcollects, hnoted⟩ := ih b hstep hm
      exact ⟨c, .head hstep hcollects, hnoted⟩

/-- **The paths of all that a walk notes** go on from the path where it begins. -/
theorem extends_of_mem_found {m : Mismatch} (h : m ∈ (env.walk a).found) :
    Path.Extends a.path m.path := by
  obtain ⟨b, hcollects, hnoted⟩ := exists_noted h
  exact hcollects.visits.extends.trans hnoted.extends

end Env

end Conformance
