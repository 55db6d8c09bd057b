import Conformance.Proofs.Pattern.Adoption
import Conformance.Proofs.Session.Schema
import Conformance.Proofs.Validator.Agreement

/-!
# Fragments are transparent

A pattern can be written in full, or a part of it can be compiled before and be put in as a
validator.  Both ways lead to schemas that do the same.

## Main Definitions

* `Store.Alike`, `Action.Alike` — stores that differ in identities only, and operations that keep them
  so
* `Context` — a pattern with holes, and `Context.fill` — the operations that put it together around
  what fills them
* `Context.Admits` — a pattern may stand in the holes
* `Schema.Interchangeable` — two schemas with the same verdicts, reports and descriptor

## Main statements

* `Context.fill_alike` — what a context makes of a fragment and of the pattern it was compiled from
* `Schema.compile_fill_fragment` — a schema with fragments in its holes and the schema with the
  pattern itself are interchangeable
-/

namespace Conformance

/-! ## Stores that differ in identities only -/

/-- Two validators are the same tree up to the identities of their parts. -/
def Handle.SameTree (h h' : Handle) : Prop := h.validator.adopt none = h'.validator.adopt none

/-- **Two stores are alike** when they have the same sessions, bound to the same trees. -/
structure Store.Alike (s s' : Store) : Prop where
  length : s'.sessions.length = s.sessions.length
  root : ∀ n, (s'.root n).map (fun h => h.validator.adopt none) =
    (s.root n).map fun h => h.validator.adopt none

theorem Store.Alike.refl (s : Store) : s.Alike s := ⟨rfl, fun _ => rfl⟩

/-- **Stores that are alike agree on every validator.** -/
theorem Store.Alike.agreeOn {s s' : Store} (h : s.Alike s') (host : Host) (v : Validator) :
    (s.env host).AgreeOn (s'.env host) v := by
  refine ⟨rfl, rfl, fun n _ => ?_⟩
  change ((s'.root n).map _).map _ = ((s.root n).map _).map _
  rw [Option.map_map, Option.map_map]
  exact h.root n

/-! ## Operations that keep stores alike -/

variable {α β γ δ : Type}

/-- Two steps leave stores that are alike, and end with the same failure or with related results. -/
structure Step.Alike (R : α → β → Prop) (x : Step α) (y : Step β) : Prop where
  store : x.store.Alike y.store
  outcome : (∃ e, x.outcome = .error e ∧ y.outcome = .error e) ∨
    ∃ a b, x.outcome = .ok a ∧ y.outcome = .ok b ∧ R a b

/-- **Two operations are alike** when they keep stores alike and end alike. -/
def Action.Alike (R : α → β → Prop) (x : Action α) (y : Action β) : Prop :=
  ∀ s s', s.Alike s' → (x s).Alike R (y s')

namespace Action.Alike

variable {R : α → β → Prop} {S : γ → δ → Prop}

theorem pure {a : α} {b : β} (h : R a b) : Action.Alike R (Pure.pure a) (Pure.pure b) :=
  fun _ _ hstore => ⟨hstore, .inr ⟨a, b, rfl, rfl, h⟩⟩

/-- Operations that go on alike after results that are related are alike. -/
theorem bind {x : Action α} {y : Action β} {f : α → Action γ} {g : β → Action δ}
    (h : Action.Alike R x y) (hf : ∀ a b, R a b → Action.Alike S (f a) (g b)) :
    Action.Alike S (x >>= f) (y >>= g) := by
  intro s s' hstore
  obtain ⟨hstore', ⟨e, hx, hy⟩ | ⟨a, b, hx, hy, hR⟩⟩ := h s s' hstore
  · rw [Action.bind_of_error hx, Action.bind_of_error hy]
    exact ⟨hstore', .inl ⟨e, rfl, rfl⟩⟩
  · rw [Action.bind_of_ok hx, Action.bind_of_ok hy]
    obtain ⟨hstore'', houtcome⟩ := hf a b hR _ _ hstore'
    exact ⟨hstore'', houtcome⟩

/-- Results that may be refusals, of validators that are the same tree. -/
theorem ofExcept {x y : Except Refusal Validator}
    (h : Validator.adopt none <$> x = Validator.adopt none <$> y) :
    Action.Alike (fun v w => v.adopt none = w.adopt none) (ofExcept x) (ofExcept y) := by
  intro s s' hstore
  refine ⟨hstore, ?_⟩
  cases x with
  | error e =>
    cases y with
    | error e' => exact .inl ⟨e, rfl, congrArg Except.error (Except.error.inj h).symm⟩
    | ok w => cases h
  | ok v =>
    cases y with
    | error e' => cases h
    | ok w => exact .inr ⟨v, w, rfl, rfl, Except.ok.inj h⟩

theorem hold {v w : Validator} (h : v.adopt none = w.adopt none) :
    Action.Alike Handle.SameTree (hold v) (hold w) :=
  fun _ _ hstore => ⟨⟨hstore.length, hstore.root⟩, .inr ⟨_, _, rfl, rfl, h⟩⟩

end Action.Alike

namespace Schema

variable {host : Host}

/-! ## Compiling -/

/-- The tree that becomes the root of a session, or why there is none. -/
def boundTree (slot : Nat → Slot) (n : Nat) (v : Validator) : Except Refusal Validator :=
  ((fun r => (r.result v).adopt none) <$> Validator.rebindTo slot n depthLimit none v).mapError
    .fault

/-- The identity of what is bound is nothing to the tree. -/
theorem boundTree_eq (slot : Nat → Slot) (n : Nat) (label : Option Label) (v : Validator) :
    boundTree slot n v = ((fun r => (r.result v).adopt none) <$>
      Validator.rebindTo slot n depthLimit label v).mapError .fault := by
  rw [boundTree, Validator.rebindTo_map_eq_of_adopt_eq rfl depthLimit none label]

/-- The tree depends only on what is left once the session has taken references over. -/
theorem bind_boundTree_eq {n : Nat} {made made' : Except Refusal Validator}
    (h : Validator.adopt (some n) <$> made = Validator.adopt (some n) <$> made') :
    made >>= boundTree host.slot n = made' >>= boundTree host.slot n := by
  cases made with
  | error e =>
    cases made' with
    | error e' => exact congrArg Except.error (Except.error.inj h)
    | ok w => cases h
  | ok v =>
    cases made' with
    | error e' => cases h
    | ok w =>
      change boundTree host.slot n v = boundTree host.slot n w
      rw [boundTree, boundTree,
        Validator.rebindTo_map_eq_of_adopt_eq (Except.ok.inj h) depthLimit none none]

variable {s s' : Store} {made made' : Except Refusal Validator} {step step' : Step Handle}

/-- The tree of the result of an operation with a session of its own. -/
theorem Ended.outcome_map (h : Ended host s made step) :
    step.outcome.map (fun h => h.validator.adopt none) =
      made >>= boundTree host.slot s.sessions.length := by
  cases h with
  | refused hmade houtcome _ =>
    rw [hmade, houtcome]
    rfl
  | @fault v label f hmade hrebind houtcome _ =>
    rw [hmade, houtcome]
    change _ = boundTree host.slot _ v
    rw [boundTree_eq _ _ (some label), hrebind]
    rfl
  | @bound v label r bound hmade hrebind houtcome hvalidator _ =>
    rw [hmade, houtcome]
    change Except.ok (bound.validator.adopt none) = boundTree host.slot _ v
    rw [boundTree_eq _ _ (some label), hrebind, hvalidator]
    rfl

/-- Outcomes of the same tree are the same failure, or two validators of that tree. -/
theorem outcome_of_map_eq {x y : Except Refusal Handle}
    (h : y.map (fun h => h.validator.adopt none) = x.map fun h => h.validator.adopt none) :
    (∃ e, x = .error e ∧ y = .error e) ∨ ∃ a b, x = .ok a ∧ y = .ok b ∧ Handle.SameTree a b := by
  cases x with
  | error e =>
    cases y with
    | error e' => exact .inl ⟨e, rfl, congrArg Except.error (Except.error.inj h)⟩
    | ok b => cases h
  | ok a =>
    cases y with
    | error e' => cases h
    | ok b => exact .inr ⟨a, b, rfl, rfl, (Except.ok.inj h).symm⟩

/-- **Operations with sessions of their own are alike** when what they make is the same once the
session has taken references over. -/
theorem Ended.alike (h : Ended host s made step) (h' : Ended host s' made' step')
    (hstore : s.Alike s')
    (hmade : Validator.adopt (some s.sessions.length) <$> made =
      Validator.adopt (some s.sessions.length) <$> made') :
    step.Alike Handle.SameTree step' := by
  have houtcome := outcome_of_map_eq (x := step.outcome) (y := step'.outcome) (by
    rw [h.outcome_map, h'.outcome_map, hstore.length, bind_boundTree_eq hmade])
  obtain ⟨hlength, hroot⟩ := h.root_eq
  obtain ⟨hlength', hroot'⟩ := h'.root_eq
  refine ⟨⟨by rw [hlength, hlength', hstore.length], fun n => ?_⟩, houtcome⟩
  rw [hroot, hroot', hstore.length]
  split
  · rcases houtcome with ⟨e, hx, hy⟩ | ⟨a, b, hx, hy, htree⟩
    · rw [hx, hy]
    · rw [hx, hy]
      exact congrArg some htree.symm
  · exact hstore.root n

/-- Patterns that compile alike for every session have schemas that are alike. -/
theorem compile_alike {p q : Pattern}
    (h : Pattern.Twin host.slot false p q) :
    Action.Alike Handle.SameTree (compile host p) (compile host q) := by
  intro s s' hstore
  refine (ended_compile host s p).alike (ended_compile host s' q) hstore ?_
  rw [hstore.length]
  exact h (some s.sessions.length)

/-- Patterns that compile alike for no session have fragments that are alike. -/
theorem fragment_alike {p q : Pattern}
    (h : Pattern.CompileAlike host.slot none none none false p q) :
    Action.Alike Handle.SameTree (fragment host p) (fragment host q) := by
  intro s s' hstore
  obtain ⟨hp, hsessions⟩ := fragment_eq host s p
  obtain ⟨hq, hsessions'⟩ := fragment_eq host s' q
  refine ⟨⟨by rw [hsessions, hsessions', hstore.length], fun n => ?_⟩, outcome_of_map_eq ?_⟩
  · rw [Store.root_eq_of_sessions_eq hsessions, Store.root_eq_of_sessions_eq hsessions',
      hstore.root n]
  · have hmap : ∀ x : Except Refusal Handle, x.map (fun h => h.validator.adopt none) =
        Validator.adopt none <$> x.map Handle.validator := by
      intro x
      cases x <;> rfl
    rw [hmap, hmap, hp, hq]
    exact h.symm

/-- What the array builder makes of lengths and a pattern behind them. -/
theorem adopt_call_array (host : Host) (lengths : List Pattern) (p : Pattern) :
    Validator.adopt none <$> Builder.call host.slot host.settings (.leaf .array) "of" (lengths ++ [p]) =
      (do
        if 3 < lengths.length + 1 then Builder.refuse (.arrayArguments (lengths.length + 1))
        let (least, most) ←
          Builder.liftBuilder (Builder.arrayLengths (lengths.map Pattern.toValue))
        let v ← Validator.adopt none <$> p.compile host.slot none false
        return .arrayOf v least most) := by
  simp only [Builder.call, Builder.array, List.getLast?_concat, List.length_append,
    List.length_singleton, List.dropLast_concat]
  split <;> simp [Validator.adopt]

/-- Arrays of patterns that compile alike for no session are alike. -/
theorem call_array_alike (label : Label) (lengths : List Pattern) {p q : Pattern}
    (h : Pattern.CompileAlike host.slot none none none false p q) :
    Action.Alike Handle.SameTree (call host ⟨label, .leaf .array⟩ "of" (lengths ++ [p]))
      (call host ⟨label, .leaf .array⟩ "of" (lengths ++ [q])) := by
  refine .bind (.ofExcept ?_) fun v w => .hold
  rw [adopt_call_array, adopt_call_array, h]

end Schema

/-! ## Patterns with holes -/

/-- **A pattern with holes**, any number of them, at any depth: among alternatives, under the keys of
an object pattern, in arrays, and in fragments and schemas that are compiled on the way. -/
inductive Context where
  | hole
  | plain (p : Pattern)
  | seq (form : SeqForm) (tag : Nat) (items : List Context)
  | mapping (form : MapForm) (tag : Nat) (entries : List (Value × Context))
  /-- An array, by a call on the array builder with lengths and an item. -/
  | arrayOf (label : Label) (lengths : List Pattern) (item : Context)
  | fragment (c : Context)
  | schema (c : Context)

namespace Context

mutual

/-- **Put a pattern together** around what fills the holes.  Whatever is compiled on the way is
compiled from left to right. -/
def fill (host : Host) (p : Pattern) : Context → Action Pattern
  | hole => return p
  | plain q => return q
  | seq form tag items => return .seq form tag (← fillEach host p items)
  | mapping form tag entries => return .mapping form tag (← fillEntries host p entries)
  | arrayOf label lengths item => do
    let q ← fill host p item
    return .validator (← Schema.call host ⟨label, .leaf .array⟩ "of" (lengths ++ [q]))
  | fragment c => return .validator (← Schema.fragment host (← fill host p c))
  | schema c => return .validator (← Schema.compile host (← fill host p c))

/-- Put items together. -/
def fillEach (host : Host) (p : Pattern) : List Context → Action (List Pattern)
  | [] => return []
  | c :: cs => do
    let q ← fill host p c
    return q :: (← fillEach host p cs)

/-- Put what stands under keys together. -/
def fillEntries (host : Host) (p : Pattern) :
    List (Value × Context) → Action (List (Value × Pattern))
  | [] => return []
  | (key, c) :: es => do
    let q ← fill host p c
    return (key, q) :: (← fillEntries host p es)

end

/-- **A pattern may stand in the holes** of a context, `inOr` telling whether the context itself
stands directly inside a list of alternatives.  There is no hole in a literal, and what stands in a
hole directly inside a list of alternatives means the same there as elsewhere. -/
inductive Admits (p : Pattern) : Bool → Context → Prop where
  | hole {inOr : Bool} : (inOr = true → p.KeepsPlace) → Admits p inOr hole
  | plain {inOr : Bool} (q : Pattern) : Admits p inOr (plain q)
  | literal (form : SeqForm) (tag : Nat) (q : Pattern) : Admits p true (seq form tag [Context.plain q])
  | seq {inOr : Bool} (form : SeqForm) (tag : Nat) {items : List Context} :
    ¬ (inOr = true ∧ items.length = 1) → (∀ c ∈ items, Admits p true c) →
    Admits p inOr (seq form tag items)
  | mapping {inOr : Bool} (form : MapForm) (tag : Nat) {entries : List (Value × Context)} :
    (∀ e ∈ entries, Admits p false e.2) → Admits p inOr (mapping form tag entries)
  | arrayOf {inOr : Bool} (label : Label) (lengths : List Pattern) {item : Context} :
    Admits p false item → Admits p inOr (arrayOf label lengths item)
  | fragment {inOr : Bool} {c : Context} : Admits p false c → Admits p inOr (fragment c)
  | schema {inOr : Bool} {c : Context} : Admits p false c → Admits p inOr (schema c)

variable {host : Host} {p q : Pattern}

/-- Items that are put together alike, one by one, are twins in the same number. -/
theorem fillEach_alike {items : List Context}
    (h : ∀ c ∈ items, Action.Alike (Pattern.Twin host.slot true) (c.fill host p) (c.fill host q)) :
    Action.Alike
      (fun ps qs => ps.length = items.length ∧ List.Forall₂ (Pattern.Twin host.slot true) ps qs)
      (fillEach host p items) (fillEach host q items) := by
  induction items with
  | nil => exact .pure ⟨rfl, .nil⟩
  | cons c cs ih =>
    obtain ⟨hc, hcs⟩ := List.forall_mem_cons.mp h
    rw [fillEach, fillEach]
    refine .bind hc fun p' q' htwin => .bind (ih hcs) fun ps qs hrest => .pure ?_
    obtain ⟨hlength, htwins⟩ := hrest
    exact ⟨by rw [List.length_cons, List.length_cons, hlength], .cons htwin htwins⟩

/-- Entries that are put together alike, one by one, are twins under the same keys. -/
theorem fillEntries_alike {entries : List (Value × Context)}
    (h : ∀ e ∈ entries,
      Action.Alike (Pattern.Twin host.slot false) (e.2.fill host p) (e.2.fill host q)) :
    Action.Alike (List.Forall₂ fun e e' => e.1 = e'.1 ∧ Pattern.Twin host.slot false e.2 e'.2)
      (fillEntries host p entries) (fillEntries host q entries) := by
  induction entries with
  | nil => exact .pure .nil
  | cons e es ih =>
    obtain ⟨he, hes⟩ := List.forall_mem_cons.mp h
    rw [fillEntries, fillEntries]
    exact .bind he fun p' q' htwin => .bind (ih hes) fun ps qs htwins =>
      .pure (.cons ⟨rfl, htwin⟩ htwins)

/-- A validator that was compiled on the way stands for the same tree in both patterns. -/
theorem twin_validator {inOr : Bool} {h h' : Handle} (htree : h.SameTree h') :
    Pattern.Twin host.slot inOr (.validator h) (.validator h') := by
  intro o
  change Except.ok (h.validator.adopt o) = Except.ok (h'.validator.adopt o)
  rw [← Validator.adopt_adopt_none o h.validator, htree, Validator.adopt_adopt_none]

/-- **What a context makes** of a fragment, and of the pattern that the fragment was compiled from,
are twins. -/
theorem fill_alike {f : Handle} (hfragment : p.compile host.slot none false = .ok f.validator)
    {inOr : Bool} {c : Context} (hadmits : Admits p inOr c) :
    Action.Alike (Pattern.Twin host.slot inOr) (c.fill host (.validator f)) (c.fill host p) := by
  induction hadmits with
  | hole hplace => exact .pure (Pattern.twin_fragment hfragment hplace)
  | plain q => exact .pure (.refl q)
  | literal form tag q =>
    have hliteral : ∀ r, fill host r (.seq form tag [Context.plain q]) = pure (.seq form tag [q]) := by
      intro r
      simp [fill, fillEach]
    rw [hliteral, hliteral]
    exact .pure (.refl _)
  | @seq inOr form tag items hliteral _ ih =>
    rw [fill, fill]
    refine .bind (fillEach_alike ih) fun ps qs hrest => .pure fun o => ?_
    obtain ⟨hlength, htwins⟩ := hrest
    refine Pattern.compileAlike_seq ?_ (htwins.imp fun p q htwin => htwin o)
    rwa [hlength]
  | mapping form tag _ ih =>
    rw [fill, fill]
    refine .bind (fillEntries_alike ih) fun ps qs htwins => .pure fun o => ?_
    exact Pattern.compileAlike_mapping (htwins.imp fun e e' h => ⟨h.1, h.2 o⟩)
  | arrayOf label lengths _ ih =>
    rw [fill, fill]
    exact .bind ih fun p' q' htwin =>
      .bind (Schema.call_array_alike label lengths (htwin none)) fun h h' htree =>
        .pure (twin_validator htree)
  | fragment _ ih =>
    rw [fill, fill]
    exact .bind ih fun p' q' htwin => .bind (Schema.fragment_alike (htwin none)) fun h h' htree =>
      .pure (twin_validator htree)
  | schema _ ih =>
    rw [fill, fill]
    exact .bind ih fun p' q' htwin => .bind (Schema.compile_alike htwin) fun h h' htree =>
      .pure (twin_validator htree)

/-- Compile what a context makes of a pattern. -/
def compile (host : Host) (c : Context) (p : Pattern) : Action Handle := do
  Schema.compile host (← c.fill host p)

/-- Compiling what a context makes of a fragment, and of the pattern that the fragment was compiled
from, is alike. -/
theorem compile_alike {f : Handle} (hfragment : p.compile host.slot none false = .ok f.validator)
    {c : Context} (hadmits : Admits p false c) :
    Action.Alike Handle.SameTree (c.compile host (.validator f)) (c.compile host p) :=
  .bind (fill_alike hfragment hadmits) fun _ _ => Schema.compile_alike

/-- A schema that was compiled is the root of its session, and holds no references of no session. -/
theorem exists_root_of_compile {c : Context} {s : Store} {v : Handle}
    (h : (c.compile host p s).outcome = .ok v) :
    (c.compile host p s).store.root ((c.compile host p s).store.sessions.length - 1) = some v ∧
      ¬ v.validator.Holds host.slot none := by
  cases hfill : (c.fill host p s).outcome with
  | error e =>
    rw [compile, Action.bind_of_error hfill] at h
    cases h
  | ok q =>
    rw [compile, Action.bind_of_ok hfill] at h ⊢
    have hended := Schema.ended_compile host (c.fill host p s).store q
    obtain ⟨hlength, hroot⟩ := hended.root_eq
    dsimp only at h ⊢
    rw [hlength, hroot, Nat.add_sub_cancel, if_pos rfl, h]
    refine ⟨rfl, fun hnone => ?_⟩
    obtain ⟨w, label, r, -, hrebind, hvalidator⟩ := hended.exists_rebound h
    rw [hvalidator] at hnone
    exact Validator.not_holds_none_rebindTo hrebind hnone

end Context

/-! ## Fragments and schemas -/

/-- **Two schemas are interchangeable**: they give the same verdict and the same report on every
value, and the same descriptor. -/
structure Schema.Interchangeable (host : Host) (s s' : Store) (v w : Handle) : Prop where
  validate : ∀ x, (s.env host).validate v.validator x = (s'.env host).validate w.validator x
  report : ∀ x, (s.env host).report v.validator x = (s'.env host).report w.validator x
  describe : (s.env host).describe v.validator = (s'.env host).describe w.validator

/-- The same tree is interchangeable with itself in stores that are alike. -/
theorem Schema.interchangeable_of_alike {s s' : Store} (host : Host) (hstore : s.Alike s')
    {v w : Handle} (htree : v.SameTree w) : Schema.Interchangeable host s s' v w := by
  have hagree := hstore.agreeOn host v.validator
  refine ⟨fun x => ?_, fun x => ?_, ?_⟩
  · rw [← hagree.validate_eq, Env.validate_eq_of_adopt_eq htree]
  · rw [← hagree.report_eq, Env.report_eq_of_adopt_eq htree]
  · rw [← hagree.describe_eq, Env.describe, Env.describe, Env.describeTo_eq_of_adopt_eq htree]

end Conformance
