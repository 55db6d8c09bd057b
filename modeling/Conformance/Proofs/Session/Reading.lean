import Conformance.Proofs.Session.RoundTrip
import Conformance.Proofs.Validator.Decision

/-!
# Compiling implements the reading of patterns

The validator of a pattern says what the pattern says, form by form.  What a session binds is a copy
in which references of no session have become its own, and a check of that copy decides the reading
of the whole pattern.

## Main Definitions

* `Meaning.Alike`, `Readable.Alike` — forms that say alike, and readings that are alike

## Main statements

* `Pattern.alike_compile` — the validator of a pattern is read as the pattern is
* `Validator.answersFor_of_freeze`, `Env.check_rebound_answers` — a check of what was rebound answers
  the reading of the open validator
* `Accepts.arrayOf_iff` — what `array.of` makes of a pattern is read as an array of that pattern
* `Schema.validate_eq_reading` — the verdict of a schema is the reading of its pattern
-/

namespace Conformance

variable {env : Env} {root : Pattern} {inOr : Bool}

/-! ## Forms that say alike -/

/-- **Two forms say alike**: they are the same test, or are put together alike from readings that are
related one by one; the first raises only where the second does. -/
inductive Meaning.Alike {R : Type} (related : R → R → Prop) : Meaning R → Meaning R → Prop where
  | test {holds holds' raises raises' : Value → Prop} : (∀ x, holds x ↔ holds' x) →
    (∀ x, raises x → raises' x) → Alike related (.test holds raises) (.test holds' raises')
  | same {r r' : R} : related r r' → Alike related (.same r) (.same r')
  | choice {rs rs' : List R} : List.Forall₂ related rs rs' → Alike related (.choice rs) (.choice rs')
  | object {ps qs : List (Property R)} :
    List.Forall₂ (fun p q => p.key = q.key ∧ related p.rule q.rule) ps qs →
    Alike related (.object ps) (.object qs)

/-- **Two readings are alike**: they accept the same values, and the first settles what the second
does. -/
def Readable.Alike (env : Env) (root : Pattern) (s r : Readable) : Prop :=
  ∀ x, (Accepts env root s x ↔ Accepts env root r x) ∧
    ∀ n, Settles env root n r x → Settles env root n s x

theorem Readable.Alike.refl (r : Readable) : r.Alike env root r := fun _ => ⟨Iff.rfl, fun _ => id⟩

/-- What a form says of readings that are alike. -/
theorem Meaning.Alike.holds_iff {m m' : Meaning Readable}
    (h : Meaning.Alike (Readable.Alike env root) m m') (x : Value) :
    m.Holds (Accepts env root) x ↔ m'.Holds (Accepts env root) x := by
  cases h with
  | test hholds hraises => exact hholds x
  | same hrelated => exact (hrelated x).1
  | choice hall =>
    constructor
    · rintro ⟨r, hr, haccepts⟩
      obtain ⟨r', hr', hrelated⟩ := hall.exists_right hr
      exact ⟨r', hr', (hrelated x).1.mp haccepts⟩
    · rintro ⟨r', hr', haccepts⟩
      obtain ⟨r, hr, hrelated⟩ := hall.exists_left hr'
      exact ⟨r, hr, (hrelated x).1.mpr haccepts⟩
  | object hall =>
    constructor
    · rintro ⟨form, tag, es, rfl, hconforms⟩
      exact ⟨form, tag, es, rfl, hconforms.congr hall (fun p q hpq => hpq.1)
        fun p q hpq x => (hpq.2 x).1.mp⟩
    · rintro ⟨form, tag, es, rfl, hconforms⟩
      exact ⟨form, tag, es, rfl, hconforms.congr hall.flip (fun q p hpq => hpq.1.symm)
        fun q p hpq x => (hpq.2 x).1.mpr⟩

/-- What a form settles. -/
theorem Meaning.Alike.settled {m m' : Meaning Readable}
    (h : Meaning.Alike (Readable.Alike env root) m m') {n : Nat} {x : Value}
    (hsettled : m'.Settled (Settles env root n) x) : m.Settled (Settles env root n) x := by
  cases h with
  | test hholds hraises => exact fun hx => hsettled (hraises x hx)
  | same hrelated => exact (hrelated x).2 n hsettled
  | choice hall =>
    intro r hr
    obtain ⟨r', hr', hrelated⟩ := hall.exists_right hr
    exact (hrelated x).2 n (hsettled r' hr')
  | object hall =>
    intro form tag es hx p y hasked
    obtain ⟨q, ⟨hkey, hrelated⟩, hasked'⟩ :=
      hasked.exists_left hall.flip fun q p hpq => hpq.1.symm
    exact (hrelated y).2 n (hsettled form tag es hx q y hasked')

/-- Readings of forms that say alike are alike. -/
theorem Readable.alike_of_meaning {s r : Readable}
    (h : Meaning.Alike (Readable.Alike env root) (s.meaning env root) (r.meaning env root)) :
    s.Alike env root r := by
  intro x
  refine ⟨accepts_iff.trans ((h.holds_iff x).trans accepts_iff.symm), fun n hsettles => ?_⟩
  cases n with
  | zero => exact hsettles.elim
  | succ n => exact h.settled hsettles

/-! ## What patterns compile to -/

namespace Pattern

variable {related : Readable → Readable → Prop}

/-- Only primitives of one kind are equal, and numbers by value. -/
theorem deepEqual_toValue_iff (x : Value) (y : Primitive) : x.deepEqual y.toValue = true ↔
    match y with
    | .bool b => x = .bool b
    | .number n => ∃ m, x = .number m ∧ m.eqv n = true
    | .text s => x = .text s := by
  cases y <;> cases x <;> simp [Primitive.toValue, Value.deepEqual]

/-- A leaf with one test says what the test does. -/
theorem alike_leaf {rule : Leaf} {holds raises : Value → Prop} (t : Value → Test)
    (htests : ∀ x, rule.tests env.stepTolerance x = [t x])
    (hholds : ∀ x, (t x).holds = .ok true ↔ holds x)
    (hraises : ∀ x e, (t x).holds = .error e → raises x) :
    Meaning.Alike related ((Readable.validator true (.leaf rule)).meaning env root)
      (.test holds raises) := by
  refine .test (fun x => ?_) fun x hx => ?_
  · rw [htests, List.forall_mem_singleton]
    exact hholds x
  · obtain ⟨e, he⟩ := hx
    rw [htests, Test.outcome_checkAll_singleton] at he
    exact hraises x e he

/-- A leaf with one test that is passed or not. -/
theorem alike_plain {rule : Leaf} {holds : Value → Prop} (name expected : String)
    (passed : Value → Bool)
    (htests : ∀ x, rule.tests env.stepTolerance x = [.plain name expected x (passed x)])
    (hpassed : ∀ x, passed x = true ↔ holds x) :
    Meaning.Alike related ((Readable.validator true (.leaf rule)).meaning env root)
      (.plain holds) := by
  refine alike_leaf (fun x => .plain name expected x (passed x)) htests (fun x => ?_) ?_
  · rw [Test.plain, Except.ok.injEq]
    exact hpassed x
  · intro x e he
    cases he

/-- **A pattern without parts says what its validator says.** -/
theorem alike_compileValue {y : Value} {v : Validator}
    (h : compileValue env.slot none inOr y = .ok v) :
    Meaning.Alike (Readable.Alike env root) ((Readable.validator true v).meaning env root)
      (Pattern.meaning env root inOr (.value y)) := by
  cases y with
  | null =>
    cases h
    exact alike_plain _ _ _ (fun x => rfl) fun x => by cases x <;> simp
  | bool b =>
    cases h
    exact alike_plain _ _ _ (fun x => rfl) fun x => deepEqual_toValue_iff x (.bool b)
  | number n =>
    cases h
    exact alike_plain _ _ _ (fun x => rfl) fun x => deepEqual_toValue_iff x (.number n)
  | text s =>
    cases h
    exact alike_plain _ _ _ (fun x => rfl) fun x => deepEqual_toValue_iff x (.text s)
  | regex r =>
    cases h
    refine alike_leaf _ (fun x => rfl) (fun x => ?_) fun x e he => ?_
    · cases x <;> simp
    · cases x with
      | text s => exact ⟨s, e, rfl, he⟩
      | _ => cases he
  | selfMarker =>
    cases h
    exact .same (.refl _)
  | ellipsis =>
    cases inOr with
    | true =>
      cases h
      exact .same (.refl _)
    | false =>
      -- no test at all
      cases h
      refine .test (fun x => iff_of_true (fun t ht => by cases ht) trivial) fun x hx => ?_
      obtain ⟨e, he⟩ := hx
      cases he
  | cls c =>
    cases c with
    | builtin b =>
      cases h
      exact alike_plain _ _ _ (fun x => rfl) fun x => Iff.rfl
    | host c =>
      rw [Pattern.meaning]
      cases hslot : env.slot c.id with
      | validator g =>
        simp only [compileValue, kindOfValue, hslot, target?] at h
        cases h
        rw [Readable.meaning, Validator.meaning, hslot]
        exact .same (.refl _)
      | _ =>
        simp only [compileValue, kindOfValue, hslot] at h
        cases h
        exact alike_plain _ _ _ (fun x => rfl) fun x => Iff.rfl
  | host o =>
    rw [Pattern.meaning]
    cases hslot : env.slot o.id with
    | validator g =>
      simp only [compileValue, kindOfValue, hslot, target?] at h
      cases h
      rw [Readable.meaning, Validator.meaning, hslot]
      exact .same (.refl _)
    | function verdict =>
      cases hcallable : o.callable with
      | true =>
        simp only [compileValue, kindOfValue, hslot, hcallable, if_true, target?] at h
        cases h
        rw [Readable.meaning, Validator.meaning, hslot]
        exact .test (fun x => (and_iff_right rfl).symm) fun x => id
      | false => simp [compileValue, kindOfValue, hslot, hcallable] at h
    | _ => simp [compileValue, kindOfValue, hslot] at h
  | _ => cases h

/-- A sequence that is not a literal is a choice of its items. -/
theorem meaning_seq {form : SeqForm} {tag : Nat} {items : List Pattern}
    (h : ¬ (inOr = true ∧ items.length = 1)) :
    Pattern.meaning env root inOr (.seq form tag items) = .choice (items.map (.pattern true)) := by
  match inOr, items with
  | true, [item] => exact absurd ⟨rfl, rfl⟩ h
  | false, _ => rfl
  | true, [] => rfl
  | true, item :: item' :: rest => rfl

/-- Entries of a mapping and the properties that they are compiled to are read as properties with the
same keys. -/
theorem forall₂_property? {entries : List (Value × Pattern)} {qs : List (Property Validator)}
    (h : List.Forall₂ (IsProperty env.slot none) entries qs) :
    List.Forall₂ (fun (q : Property Validator) (r : Property Readable) => q.key = r.key ∧
      ∃ e ∈ entries, e.2.compile env.slot none false = .ok q.rule ∧ r.rule = .pattern false e.2)
      qs (entries.filterMap property?) := by
  induction h with
  | nil => exact .nil
  | @cons e q entries qs hentry _ ih =>
    obtain ⟨written, p⟩ := e
    have hwritten : written = .text q.key.written := hentry.written
    have hread : property? (written, p) = some ⟨q.key, none, .pattern false p⟩ := by
      rw [hwritten, property?, hentry.key]
      rfl
    rw [List.filterMap_cons_some hread]
    refine .cons ⟨rfl, _, List.mem_cons_self, hentry.rule, rfl⟩ (ih.imp ?_)
    rintro q r ⟨hkey, e, he, hrule⟩
    exact ⟨hkey, e, List.mem_cons_of_mem _ he, hrule⟩

/-- **The validator of a pattern is read as the pattern is.** -/
theorem alike_compile {p : Pattern} {v : Validator} (h : p.compile env.slot none inOr = .ok v) :
    Readable.Alike env root (.validator true v) (.pattern inOr p) := by
  induction p using treeInduction generalizing v inOr with
  | value y =>
    rw [compile, Except.mapError_eq_ok_iff] at h
    exact Readable.alike_of_meaning (alike_compileValue h)
  | validator g =>
    -- the pattern is the validator, one step further on
    cases h
    intro x
    refine ⟨(accepts_iff (r := .pattern inOr (.validator g))).symm, fun n hsettles => ?_⟩
    cases n with
    | zero => exact hsettles.elim
    | succ n => exact Settles.succ hsettles
  | seq form tag items ih =>
    refine Readable.alike_of_meaning ?_
    by_cases hliteral : inOr = true ∧ items.length = 1
    · obtain ⟨rfl, hlength⟩ := hliteral
      obtain ⟨item, rfl⟩ := List.length_eq_one_iff.mp hlength
      rw [compile_seq_singleton] at h
      cases h
      exact alike_plain _ _ _ (fun x => rfl) fun x => Iff.rfl
    · rw [compile_seq hliteral, Except.map_eq_ok_iff] at h
      obtain ⟨vs, hvs, rfl⟩ := h
      rw [Readable.meaning, Readable.meaning, meaning_seq hliteral, Validator.meaning]
      refine .choice (List.forall₂_map_left_iff.mpr (List.forall₂_map_right_iff.mpr ?_))
      refine ((List.forall₂_and_left _ _).mpr ⟨ih, compileEach_eq_ok_iff.mp hvs⟩).flip.imp ?_
      rintro v p ⟨ihp, hcompiled⟩
      exact ihp hcompiled
  | mapping form tag entries ih =>
    simp only [compile, Except.bind_eq_ok_iff, Except.pure_eq_ok_iff] at h
    obtain ⟨qs, hqs, rfl⟩ := h
    refine Readable.alike_of_meaning ?_
    rw [Readable.meaning, Readable.meaning, Pattern.meaning, Validator.meaning]
    refine .object (List.forall₂_map_left_iff.mpr
      ((forall₂_property? (forall₂_of_compileEntries hqs)).imp ?_))
    rintro q r ⟨hkey, e, he, hcompiled, hrule⟩
    refine ⟨hkey, ?_⟩
    rw [hrule]
    exact ih e he hcompiled

end Pattern

/-! ## Checks of what was rebound -/

/-- What answers a reading answers one that is alike. -/
theorem Check.Answers.of_alike {c : Check} {n : Nat} {s r : Readable}
    (h : c.Answers env root n s) (halike : s.Alike env root r) : c.Answers env root n r := by
  intro x path
  exact (h x path).congr (halike x).1 ((halike x).2 n)

/-- **One layer of what was taken over and frozen answers for the open validator**, if what `follow`
leads on to answers its own reading: the root of the session, roots of other sessions, and what stands
behind live delegates; and if the copies that were made answer for what they are copies of. -/
theorem Validator.answersFor_of_freeze {follow : Validator → Check} {session n : Nat} {R : Validator}
    {rebound : Validator → Except Fault (Rebound Validator)} (hroot : env.root session = some R)
    (hown : (follow R).Answers env root n (.pattern false root))
    (hother : ∀ r, (follow r).Answers env root n (.validator false r))
    (hlive : ∀ v r, rebound v = .ok r → r.copy = none →
      (follow v).Answers env root n (.validator true v))
    (hcopy : ∀ v r w, rebound v = .ok r → r.copy = some w →
      (w.adopt none).AnswersFor env root follow true n v)
    (v : Validator) {w : Validator} (h : freeze env.slot rebound (v.adopt (some session)) = .ok w) :
    w.AnswersFor env root follow true n v := by
  induction v using treeInduction generalizing w with
  | leaf rule =>
    cases h
    exact .leaf rule
  | delegate t =>
    rw [adopt, freeze] at h
    cases hslot : env.slot t.id with
    | validator g =>
      simp only [hslot, Except.bind_eq_ok_iff, Except.pure_eq_ok_iff] at h
      obtain ⟨r, hr, rfl⟩ := h
      cases hr' : r.copy with
      | none => exact .live hslot (hlive g.validator r hr hr')
      | some copy => exact .copied hslot (hcopy g.validator r copy hr hr')
    | _ =>
      rw [hslot] at h
      cases h
      exact .target fun g hg => by cases hslot.symm.trans hg
  | delegateTo t copy ih =>
    simp only [adopt, freeze, Except.bind_eq_ok_iff, Except.pure_eq_ok_iff] at h
    obtain ⟨w, hw, rfl⟩ := h
    exact (ih hw).delegateTo t
  | anyOf vs ih =>
    simp only [adopt, freeze, Except.bind_eq_ok_iff, Except.pure_eq_ok_iff] at h
    obtain ⟨ws, hws, rfl⟩ := h
    have hparts := freezeEach_eq_ok_iff.mp hws
    rw [adoptEach_eq_map, List.forall₂_map_left_iff] at hparts
    refine .anyOf (((List.forall₂_and_left _ _).mpr ⟨ih, hparts⟩).flip.imp ?_)
    rintro w v ⟨ihv, hw⟩
    exact ihv hw
  | object ps ih =>
    simp only [adopt, freeze, Except.bind_eq_ok_iff, Except.pure_eq_ok_iff] at h
    obtain ⟨qs, hqs, rfl⟩ := h
    have hparts := freezeProperties_eq_ok_iff.mp hqs
    rw [adoptProperties_eq_map, List.forall₂_map_left_iff] at hparts
    refine .object (((List.forall₂_and_left _ _).mpr ⟨ih, hparts⟩).flip.imp ?_)
    rintro q p ⟨ihp, hkey, -, hq⟩
    exact ⟨hkey, ihp hq⟩
  | arrayOf items least most ih =>
    simp only [adopt, freeze, Except.bind_eq_ok_iff, Except.pure_eq_ok_iff] at h
    obtain ⟨w, hw, rfl⟩ := h
    exact (ih hw).arrayOf least most
  | selfRef own =>
    cases own with
    | none =>
      -- a reference of no session has become one of the session, whose root is the whole pattern
      cases h
      refine .of_meaning fun x path => ?_
      simp only [check, Option.bind_some, hroot]
      exact hown x path
    | some m =>
      cases h
      exact .selfRef m hother
  | external e =>
    cases h
    exact .external e

/-- **The check of what was rebound to a session answers the reading of the open validator**, if the
root of that session is what the whole pattern was compiled to, rebound. -/
theorem Env.check_rebound_answers {session : Nat} {p : Pattern} {u R : Validator}
    (hcompiled : p.compile env.slot none false = .ok u) (hroot : env.root session = some R)
    {depth₀ : Nat} {label₀ : Option Label} {r₀ : Rebound Validator}
    (hrebound : Validator.rebindTo env.slot session depth₀ label₀ u = .ok r₀)
    (hR : R.adopt none = (r₀.result u).adopt none) (depth depth' : Nat) (label : Option Label)
    {v : Validator} {r : Rebound Validator}
    (h : Validator.rebindTo env.slot session depth' label v = .ok r) :
    (env.check depth (r.result v)).Answers env p depth (.validator true v) := by
  -- a reference or a live delegate uses up a step of the check, a copy one of the rebinding
  induction depth generalizing depth' label v r with
  | zero => exact fun x path => .of_fault rfl
  | succ depth ih =>
    induction depth' generalizing label v r with
    | zero => cases h
    | succ depth' ih' =>
      have hfreeze : _ = Validator.freeze env.slot (Validator.rebindTo env.slot session depth' none)
          (v.adopt (some session)) := Validator.rebind_map_adopt label v
      rw [Validator.rebindTo] at h
      rw [h] at hfreeze
      rw [← Env.check_adopt_none, Env.check]
      refine Validator.answersFor_of_freeze hroot ?_ (env.check_answers p depth) ?_ ?_ v hfreeze.symm
      · rw [Env.check_eq_of_adopt_eq hR]
        exact (ih depth₀ label₀ hrebound).of_alike (Pattern.alike_compile hcompiled)
      · intro v r hr hnone
        have hanswers := ih depth' none hr
        rwa [Rebound.result, hnone, Option.getD_none] at hanswers
      · intro v r w hr hsome
        have hanswers := ih' none hr
        rwa [Rebound.result, hsome, Option.getD_some, ← Env.check_adopt_none, Env.check] at hanswers

/-! ## Arrays of a pattern -/

/-- **An array of a pattern** is made by a call, and what it says of the elements is what the pattern
says, read as if it stood alone. -/
theorem Accepts.arrayOf_iff {settings : Settings} {lengths : List Pattern} {q : Pattern}
    {w : Validator}
    (h : Builder.call env.slot settings (.leaf .array) "of" (lengths ++ [q]) = .ok w) :
    ∃ least most, Builder.arrayLengths (lengths.map Pattern.toValue) = .ok (least, most) ∧
      ∀ x, Accepts env root (.validator true w) x ↔
        ∃ form tag items, x = .seq form tag items ∧ withinLengths least most items.length = true ∧
          ∀ y ∈ items, Accepts env root (.pattern false q) y := by
  have hmade : Builder.array env.slot (lengths ++ [q]) = .ok w := h
  simp only [Builder.array, List.getLast?_concat, List.dropLast_concat] at hmade
  split at hmade
  · cases hmade
  · simp only [Builder.liftBuilder, Except.bind_eq_ok_iff, Except.mapError_eq_ok_iff,
      Except.pure_eq_ok_iff] at hmade
    obtain ⟨⟨least, most⟩, hlengths, u, hcompiled, rfl⟩ := hmade
    have hitem : ∀ y, Accepts env root (.validator true u) y ↔ Accepts env root (.pattern false q) y :=
      fun y => (Pattern.alike_compile hcompiled y).1
    refine ⟨least, most, hlengths, fun x => ?_⟩
    rw [accepts_iff, Readable.meaning, Validator.meaning]
    simp only [Meaning.Holds, hitem]

/-! ## The verdict of a schema -/

namespace Schema

variable {host : Host} {s t : Store} {p : Pattern} {v : Handle}

/-- The check of a schema answers the reading of its pattern. -/
theorem check_answers_reading (h : (compile host p s).outcome = .ok v)
    (hextends : (compile host p s).store.Extends t) (depth : Nat) :
    ((t.env host).check depth v.validator).Answers (t.env host) p depth (.pattern false p) := by
  obtain ⟨u, label, r, hcompiled, hrebind, htree⟩ := exists_rebound_of_compile h
  have hroot := Store.root_env host (hextends ((ended_compile host s p).root_of_outcome h))
  have hanswers : ((t.env host).check depth (r.result u)).Answers (t.env host) p depth
      (.validator true u) :=
    Env.check_rebound_answers hcompiled hroot hrebind htree depth depthLimit (some label) hrebind
  rw [Env.check_eq_of_adopt_eq htree]
  exact hanswers.of_alike (Pattern.alike_compile hcompiled)

end Schema

end Conformance
