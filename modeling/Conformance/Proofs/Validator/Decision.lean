import Conformance.Proofs.Pattern.Reading
import Conformance.Proofs.Validator.Agreement
import Conformance.Proofs.Validator.AgreeingChecks
import Conformance.Proofs.Validator.Modes
import Conformance.Proofs.Walk.Decision

/-!
# Checks that decide

A check of a validator decides what the reading of the validator says, and it gets to an answer where
the reading settles the value in no more steps than the check may take.

## Main Definitions

* `Check.Decides` — a check decides a property of values, and ends on others
* `Check.Answers` — a check decides a reading
* `Validator.AnswersFor` — one layer of a check decides the reading of a validator

## Main statements

* `Check.Decides.anyOf`, `Check.Decides.arrayOf`, `Check.Decides.object` — checks put together from
  checks that decide
* `Validator.AnswersFor.anyOf`, `Validator.AnswersFor.object`, … — what has parts answers if its parts
  do
* `Env.check_answers` — the check of a validator that stands in no pattern answers its reading
-/

namespace Conformance

/-! ## Keys that correspond -/

section Correspond

variable {V W : Type} {R : Property V → Property W → Prop} {ps : List (Property V)}
  {qs : List (Property W)}

/-- The keys other than the catch-all correspond if the keys do. -/
theorem forall₂_specific (h : List.Forall₂ R ps qs) (hkey : ∀ p q, R p q → p.key = q.key) :
    List.Forall₂ R (specific ps) (specific qs) :=
  List.rel_filter (fun p q hpq => by simp only [hkey p q hpq]) h

/-- The keys that are about a property correspond if the keys do. -/
theorem forall₂_claimants (h : List.Forall₂ R ps qs) (hkey : ∀ p q, R p q → p.key = q.key)
    (name : String) : List.Forall₂ R (claimants ps name) (claimants qs name) := by
  have hclaiming : List.Forall₂ R ((specific ps).filter fun p => p.key.claims name)
      ((specific qs).filter fun q => q.key.claims name) :=
    List.rel_filter (fun p q hpq => by simp only [hkey p q hpq]) (forall₂_specific h hkey)
  have hcatchAll : Option.Rel R (ps.find? fun p => p.key.isCatchAll)
      (qs.find? fun q => q.key.isCatchAll) :=
    h.find?_rel fun p q hpq => by rw [hkey p q hpq]
  unfold claimants
  generalize (specific ps).filter (fun p => p.key.claims name) = claiming at hclaiming
  generalize (specific qs).filter (fun q => q.key.claims name) = claiming' at hclaiming
  cases hclaiming with
  | nil =>
    generalize ps.find? (fun p => p.key.isCatchAll) = o at hcatchAll
    generalize qs.find? (fun q => q.key.isCatchAll) = o' at hcatchAll
    cases hcatchAll with
    | none => exact .nil
    | some hpq => exact .cons hpq .nil
  | cons hpq hrest => exact .cons hpq hrest

/-- What one of two object patterns asks, the other one asks of the property that corresponds. -/
theorem Asked.exists_left (h : List.Forall₂ R ps qs) (hkey : ∀ p q, R p q → p.key = q.key)
    {es : List (Value × Value)} {q : Property W} {y : Value} (hasked : Asked qs es q y) :
    ∃ p, R p q ∧ Asked ps es p y := by
  cases hasked with
  | claimed he hq hkind hclaims =>
    obtain ⟨p, hp, hpq⟩ := h.exists_left hq
    rw [← hkey p q hpq] at hkind hclaims
    exact ⟨p, hpq, .claimed he hp hkind hclaims⟩
  | unclaimed he hnone hfind =>
    have hcatchAll : Option.Rel R (ps.find? fun p => p.key.isCatchAll)
        (qs.find? fun q => q.key.isCatchAll) :=
      h.find?_rel fun p q hpq => by rw [hkey p q hpq]
    obtain ⟨p, hp, hpq⟩ := hcatchAll.exists_left hfind
    refine ⟨p, hpq, .unclaimed he (fun p' hp' hkind => ?_) hp⟩
    obtain ⟨q', hq', hpq'⟩ := h.exists_right hp'
    rw [hkey p' q' hpq'] at hkind ⊢
    exact hnone q' hq' hkind
  | absent hq hexact hliteral hzero =>
    obtain ⟨p, hp, hpq⟩ := h.exists_left hq
    rw [← hkey p q hpq] at hexact hliteral hzero
    exact ⟨p, hpq, .absent hp hexact hliteral hzero⟩

/-- Mappings conform alike to keys that correspond. -/
theorem Conforms.congr {accepts : V → Value → Prop} {accepts' : W → Value → Prop}
    (h : List.Forall₂ R ps qs) (hkey : ∀ p q, R p q → p.key = q.key)
    (himp : ∀ p q, R p q → ∀ x, accepts p.rule x → accepts' q.rule x) {es : List (Value × Value)}
    (hconforms : Conforms accepts ps es) : Conforms accepts' qs es where
  asked q y hasked := by
    obtain ⟨p, hpq, hasked⟩ := hasked.exists_left h hkey
    exact himp p q hpq y (hconforms.asked p y hasked)
  optional q hq hoptional := by
    obtain ⟨p, hp, hpq⟩ := h.exists_left hq
    rw [← hkey p q hpq] at hoptional ⊢
    exact hconforms.optional p hp hoptional
  atLeastOne q hq hatLeast := by
    obtain ⟨p, hp, hpq⟩ := h.exists_left hq
    rw [← hkey p q hpq] at hatLeast ⊢
    exact hconforms.atLeastOne p hp hatLeast

end Correspond

/-! ## The rule of object patterns, as it is checked -/

namespace Key

variable {k : Key} {n : Nat}

/-- When absence has to be judged. -/
theorem judge_eq_absent_iff :
    k.judge n = .absent ↔ k.quantifier = .exact ∧ k.isLiteral = true ∧ n = 0 := by
  unfold judge
  cases k.quantifier <;> simp
  all_goals split <;> simp

/-- Which numbers of properties are not allowed. -/
theorem exists_judge_eq_violated_iff : (∃ expected, k.judge n = .violated expected) ↔
    (k.quantifier = .optional ∧ 1 < n) ∨ (k.quantifier = .atLeastOne ∧ n = 0) := by
  unfold judge
  cases k.quantifier <;> simp
  all_goals split <;> simp_all

end Key

section Judged

variable {V : Type} {accepts : V → Value → Prop} {ps : List (Property V)}
  {es : List (Value × Value)}

/-- The number of properties that a key is about is not refused, and where absence is judged, what
stands under the key accepts it. -/
def Property.Judged (accepts : V → Value → Prop) (p : Property V) (names : List String) : Prop :=
  (∀ expected, p.key.judge (p.key.count names) ≠ .violated expected) ∧
    (p.key.judge (p.key.count names) = .absent → accepts p.rule .missing)

/-- What is asked is asked of the keys that are about a property, or where absence is judged. -/
theorem asked_iff {p : Property V} {y : Value} : Asked ps es p y ↔
    (∃ e ∈ es, p ∈ claimants ps e.1.nameText ∧ y = e.2) ∨
      (p ∈ specific ps ∧ p.key.judge (p.key.count (propertyNames es)) = .absent ∧
        y = .missing) := by
  have hspecific : ∀ p, p ∈ specific ps ↔ p ∈ ps ∧ p.key.isCatchAll = false := by
    simp [specific]
  constructor
  · intro hasked
    cases hasked with
    | @claimed e _ he hp hkind hclaims =>
      exact .inl ⟨e, he, Check.mem_claimants_iff.mpr (.inl ⟨(hspecific p).mpr ⟨hp, hkind⟩, hclaims⟩),
        rfl⟩
    | @unclaimed e _ he hnone hfind =>
      refine .inl ⟨e, he, Check.mem_claimants_iff.mpr (.inr ⟨fun q hq => ?_, hfind⟩), rfl⟩
      obtain ⟨hmem, hkind⟩ := (hspecific q).mp hq
      exact hnone q hmem hkind
    | absent hp hexact hliteral hzero =>
      have hkind : p.key.isCatchAll = false := by simp [Key.isCatchAll, hexact]
      exact .inr ⟨(hspecific p).mpr ⟨hp, hkind⟩,
        Key.judge_eq_absent_iff.mpr ⟨hexact, hliteral, hzero⟩, rfl⟩
  · rintro (⟨e, he, hp, rfl⟩ | ⟨hp, hjudge, rfl⟩)
    · rcases Check.mem_claimants_iff.mp hp with ⟨hp, hclaims⟩ | ⟨hnone, hfind⟩
      · obtain ⟨hmem, hkind⟩ := (hspecific p).mp hp
        exact .claimed he hmem hkind hclaims
      · exact .unclaimed he (fun q hq hkind => hnone q ((hspecific q).mpr ⟨hq, hkind⟩)) hfind
    · obtain ⟨hexact, hliteral, hzero⟩ := Key.judge_eq_absent_iff.mp hjudge
      exact .absent (mem_of_mem_specific hp) hexact hliteral hzero

/-- **The rule of object patterns, as it is checked**: first each property by the keys that are about
it, then the number of properties of each key. -/
theorem conforms_iff : Conforms accepts ps es ↔
    (∀ e ∈ es, ∀ p ∈ claimants ps e.1.nameText, accepts p.rule e.2) ∧
      ∀ p ∈ specific ps, p.Judged accepts (propertyNames es) := by
  constructor
  · intro h
    refine ⟨fun e he p hp => h.asked p e.2 (asked_iff.mpr (.inl ⟨e, he, hp, rfl⟩)), fun p hp => ?_⟩
    refine ⟨fun expected hviolated => ?_, fun habsent => ?_⟩
    · rcases Key.exists_judge_eq_violated_iff.mp ⟨expected, hviolated⟩ with ⟨hkey, hmany⟩ | ⟨hkey, hzero⟩
      · exact absurd (h.optional p (mem_of_mem_specific hp) hkey) (Nat.not_le.mpr hmany)
      · have hpos := h.atLeastOne p (mem_of_mem_specific hp) hkey
        omega
    · exact h.asked p .missing (asked_iff.mpr (.inr ⟨hp, habsent, rfl⟩))
  · rintro ⟨hentries, hjudged⟩
    have hallowed : ∀ p ∈ ps, p.key.isCatchAll = false →
        ¬ ∃ expected, p.key.judge (p.key.count (propertyNames es)) = .violated expected := by
      rintro p hp hkind ⟨expected, hviolated⟩
      exact (hjudged p (by simp [specific, hp, hkind])).1 expected hviolated
    refine ⟨fun p y hasked => ?_, fun p hp hoptional => ?_, fun p hp hatLeast => ?_⟩
    · rcases asked_iff.mp hasked with ⟨e, he, hp, rfl⟩ | ⟨hp, habsent, rfl⟩
      · exact hentries e he p hp
      · exact (hjudged p hp).2 habsent
    · by_contra hmany
      refine hallowed p hp (by simp [Key.isCatchAll, hoptional]) ?_
      exact Key.exists_judge_eq_violated_iff.mpr (.inl ⟨hoptional, Nat.not_le.mp hmany⟩)
    · by_contra hnone
      refine hallowed p hp (by simp [Key.isCatchAll, hatLeast]) ?_
      exact Key.exists_judge_eq_violated_iff.mpr (.inr ⟨hatLeast, by omega⟩)

end Judged

/-! ## Checks put together -/

/-- **A check decides a property of values**, at whatever path, and ends where `D` holds. -/
def Check.Decides (c : Check) (P D : Value → Prop) : Prop := ∀ x path, (c x path).Decides (P x) (D x)

namespace Check.Decides

variable {V : Type} {accepts settles : V → Value → Prop}

/-- A choice between checks that decide. -/
theorem anyOf {cs : List Check} {vs : List V}
    (h : List.Forall₂ (fun c v => Check.Decides c (accepts v) (settles v)) cs vs) :
    Check.Decides (Check.anyOf cs) ((Meaning.choice vs).Holds accepts)
      ((Meaning.choice vs).Settled settles) := by
  intro x path
  exact .any (h.imp fun c v hdecides => hdecides x path)

/-- An array of items that a check decides on. -/
theorem arrayOf {c : Check} {v : V} (h : Check.Decides c (accepts v) (settles v)) (least : Nat)
    (most : Option Nat) :
    Check.Decides (Check.arrayOf least most c) ((Meaning.array v least most).Holds accepts)
      ((Meaning.array v least most).Settled settles) := by
  intro x path
  cases x with
  | seq form tag items =>
    have hpairs : List.Forall₂ (fun (e : Value × Nat) y => e.1 = y) items.zipIdx items := by
      have hfst : List.Forall₂ (fun (e : Value × Nat) y => e.1 = y) items.zipIdx
          (items.zipIdx.map Prod.fst) :=
        List.forall₂_map_right_iff.mpr (List.forall₂_same.mpr fun _ _ => rfl)
      rwa [List.zipIdx_map_fst] at hfst
    have hitems : Walk.Decides (Walk.all (fun e => c e.1 (Path.index path e.2)) items.zipIdx)
        (∀ y ∈ items, accepts v y) (∀ y ∈ items, settles v y) :=
      .all (hpairs.imp fun e y heq => heq ▸ h e.1 _)
    have hholds : (Meaning.array v least most).Holds accepts (.seq form tag items) ↔
        withinLengths least most items.length = true ∧ ∀ y ∈ items, accepts v y := by
      constructor
      · rintro ⟨form', tag', items', heq, hlength, hall⟩
        cases heq
        exact ⟨hlength, hall⟩
      · rintro ⟨hlength, hall⟩
        exact ⟨form, tag, items, rfl, hlength, hall⟩
    unfold Check.arrayOf
    dsimp only
    split
    · next hlength =>
      exact hitems.congr (hholds.trans (and_iff_right hlength)).symm
        fun hsettled => hsettled form tag items rfl hlength
    · next hlength =>
      exact .of_pure (iff_of_false Bool.false_ne_true fun hx => hlength (hholds.mp hx).1)
  | _ => exact .of_pure (by simp [Meaning.Holds])

/-- The number of properties that a key is about. -/
theorem count {c : Property Check} {p : Property V} (hkey : c.key = p.key)
    (hrule : Check.Decides c.rule (accepts p.rule) (settles p.rule)) (names : List String) :
    (Check.count names c).Decides (p.Judged accepts names)
      (p.key.judge (p.key.count names) = .absent → settles p.rule .missing) := by
  unfold Check.count Property.Judged
  rw [hkey]
  cases p.key.judge (p.key.count names) with
  | allowed => exact .of_pure (by simp)
  | violated expected => exact .of_pure (by simp)
  | absent =>
    exact ((hrule .missing "").guarded fun _ => rfl).congr (by simp) fun hsettles => hsettles rfl

/-- **An object pattern of keys with checks that decide.** -/
theorem object {cs : List (Property Check)} {ps : List (Property V)}
    (h : List.Forall₂ (fun c p => c.key = p.key ∧
      Check.Decides c.rule (accepts p.rule) (settles p.rule)) cs ps) :
    Check.Decides (Check.object cs) ((Meaning.object ps).Holds accepts)
      ((Meaning.object ps).Settled settles) := by
  intro x path
  cases x with
  | mapping form tag es =>
    have hkey : ∀ (c : Property Check) (p : Property V), c.key = p.key ∧
        Check.Decides c.rule (accepts p.rule) (settles p.rule) → c.key = p.key := fun _ _ h => h.1
    have hentries : (Check.entries cs path es).Decides
        (∀ e ∈ es, ∀ p ∈ claimants ps e.1.nameText, accepts p.rule e.2)
        (∀ e ∈ es, ∀ p ∈ claimants ps e.1.nameText, settles p.rule e.2) :=
      .all_self fun e _ => .all ((forall₂_claimants h hkey _).imp fun c p hcp => hcp.2 e.2 _)
    have hcounts : (Walk.all (Check.count (propertyNames es)) (specific cs)).Decides
        (∀ p ∈ specific ps, p.Judged accepts (propertyNames es))
        (∀ p ∈ specific ps, p.key.judge (p.key.count (propertyNames es)) = .absent →
          settles p.rule .missing) :=
      .all ((forall₂_specific h hkey).imp fun c p hcp => count hcp.1 hcp.2 _)
    refine (hentries.and_then hcounts).congr (conforms_iff.symm.trans ⟨fun hconforms => ?_, ?_⟩) ?_
    · exact ⟨form, tag, es, rfl, hconforms⟩
    · rintro ⟨form', tag', es', heq, hconforms⟩
      cases heq
      exact hconforms
    · intro hsettled
      refine ⟨fun e he p hp => ?_, fun p hp habsent => ?_⟩
      · exact hsettled form tag es rfl p e.2 (asked_iff.mpr (.inl ⟨e, he, hp, rfl⟩))
      · exact hsettled form tag es rfl p .missing (asked_iff.mpr (.inr ⟨hp, habsent, rfl⟩))
  | _ => exact .of_pure (by simp [Meaning.Holds])

end Check.Decides

/-! ## Tests -/

/-- Tests log nothing. -/
theorem Test.checkAll_isCalm (tests : List Test) : (Test.checkAll tests).IsCalm := by
  induction tests with
  | nil => exact (Walk.ends_pure_self true).2
  | cons t tests ih =>
    unfold checkAll at ih ⊢
    rw [Walk.all_cons]
    cases t.holds with
    | error e => exact (Walk.ends_pure_self true).2
    | ok b =>
      cases b with
      | false => exact (Walk.ends_pure_self false).2
      | true => exact ih

/-- Tests one after another decide whether all of them hold. -/
theorem Test.checkAll_decides (tests : List Test) :
    (Test.checkAll tests).Decides (∀ t ∈ tests, t.holds = .ok true)
      (¬ ∃ e, (Test.checkAll tests).outcome = .error e) :=
  .of_outcome (checkAll_isCalm tests) Walk.all_eq_ok_true_iff
    fun hnone e he => hnone ⟨e, he⟩

/-- The `schema` of an object that is no validator is asked about every value but absence. -/
theorem Slot.test_decides (t : Target) (x : Value) {slot : Slot} (h : ∀ g, slot ≠ .validator g) :
    (Test.checkAll [slot.test t x]).Decides (slot.Grants x) (¬ slot.Raises x) := by
  have houtcome : (Test.checkAll [slot.test t x]).outcome = (slot.test t x).holds :=
    Test.outcome_checkAll_singleton _
  refine .of_outcome (Test.checkAll_isCalm _) ?_ ?_
  · rw [houtcome]
    cases slot with
    | validator g => exact absurd rfl (h g)
    | function verdict => cases x <;> simp [Slot.test, Target.test, Slot.Grants]
    | other typeName => cases x <;> simp [Slot.test, Target.test, Slot.Grants]
    | absent => simp [Slot.test, Slot.Grants]
    | failing => simp [Slot.test, Slot.Grants]
  · rw [houtcome]
    cases slot with
    | validator g => exact absurd rfl (h g)
    | function verdict => cases x <;> simp [Slot.test, Target.test, Slot.Raises]
    | other typeName => cases x <;> simp [Slot.test, Target.test, Slot.Raises]
    | absent => simp [Slot.Raises]
    | failing => simp [Slot.Raises]

/-! ## Validators -/

section Reading

variable {env : Env} {root : Pattern} {n : Nat}

/-- **A check answers a reading**: it decides whether a value is accepted, and ends where the reading
settles the value within a number of steps. -/
def Check.Answers (env : Env) (root : Pattern) (n : Nat) (c : Check) (r : Readable) : Prop :=
  Check.Decides c (Accepts env root r) (Settles env root n r)

/-- Where a check answers within some steps, it answers within less. -/
theorem Check.Answers.of_succ {c : Check} {r : Readable} (h : c.Answers env root (n + 1) r) :
    c.Answers env root n r := by
  intro x path
  exact (h x path).congr Iff.rfl Settles.succ

namespace Validator

/-- **One layer of a validator answers for another one** when its check answers the reading of that
one, `n` being the number of steps that what is followed may take. -/
def AnswersFor (env : Env) (root : Pattern) (follow : Validator → Check) (isOpen : Bool) (n : Nat)
    (w v : Validator) : Prop :=
  (w.check env follow).Answers env root (n + 1) (.validator isOpen v)

namespace AnswersFor

variable {follow : Validator → Check} {isOpen : Bool} {v w : Validator}

/-- It answers when it decides what the form of the other one says. -/
theorem of_meaning
    (h : Check.Decides (w.check env follow) ((v.meaning env root isOpen).Holds (Accepts env root))
      ((v.meaning env root isOpen).Settled (Settles env root n))) :
    w.AnswersFor env root follow isOpen n v := by
  intro x path
  exact (h x path).congr (accepts_iff (r := .validator isOpen v)).symm id

theorem leaf (rule : Leaf) : (leaf rule).AnswersFor env root follow isOpen n (leaf rule) :=
  .of_meaning fun x _ => Test.checkAll_decides (rule.tests env.stepTolerance x)

theorem external (e : External) :
    (external e).AnswersFor env root follow isOpen n (external e) := by
  refine .of_meaning fun x path => .of_outcome (fun f hf => by cases hf) Iff.rfl ?_
  exact fun hnone f hf => hnone ⟨f, hf⟩

/-- An object whose `schema` is no validator answers for itself. -/
theorem target {t : Target} (h : ∀ g, env.slot t.id ≠ .validator g) :
    (delegate t).AnswersFor env root follow isOpen n (delegate t) := by
  refine .of_meaning fun x path => ?_
  rw [check, meaning]
  cases hslot : env.slot t.id with
  | validator g => exact absurd hslot (h g)
  | _ => exact Slot.test_decides t x fun g hg => by cases hg

/-- A live delegate answers if what is followed answers the reading of the `schema`. -/
theorem live {t : Target} {g : Handle} (hslot : env.slot t.id = .validator g)
    (h : (follow g.validator).Answers env root n (.validator isOpen g.validator)) :
    (delegate t).AnswersFor env root follow isOpen n (delegate t) := by
  refine .of_meaning fun x path => ?_
  rw [check, meaning, hslot]
  exact h x path

/-- A copy answers for a live delegate if it answers for the `schema`. -/
theorem copied {t : Target} {g : Handle} (hslot : env.slot t.id = .validator g)
    (h : w.AnswersFor env root follow isOpen n g.validator) :
    (delegateTo t w).AnswersFor env root follow isOpen n (delegate t) := by
  refine .of_meaning fun x path => ?_
  rw [check, meaning, hslot]
  exact h.of_succ x path

theorem delegateTo (t : Target) (h : w.AnswersFor env root follow isOpen n v) :
    (delegateTo t w).AnswersFor env root follow isOpen n (delegateTo t v) := by
  refine .of_meaning fun x path => ?_
  rw [check, meaning]
  exact h.of_succ x path

theorem anyOf {vs ws : List Validator}
    (h : List.Forall₂ (AnswersFor env root follow isOpen n) ws vs) :
    (anyOf ws).AnswersFor env root follow isOpen n (anyOf vs) := by
  refine .of_meaning ?_
  rw [check, checks_eq_map, meaning]
  refine .anyOf (List.forall₂_map_left_iff.mpr (List.forall₂_map_right_iff.mpr ?_))
  exact h.imp fun w v hanswers => hanswers.of_succ

theorem object {ps qs : List (Property Validator)}
    (h : List.Forall₂ (fun q p => q.key = p.key ∧
      q.rule.AnswersFor env root follow isOpen n p.rule) qs ps) :
    (object qs).AnswersFor env root follow isOpen n (object ps) := by
  refine .of_meaning ?_
  rw [check, propertyChecks_eq_map, meaning]
  refine .object (List.forall₂_map_left_iff.mpr (List.forall₂_map_right_iff.mpr ?_))
  exact h.imp fun q p hqp => ⟨hqp.1, hqp.2.of_succ⟩

theorem arrayOf (h : w.AnswersFor env root follow isOpen n v) (least : Nat) (most : Option Nat) :
    (arrayOf w least most).AnswersFor env root follow isOpen n (arrayOf v least most) := by
  refine .of_meaning ?_
  rw [check, meaning]
  exact Check.Decides.arrayOf h.of_succ least most

/-- A reference of a session answers if what is followed answers the reading of each root. -/
theorem selfRef (session : Nat)
    (h : ∀ r, (follow r).Answers env root n (.validator false r)) :
    (selfRef (some session)).AnswersFor env root follow isOpen n (selfRef (some session)) := by
  refine .of_meaning fun x path => ?_
  rw [check, meaning, Option.bind_some]
  cases hroot : env.root session with
  | none => exact .of_log rfl (iff_of_false Bool.false_ne_true id)
  | some r => exact h r x path

end AnswersFor

end Validator

/-- **The check of a validator that stands in no pattern answers its reading**, within as many steps as
it may take. -/
theorem Env.check_answers (env : Env) (root : Pattern) (depth : Nat) (v : Validator) :
    (env.check depth v).Answers env root depth (.validator false v) := by
  -- references and live delegates lead on with one step less
  induction depth generalizing v with
  | zero => exact fun x path => .of_fault rfl
  | succ depth ih =>
    change v.AnswersFor env root (env.check depth) false depth v
    induction v using Validator.treeInduction with
    | leaf rule => exact .leaf rule
    | delegate t =>
      cases hslot : env.slot t.id with
      | validator g => exact .live hslot (ih g.validator)
      | _ => exact .target fun g hg => by cases hslot.symm.trans hg
    | delegateTo t copy ihcopy => exact ihcopy.delegateTo t
    | anyOf vs ihvs => exact .anyOf (List.forall₂_same.mpr ihvs)
    | object ps ihps => exact .object (List.forall₂_same.mpr fun p hp => ⟨rfl, ihps p hp⟩)
    | arrayOf items least most ihitems => exact ihitems.arrayOf least most
    | selfRef session =>
      cases session with
      | none =>
        refine .of_meaning fun x path => ?_
        exact .of_log rfl (iff_of_false Bool.false_ne_true id)
      | some n => exact .selfRef n ih
    | external e => exact .external e

end Reading

end Conformance
