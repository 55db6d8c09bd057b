import Conformance.Proofs.Descriptor.Members
import Conformance.Proofs.Validator.Agreement
import Conformance.Proofs.Validator.Conforming
import Conformance.Proofs.Validator.Widening

/-!
# Validators that come back

A validator that is written as a descriptor and read again comes back as another tree: some rules take
another form, keys stand in the order of the parts of a descriptor, with other signs where these say the
same, and references belong to the session that reads.  What checks of the two trees have in common is
found out for one layer, and then for roots whose references lead back to the trees.

## Main Definitions

* `Validator.RebuiltAs` — what a validator comes back as, by what its rules do
* `Leaf.ComesBackAs`, `Validator.ComesBackAs` — what a rule and a validator come back as
* `Env.LeadsTo` — a session whose references lead to a tree

## Main statements

* `Env.LeadsTo.check_rel` — what holds of one layer of two trees holds of the checks of their roots, to
  every depth
* `Validator.ComesBackAs.check_missing` — both roots answer alike to absence
* `Validator.ComesBackAs.check_widens` — no check is stricter than before
-/

namespace Conformance

/-! ## Rules -/

/-- **What a rule comes back as.**  Most rules come back as they were.  A class comes back as the type
that JSON has for it, a literal without tuples and views, and a string rule possibly as its regex. -/
inductive Leaf.ComesBackAs : Leaf → Validator → Prop where
  | same (rule : Leaf) : ComesBackAs rule (.leaf rule)
  | text : ComesBackAs (.instanceOf (.builtin .str)) (.leaf .string)
  | float : ComesBackAs (.instanceOf (.builtin .float)) (.leaf (.number .unbounded))
  | list : ComesBackAs (.instanceOf (.builtin .list)) (.leaf .array)
  | dict : ComesBackAs (.instanceOf (.builtin .dict)) (.object [])
  | mapping : ComesBackAs .mapping (.object [])
  | regex {rule : CharsetRule} :
    rule.regex.source = CharsetRule.source rule.charset rule.least rule.most →
    ComesBackAs (.stringOf rule) (.leaf (.regex rule.regex))
  | literal (x : Value) : ComesBackAs (.literal x) (.leaf (.literal x.jsonable))
  | sequenceLike (x : Value) : ComesBackAs (.sequenceLike x) (.leaf (.sequenceLike x.jsonable))
  | mappingLike (x : Value) : ComesBackAs (.mappingLike x) (.leaf (.mappingLike x.jsonable))

/-- An object pattern without keys accepts every mapping. -/
theorem Check.outcome_object_nil (x : Value) (path : String) :
    (Check.object [] x path).outcome = .ok x.isMapping := by
  have hentries : ∀ es, Check.entries [] path es = pure true := by
    intro es
    induction es with
    | nil => rfl
    | cons e es ih =>
      rw [Check.entries, Walk.all_cons]
      exact ih
  cases x with
  | mapping form tag es =>
    simp only [Check.object, hentries]
    rfl
  | _ => rfl

namespace Leaf

/-- **A rule that comes back with the same meaning**: any but the classes of floats, lists and
dictionaries. -/
def IsExact (rule : Leaf) : Prop :=
  ∀ c, rule = .instanceOf c → c ≠ .builtin .float ∧ c ≠ .builtin .list ∧ c ≠ .builtin .dict

variable {rule : Leaf} {w : Validator}

namespace ComesBackAs

/-- What a rule comes back as has no references. -/
theorem selfContained (h : rule.ComesBackAs w) (own : Option Nat) : w.SelfContained own := by
  cases h with
  | dict | mapping => exact .object fun p hp => absurd hp List.not_mem_nil
  | _ => exact .leaf _

variable {env env' : Env} {follow follow' : Validator → Check}

/-- **A rule that comes back with the same meaning** has the same outcomes. -/
theorem outcome_check (h : rule.ComesBackAs w) (hrule : rule.IsExact)
    (htolerance : env'.stepTolerance = env.stepTolerance) (x : Value) (path : String) :
    (w.check env' follow' x path).outcome =
      ((Validator.leaf rule).check env follow x path).outcome := by
  cases h with
  | same rule => rw [Validator.check, Validator.check, htolerance]
  | float => exact absurd rfl (hrule _ rfl).1
  | list => exact absurd rfl (hrule _ rfl).2.1
  | dict => exact absurd rfl (hrule _ rfl).2.2
  | mapping => exact (Check.outcome_object_nil x path).trans (by cases x <;> rfl)
  | text => cases x <;> rfl
  | regex _ => cases x <;> rfl
  | literal y =>
    simp only [Validator.check, Leaf.tests, Test.plain, Value.deepEqual_jsonable]
    rfl
  | sequenceLike y =>
    simp only [Validator.check, Leaf.tests, Test.plain, Value.deepEqual_jsonable]
    cases x.isSequence <;> rfl
  | mappingLike y =>
    simp only [Validator.check, Leaf.tests, Test.plain, Value.deepEqual_jsonable]
    cases x.isMapping <;> rfl

/-- **No rule becomes stricter**: every float is a number, and JSON has one type for all mappings and one
for all sequences. -/
theorem widens (h : rule.ComesBackAs w) (htolerance : env'.stepTolerance = env.stepTolerance)
    (x : Value) (path : String) :
    ((Validator.leaf rule).check env follow x path).Widens (w.check env' follow' x path) := by
  have hexact : rule.IsExact →
      ((Validator.leaf rule).check env follow x path).Widens (w.check env' follow' x path) :=
    fun hrule => Walk.widens_of_outcome (h.outcome_check hrule htolerance x path).trans
  cases h with
  | same rule =>
    rw [Validator.check, Validator.check, htolerance]
    exact Walk.widens_of_outcome id
  | float =>
    cases x with
    | number m => exact Walk.widens_of_outcome fun _ => rfl
    | _ => exact Walk.widens_of_false rfl
  | list =>
    cases x with
    | seq form tag items => exact Walk.widens_of_outcome fun _ => rfl
    | _ => exact Walk.widens_of_false rfl
  | dict =>
    cases x with
    | mapping form tag es => exact Walk.widens_of_outcome fun _ => Check.outcome_object_nil _ path
    | _ => exact Walk.widens_of_false rfl
  | text => exact hexact fun c hc => by cases hc; decide
  | mapping | regex | literal | sequenceLike | mappingLike =>
    exact hexact fun c hc => by cases hc

end ComesBackAs

end Leaf

/-! ## Keys -/

namespace Key

variable {V W : Type} {ps : List (Property V)} {f : Property V → Property W}

/-- No two catch-all keys are written to different members. -/
theorem catchAll_unique (hkey : ∀ p, (f p).key = p.key)
    (hmembers : ps.Pairwise fun p q => p.key.member ≠ q.key.member) :
    ∀ p ∈ ps.map f, ∀ p' ∈ ps.map f, p.key.isCatchAll = true → p'.key.isCatchAll = true → p = p' := by
  have hnodup : (ps.map fun p => p.key.member).Nodup := List.pairwise_map.mpr hmembers
  refine List.forall_mem_map.mpr fun p hp => List.forall_mem_map.mpr fun p' hp' h h' => ?_
  rw [hkey] at h h'
  have hmember : p.key.member = p'.key.member := by
    rw [Key.member, Key.member, if_pos h, if_pos h']
  rw [List.inj_on_of_nodup_map hnodup hp hp' hmember]

/-- Keys that were read are about one property at most, if their names are literal. -/
theorem forall_isSingle (hkey : ∀ p, (f p).key = p.key)
    (hkeys : ∀ p ∈ ps, Key.ofWritten p.key.written = .ok p.key) : ∀ p ∈ ps.map f, p.key.IsSingle := by
  refine List.forall_mem_map.mpr fun p hp => ?_
  rw [hkey]
  exact isSingle_of_ofWritten (hkeys p hp)

end Key

/-! ## Validators -/

namespace Validator

/-- **What a validator is rebuilt as** in the session `n`, its rules `back` as what they come back as: the
keys of an object pattern, which are written to different members, come back in the order of their members
and say the same, given that absence was `admitted`, and references are those of the session. -/
inductive RebuiltAs (back : Leaf → Validator → Prop) (admitted : Key → Validator → Prop) (n : Nat) :
    Validator → Validator → Prop where
  | leaf {rule : Leaf} {w : Validator} : back rule w → RebuiltAs back admitted n (leaf rule) w
  | anyOf {es : List (Validator × Validator)} : (∀ e ∈ es, RebuiltAs back admitted n e.1 e.2) →
    RebuiltAs back admitted n (anyOf (es.map Prod.fst)) (anyOf (es.map Prod.snd))
  | object {ps : List (Property Validator)} {es : List (Property Validator × Property Validator)} :
    (∀ p ∈ ps, Key.ofWritten p.key.written = .ok p.key) →
    ps.Pairwise (fun p q => p.key.member ≠ q.key.member) →
    es.map Prod.fst = Key.byPart (·.key) ps →
    (∀ e ∈ es, Key.SaysSame (admitted e.1.key e.1.rule) e.1.key e.2.key) →
    (∀ e ∈ es, RebuiltAs back admitted n e.1.rule e.2.rule) →
    RebuiltAs back admitted n (object ps) (object (es.map Prod.snd))
  | arrayOf {items items' : Validator} (least : Nat) (most : Option Nat) :
    RebuiltAs back admitted n items items' →
    RebuiltAs back admitted n (arrayOf items least most) (arrayOf items' least most)
  | selfRef : RebuiltAs back admitted n (selfRef none) (selfRef (some n))

/-- **What a validator comes back as** in the session `n`, if its rules are `good`. -/
abbrev ComesBackAs (good : Leaf → Prop) (admitted : Key → Validator → Prop) (n : Nat) :
    Validator → Validator → Prop :=
  RebuiltAs (fun rule w => good rule ∧ rule.ComesBackAs w) admitted n

namespace RebuiltAs

variable {back : Leaf → Validator → Prop} {admitted : Key → Validator → Prop} {n : Nat}
  {v w : Validator}

/-- Each key of an object pattern comes back, and what comes back comes from a key. -/
theorem forth_back {ps : List (Property Validator)}
    {es : List (Property Validator × Property Validator)} {α β : Type} {R : α → β → Prop}
    {f : Property Validator → α} {g : Property Validator → β}
    (hcolumn : es.map Prod.fst = Key.byPart (·.key) ps) (h : ∀ e ∈ es, R (f e.1) (g e.2)) :
    (∀ a ∈ ps.map f, ∃ b ∈ (es.map Prod.snd).map g, R a b) ∧
      ∀ b ∈ (es.map Prod.snd).map g, ∃ a ∈ ps.map f, R a b := by
  have hmem : ∀ p, p ∈ ps ↔ ∃ e ∈ es, e.1 = p := by
    intro p
    rw [← Key.mem_byPart Property.key, ← hcolumn, List.mem_map]
  constructor
  · refine List.forall_mem_map.mpr fun p hp => ?_
    obtain ⟨e, he, rfl⟩ := (hmem p).mp hp
    exact ⟨_, List.mem_map_of_mem (List.mem_map_of_mem he), h e he⟩
  · refine List.forall_mem_map.mpr (List.forall_mem_map.mpr fun e he => ?_)
    exact ⟨_, List.mem_map_of_mem ((hmem e.1).mpr ⟨e, he, rfl⟩), h e he⟩

/-- What is rebuilt has references of no session. -/
theorem selfContained_none (h : RebuiltAs back admitted n v w) : v.SelfContained none := by
  induction h with
  | leaf _ => exact .leaf _
  | anyOf _ ih => exact .anyOf (List.forall_mem_map.mpr ih)
  | @object ps es _ _ hcolumn _ _ ih =>
    refine .object fun p hp => ?_
    rw [← Key.mem_byPart Property.key, ← hcolumn] at hp
    obtain ⟨e, he, rfl⟩ := List.mem_map.mp hp
    exact ih e he
  | arrayOf least most _ ih => exact .arrayOf least most ih
  | selfRef => exact .selfRef

/-- What a validator is rebuilt as has references of the session only, if what its rules come back as
does. -/
theorem selfContained_some (h : RebuiltAs back admitted n v w)
    (hback : ∀ rule u, back rule u → u.SelfContained (some n)) : w.SelfContained (some n) := by
  induction h with
  | leaf hrule => exact hback _ _ hrule
  | anyOf _ ih => exact .anyOf (List.forall_mem_map.mpr ih)
  | object _ _ _ _ _ ih => exact .object (List.forall_mem_map.mpr ih)
  | arrayOf least most _ ih => exact .arrayOf least most ih
  | selfRef => exact .selfRef

end RebuiltAs

namespace ComesBackAs

variable {good : Leaf → Prop} {admitted : Key → Validator → Prop} {n : Nat} {v w : Validator}

/-- What a validator comes back as has references of the session only. -/
theorem selfContained_some (h : ComesBackAs good admitted n v w) : w.SelfContained (some n) :=
  RebuiltAs.selfContained_some h fun _ _ hrule => hrule.2.selfContained _

/-! ### One layer of a check -/

section Layer

variable {m : Nat} {env env' : Env} {follow follow' : Validator → Check}
  (htolerance : env'.stepTolerance = env.stepTolerance)
include htolerance

/-- **Absence is checked alike**, if it is by the references. -/
theorem outcome_missing (h : ComesBackAs good admitted n v w) {path path' : String}
    (hroots : (check env' follow' (.selfRef (some n)) .missing path').outcome =
      (check env follow (.selfRef (some m)) .missing path).outcome) :
    (w.check env' follow' .missing path').outcome =
      ((v.adopt (some m)).check env follow .missing path).outcome := by
  induction h with
  | @leaf rule w hrule =>
    cases hrule.2 with
    | same rule => rw [adopt, check, check, htolerance]
    | literal y =>
      simp only [adopt, check, Leaf.tests, Test.plain, Value.deepEqual_jsonable]
      rfl
    | _ => rfl
  | @anyOf es _ ih =>
    rw [adopt, check, check, checks_eq_map, checks_eq_map, adoptEach_eq_map, Check.anyOf, Check.anyOf]
    simp only [Walk.any_map]
    exact Walk.outcome_any_congr ih
  | object => rfl
  | arrayOf => rfl
  | selfRef => exact hroots

/-- **No check becomes stricter**, if none does that references lead to. -/
theorem widens (h : ComesBackAs good admitted n v w)
    (hroots : Check.Widens (check env follow (.selfRef (some m)))
      (check env' follow' (.selfRef (some n)))) :
    Check.Widens ((v.adopt (some m)).check env follow) (w.check env' follow') := by
  induction h with
  | leaf hrule => exact fun x _ path => hrule.2.widens htolerance x path
  | @anyOf es _ ih =>
    rw [adopt, check, check, checks_eq_map, checks_eq_map, adoptEach_eq_map]
    refine .anyOf ?_
    simp only [List.map_map, List.forall_mem_map]
    exact fun e he => ⟨_, List.mem_map_of_mem he, ih e he⟩
  | @object ps es hkeys hmembers hcolumn hsame _ ih =>
    rw [adopt, check, check, propertyChecks_eq_map, propertyChecks_eq_map, adoptProperties_eq_map,
      List.map_map]
    have hkey : ∀ p : Property Validator,
        ((p.map (adopt (some m))).bare.map (check env follow)).key = p.key := fun _ => rfl
    obtain ⟨hforth, hback⟩ := RebuiltAs.forth_back (R := Property.Widens)
      (f := fun p => (p.map (adopt (some m))).bare.map (check env follow))
      (g := Property.map (check env' follow')) hcolumn fun e he => ⟨⟨_, hsame e he⟩, ih e he⟩
    exact Check.widens_object ⟨hforth, hback, fun _ _ h => h.key⟩ (Key.catchAll_unique hkey hmembers)
      (Key.forall_isSingle hkey hkeys)
  | arrayOf least most _ ih =>
    rw [adopt, check, check]
    exact .arrayOf ih least most
  | selfRef => exact hroots

end Layer

end ComesBackAs

end Validator

/-! ## Roots -/

/-- **References lead to a tree**: the root of the session is the tree, up to identities. -/
def Env.LeadsTo (env : Env) (n : Nat) (root tree : Validator) : Prop :=
  env.root n = some root ∧ root.adopt none = tree.adopt none

namespace Env.LeadsTo

variable {env env' : Env} {n n' : Nat} {root root' tree tree' : Validator}

theorem check_eq (h : env.LeadsTo n root tree) (depth : Nat) :
    env.check depth root = env.check depth tree := check_eq_of_adopt_eq h.2 depth

/-- A reference is checked as the root. -/
theorem check_selfRef (h : env.LeadsTo n root tree) (follow : Validator → Check) :
    Validator.check env follow (.selfRef (some n)) = follow root := by
  funext x path
  rw [Validator.check, Option.bind_some, h.1]

/-- **What holds of one layer of two trees holds of their roots**, to every depth: if it holds wherever
references lead, it holds of the trees. -/
theorem check_rel {R : Check → Check → Prop} (h : env.LeadsTo n root tree)
    (h' : env'.LeadsTo n' root' tree')
    (hzero : R (fun _ _ => .fail .endless) fun _ _ => .fail .endless)
    (hlayer : ∀ depth, R (Validator.check env (env.check depth) (.selfRef (some n)))
        (Validator.check env' (env'.check depth) (.selfRef (some n'))) →
      R (env.check (depth + 1) tree) (env'.check (depth + 1) tree')) (depth : Nat) :
    R (env.check depth root) (env'.check depth root') := by
  induction depth with
  | zero => exact hzero
  | succ depth ih =>
    rw [h.check_eq, h'.check_eq]
    refine hlayer depth ?_
    rw [h.check_selfRef, h'.check_selfRef]
    exact ih

end Env.LeadsTo

namespace Validator.ComesBackAs

variable {good : Leaf → Prop} {admitted : Key → Validator → Prop} {m n : Nat} {v w root root' : Validator}
  {env env' : Env} (h : ComesBackAs good admitted n v w)
  (htolerance : env'.stepTolerance = env.stepTolerance) (hroot : env.LeadsTo m root (v.adopt (some m)))
  (hroot' : env'.LeadsTo n root' w)
include h htolerance hroot hroot'

/-- **Both roots answer alike to absence**, to every depth. -/
theorem check_missing (depth : Nat) (path path' : String) :
    (env'.check depth root' .missing path').outcome = (env.check depth root .missing path).outcome :=
  hroot.check_rel (R := fun c c' => (c' .missing path').outcome = (c .missing path).outcome) hroot' rfl
    (fun _ hroots => h.outcome_missing htolerance hroots) depth

/-- Both roots answer alike to the absence of what stands in them. -/
theorem check_part_missing {good' : Leaf → Prop} {admitted' : Key → Validator → Prop}
    {u u' : Validator} (hpart : ComesBackAs good' admitted' n u u') (depth : Nat) (path path' : String) :
    (env'.check depth u' .missing path').outcome =
      (env.check depth (u.adopt (some m)) .missing path).outcome := by
  cases depth with
  | zero => rfl
  | succ depth =>
    refine hpart.outcome_missing htolerance ?_
    rw [hroot.check_selfRef, hroot'.check_selfRef]
    exact h.check_missing htolerance hroot hroot' depth path path'

/-- **No check is stricter than before**, to every depth. -/
theorem check_widens (depth : Nat) : Check.Widens (env.check depth root) (env'.check depth root') :=
  hroot.check_rel hroot' (fun _ _ _ => Walk.widens_of_fault rfl)
    (fun _ hroots => h.widens htolerance hroots) depth

end Validator.ComesBackAs

end Conformance
