import Conformance.Proofs.Validator.Structure
import Mathlib.Algebra.Group.Int.Defs

/-!
# The two ways to check a value

The check that answers yes or no stops as soon as the answer is certain, and the check that explains
goes on.  The second looks at steps that the first never comes to, and such a step can end with a
fault.

## Main statements

* `Validator.explain_confirms_check`, `Env.explain_confirms_check` — wherever explaining ends with an
  answer, the answer of the other check is the same
* `Env.explain_of_check_of_choiceFree` — without a choice on the way, what is accepted by one is
  accepted by the other
* `Env.validate_iff_report_eq_nil_iff` — the two ways agree on a value unless explaining ends with a
  fault where the value is accepted
-/

namespace Conformance

open Walk

/-! ## Tests -/

/-- A test that is explained has the outcome of the test. -/
@[simp] theorem Test.outcome_explain (path : String) (t : Test) :
    (t.explain path).outcome = t.holds := by
  unfold Test.explain
  rw [outcome_bind, outcome_ofExcept]
  cases t.holds with
  | error e => rfl
  | ok b => cases b <;> rfl

/-- A test on its own is a list of one test. -/
@[simp] theorem Test.outcome_checkAll_singleton (t : Test) : (checkAll [t]).outcome = t.holds := by
  unfold checkAll
  rw [all_cons]
  change (Walk.ofExcept t.holds >>= _).outcome = _
  rw [outcome_bind, outcome_ofExcept]
  cases t.holds with
  | error e => rfl
  | ok b => cases b <;> rfl

theorem Test.explain_confirms_checkAll (path : String) (t : Test) :
    Confirms (t.explain path) (checkAll [t]) := by
  intro b hb
  rw [outcome_explain] at hb
  rw [outcome_checkAll_singleton, hb]

theorem Test.explainAll_confirms_checkAll (path : String) (tests : List Test) :
    Confirms (explainAll path tests) (checkAll tests) :=
  every_confirms_all fun t _ b hb => by simpa using hb

/-! ## Explaining confirms checking -/

namespace Explain

/-- The groups of a choice are missing exactly where one of its alternatives accepts. -/
theorem any_of_groups {α : Type} {named : α → Named} {check : α → Check} {x : Value} {path : String}
    {as : List α} (h : ∀ a ∈ as, Confirms ((named a).check x path) (check a x path))
    {r : Option (List (List Mismatch))}
    (hr : (groups x path (as.map named)).outcome = .ok r) :
    (Walk.any (fun c => c x path) (as.map check)).outcome = .ok r.isNone := by
  induction as generalizing r with
  | nil =>
    cases hr
    rfl
  | cons a as ih =>
    obtain ⟨⟨accepted, found⟩, haside, hrest⟩ := bind_eq_ok_iff.mp hr
    have hfirst : ((named a).check x path).outcome = .ok accepted := (aside_eq_ok_iff.mp haside).1
    refine bind_eq_ok_iff.mpr ⟨accepted, h a List.mem_cons_self _ hfirst, ?_⟩
    cases accepted with
    | true =>
      cases hrest
      rfl
    | false =>
      obtain ⟨r', hr', hcons⟩ := bind_eq_ok_iff.mp hrest
      cases hcons
      have hany := ih (fun a' ha' => h a' (List.mem_cons_of_mem _ ha')) hr'
      cases r' <;> simpa using hany

theorem anyOf_confirms {α : Type} {named : α → Named} {check : α → Check} {as : List α}
    (name : String) {x : Value} {path : String}
    (h : ∀ a ∈ as, Confirms ((named a).check x path) (check a x path)) :
    Confirms (anyOf name (as.map named) x path) (Check.anyOf (as.map check) x path) := by
  intro b hb
  obtain ⟨r, hr, hlast⟩ := bind_eq_ok_iff.mp hb
  have hany := any_of_groups h hr
  cases r <;> cases hlast <;> exact hany

theorem arrayOf_confirms (least : Nat) (most : Option Nat) {item item' : Check}
    (h : ∀ x path, Confirms (item x path) (item' x path)) (x : Value) (path : String) :
    Confirms (arrayOf least most item x path) (Check.arrayOf least most item' x path) := by
  intro b hb
  cases x with
  | seq form tag items =>
    have hitems : Confirms
        (every (fun e => item e.1 (Path.index path e.2)) items.zipIdx)
        (Walk.all (fun e => item' e.1 (Path.index path e.2)) items.zipIdx) :=
      every_confirms_all fun e _ => h e.1 (Path.index path e.2)
    simp only [arrayOf] at hb
    simp only [Check.arrayOf]
    split at hb
    · next hwithin =>
      obtain ⟨fits, hfits, hrest⟩ := bind_eq_ok_iff.mp hb
      obtain ⟨conform, hconform, hand⟩ := bind_eq_ok_iff.mp hrest
      cases hfits
      cases hand
      rw [if_pos hwithin]
      exact hitems conform hconform
    · next hwithin =>
      obtain ⟨fits, hfits, hrest⟩ := bind_eq_ok_iff.mp hb
      obtain ⟨conform, hconform, hand⟩ := bind_eq_ok_iff.mp hrest
      cases hfits
      cases hand
      rw [if_neg hwithin]
      rfl
  | _ => exact hb

/-- Explaining the properties of a mapping, when what stands under each key is confirmed. -/
theorem entries_confirms {ps : List (Property Validator)} {explain check : Validator → Check}
    (h : ∀ p ∈ ps, ∀ x path, Confirms (explain p.rule x path) (check p.rule x path))
    (path : String) (es : List (Value × Value)) :
    Confirms (entries (ps.map (.map explain)) path es)
      (Check.entries (ps.map (.map check)) path es) := by
  refine every_confirms_all fun e _ => ?_
  simp only [claimants_map (Property.key_map explain), claimants_map (Property.key_map check), every_map,
    all_map]
  exact every_confirms_all fun p hp => h p (mem_of_mem_claimants hp) _ _

/-- Counting the properties of a key.  An absent property is judged in the same way by both walks. -/
theorem count_confirms {absent : Property Validator → Walk Bool} {check : Validator → Check}
    {p : Property Validator}
    (h : absent p = absenceWalk p.key (check p.rule .missing "")) (path : String)
    (names : List String) :
    Confirms (count absent path names p) (Check.count names (p.map check)) := by
  intro b hb
  simp only [count] at hb
  simp only [Check.count, Property.key_map, Property.rule_map]
  cases hj : p.key.judge (p.key.count names) with
  | allowed =>
    rw [hj] at hb
    exact hb
  | violated expected =>
    rw [hj] at hb
    exact hb
  | absent =>
    rw [hj] at hb
    obtain ⟨admits, hadmits, hlast⟩ := bind_eq_ok_iff.mp hb
    rw [← h, hadmits]
    cases admits <;> exact hlast

theorem object_confirms {absent : Property Validator → Walk Bool} {ps : List (Property Validator)}
    {explain check : Validator → Check}
    (h : ∀ p ∈ ps, ∀ x path, Confirms (explain p.rule x path) (check p.rule x path))
    (habsent : ∀ p ∈ ps, absent p = absenceWalk p.key (check p.rule .missing ""))
    (x : Value) (path : String) :
    Confirms (object absent ps (ps.map (.map explain)) x path)
      (Check.object (ps.map (.map check)) x path) := by
  intro b hb
  cases x with
  | mapping form tag es =>
    simp only [object] at hb
    obtain ⟨conform, hconform, hrest⟩ := bind_eq_ok_iff.mp hb
    obtain ⟨counted, hcounted, hand⟩ := bind_eq_ok_iff.mp hrest
    refine bind_eq_ok_iff.mpr ⟨conform, entries_confirms h path es conform hconform, ?_⟩
    cases conform with
    | false => exact hand
    | true =>
      have hcount : Confirms
          (Walk.every (count absent path (propertyNames es)) (specific ps))
          (Walk.all (Check.count (propertyNames es)) (specific (ps.map (.map check)))) := by
        rw [specific_map (Property.key_map _), all_map]
        exact every_confirms_all fun p hp =>
          count_confirms (habsent p (mem_of_mem_specific hp)) path _
      cases hand
      exact hcount counted hcounted
  | _ => exact hb

end Explain

namespace Validator

variable {env : Env} {absent : Property Validator → Walk Bool} {follow explainFollow : Validator → Check}

/-- **One layer of a validator**: explaining confirms checking, if it does behind the references and
delegates of the layer. -/
theorem explain_confirms_check
    (hfollow : ∀ w x path, Confirms (explainFollow w x path) (follow w x path))
    (habsent : ∀ p, absent p = absenceWalk p.key (p.rule.check env follow .missing ""))
    (v : Validator) (x : Value) (path : String) :
    Confirms (v.explain env absent explainFollow x path) (v.check env follow x path) := by
  induction v using treeInduction generalizing x path with
  | leaf rule => exact Test.explainAll_confirms_checkAll path _
  | delegate t =>
    simp only [explain, check]
    cases env.slot t.id with
    | validator h => exact hfollow h.validator x path
    | _ => exact Test.explain_confirms_checkAll path _
  | delegateTo t copy ih => exact ih x path
  | anyOf vs ih =>
    simp only [explain, check, explainEach_eq_map, checks_eq_map]
    exact Explain.anyOf_confirms _ fun v hv => ih v hv x path
  | object ps ih =>
    simp only [explain, check, propertyExplains_eq_map, propertyChecks_eq_map]
    exact Explain.object_confirms (fun p hp => ih p hp) (fun p _ => habsent p) x path
  | arrayOf items least most ih =>
    exact Explain.arrayOf_confirms least most ih x path
  | selfRef session =>
    simp only [explain, check]
    cases session.bind env.root with
    | some root => exact hfollow root x path
    | none =>
      intro b hb
      exact hb
  | external e => exact Confirms.refl _

end Validator

/-- **Explaining confirms checking**, through all references and delegates. -/
theorem Env.explain_confirms_check (env : Env) (depth : Nat) (v : Validator) (x : Value)
    (path : String) : Confirms (env.explain depth v x path) (env.check depth v x path) := by
  induction depth generalizing v x path with
  | zero => exact Confirms.refl _
  | succ depth ih => exact Validator.explain_confirms_check ih (fun _ => rfl) v x path

/-! ## Without a choice -/

/-- No check of the validator comes to a choice. -/
def Env.ChoiceFree (env : Env) (v : Validator) : Prop := ∀ vs, ¬ env.Reaches v (.anyOf vs)

theorem Env.ChoiceFree.next {env : Env} {v w : Validator} (h : env.ChoiceFree v)
    (hnext : env.Next v w) : env.ChoiceFree w :=
  fun vs hvs => h vs (.head hnext hvs)

theorem Env.ChoiceFree.part {env : Env} {v w : Validator} (h : env.ChoiceFree v)
    (hpart : v.Part w) : env.ChoiceFree w :=
  h.next (.linked (.part hpart))

/-- The properties of a mapping are accepted when each is by every key that is about it. -/
theorem Check.entries_eq_ok_true_iff {ps : List (Property Check)} {path : String}
    {es : List (Value × Value)} :
    (entries ps path es).outcome = .ok true ↔
      ∀ e ∈ es, ∀ p ∈ claimants ps e.1.nameText,
        (p.rule e.2 (Path.member path e.1.nameText)).outcome = .ok true := by
  simp only [entries, all_eq_ok_true_iff]

/-- A mapping is accepted when its properties are and every key has the right number of them. -/
theorem Check.object_mapping_eq_ok_true_iff {ps : List (Property Check)} {form : MapForm} {tag : Nat}
    {es : List (Value × Value)} {path : String} :
    (object ps (.mapping form tag es) path).outcome = .ok true ↔
      (entries ps path es).outcome = .ok true ∧
        ∀ p ∈ specific ps, (count (propertyNames es) p).outcome = .ok true := by
  simp only [object, bind_eq_ok_iff, ← all_eq_ok_true_iff]
  constructor
  · rintro ⟨conform, hentries, hrest⟩
    cases conform with
    | true => exact ⟨hentries, hrest⟩
    | false => cases hrest
  · rintro ⟨hentries, hcount⟩
    exact ⟨true, hentries, hcount⟩

namespace Explain

theorem arrayOf_of_check {least : Nat} {most : Option Nat} {item item' : Check} {x : Value}
    {path : String}
    (h : ∀ x path, (item' x path).outcome = .ok true → (item x path).outcome = .ok true)
    (hb : (Check.arrayOf least most item' x path).outcome = .ok true) :
    (arrayOf least most item x path).outcome = .ok true := by
  cases x with
  | seq form tag items =>
    simp only [Check.arrayOf] at hb
    split at hb
    · next hwithin =>
      have hitems := fun e he => h e.1 _ (all_eq_ok_true_iff.mp hb e he)
      simp only [arrayOf, if_pos hwithin]
      exact bind_eq_ok_iff.mpr
        ⟨true, rfl, bind_eq_ok_iff.mpr ⟨true, every_eq_ok_true_iff.mpr hitems, rfl⟩⟩
    · cases hb
  | _ => cases hb

theorem count_of_check {absent : Property Validator → Walk Bool} {check : Validator → Check}
    {p : Property Validator} (habsent : absent p = absenceWalk p.key (check p.rule .missing ""))
    {path : String} {names : List String}
    (hb : (Check.count names (p.map check)).outcome = .ok true) :
    (count absent path names p).outcome = .ok true := by
  simp only [Check.count, Property.key_map, Property.rule_map] at hb
  simp only [count]
  cases hj : p.key.judge (p.key.count names) with
  | allowed => rfl
  | violated expected =>
    rw [hj] at hb
    cases hb
  | absent =>
    rw [hj] at hb
    exact bind_eq_ok_iff.mpr ⟨true, habsent ▸ hb, rfl⟩

theorem object_of_check {absent : Property Validator → Walk Bool} {ps : List (Property Validator)}
    {explain check : Validator → Check} {x : Value} {path : String}
    (h : ∀ p ∈ ps, ∀ x path,
      (check p.rule x path).outcome = .ok true → (explain p.rule x path).outcome = .ok true)
    (habsent : ∀ p ∈ ps, absent p = absenceWalk p.key (check p.rule .missing ""))
    (hb : (Check.object (ps.map (.map check)) x path).outcome = .ok true) :
    (object absent ps (ps.map (.map explain)) x path).outcome = .ok true := by
  cases x with
  | mapping form tag es =>
    rw [Check.object_mapping_eq_ok_true_iff, Check.entries_eq_ok_true_iff] at hb
    obtain ⟨hentries, hcount⟩ := hb
    have hconform : (entries (ps.map (.map explain)) path es).outcome = .ok true := by
      refine every_eq_ok_true_iff.mpr fun e he => every_eq_ok_true_iff.mpr fun q hq => ?_
      rw [claimants_map (Property.key_map _), List.mem_map] at hq
      obtain ⟨p, hp, rfl⟩ := hq
      have hclaim : p.map check ∈ claimants (ps.map (.map check)) e.1.nameText := by
        rw [claimants_map (Property.key_map _)]
        exact List.mem_map_of_mem hp
      exact h p (mem_of_mem_claimants hp) _ _ (hentries e he _ hclaim)
    have hcounted : (Walk.every (count absent path (propertyNames es)) (specific ps)).outcome =
        .ok true := by
      refine every_eq_ok_true_iff.mpr fun p hp => ?_
      have hspecific : p.map check ∈ specific (ps.map (.map check)) := by
        rw [specific_map (Property.key_map _)]
        exact List.mem_map_of_mem hp
      exact count_of_check (habsent p (mem_of_mem_specific hp)) (hcount _ hspecific)
    exact bind_eq_ok_iff.mpr ⟨true, hconform, bind_eq_ok_iff.mpr ⟨true, hcounted, rfl⟩⟩
  | _ => cases hb

end Explain

/-- **One layer without a choice**: what is accepted is accepted by explaining, too. -/
theorem Validator.explain_of_check_of_choiceFree {env : Env}
    {absent : Property Validator → Walk Bool} {follow explainFollow : Validator → Check}
    (hfollow : ∀ w, env.ChoiceFree w → ∀ x path,
      (follow w x path).outcome = .ok true → (explainFollow w x path).outcome = .ok true)
    (habsent : ∀ p, absent p = absenceWalk p.key (p.rule.check env follow .missing ""))
    {v : Validator} (hfree : env.ChoiceFree v) (x : Value) (path : String)
    (hb : (v.check env follow x path).outcome = .ok true) :
    (v.explain env absent explainFollow x path).outcome = .ok true := by
  induction v using treeInduction generalizing x path with
  | leaf rule =>
    refine every_eq_ok_true_iff.mpr fun t ht => ?_
    rw [Test.outcome_explain]
    exact all_eq_ok_true_iff.mp hb t ht
  | delegate t =>
    simp only [check] at hb
    simp only [explain]
    cases hslot : env.slot t.id with
    | validator h =>
      rw [hslot] at hb
      exact hfollow _ (hfree.next (.linked (.live hslot))) x path hb
    | _ => simpa [hslot] using hb
  | delegateTo t copy ih => exact ih (hfree.part (.copy t copy)) x path hb
  | anyOf vs => exact absurd .refl (hfree vs)
  | object ps ih =>
    simp only [check, propertyChecks_eq_map] at hb
    simp only [explain, propertyExplains_eq_map]
    exact Explain.object_of_check (fun p hp => ih p hp (hfree.part (.property hp)))
      (fun p _ => habsent p) hb
  | arrayOf items least most ih =>
    exact Explain.arrayOf_of_check (ih (hfree.part (.element items least most))) hb
  | selfRef session =>
    simp only [check] at hb
    simp only [explain]
    cases session with
    | none => cases hb
    | some session =>
      cases hroot : env.root session with
      | none =>
        rw [Option.bind_some, hroot] at hb
        cases hb
      | some root =>
        rw [Option.bind_some, hroot] at hb ⊢
        exact hfollow root (hfree.next (.root hroot)) x path hb
  | external e => exact hb

/-- **Without a choice on the way**, what is accepted is accepted by explaining, too. -/
theorem Env.explain_of_check_of_choiceFree (env : Env) (depth : Nat) {v : Validator}
    (hfree : env.ChoiceFree v) (x : Value) (path : String)
    (hb : (env.check depth v x path).outcome = .ok true) :
    (env.explain depth v x path).outcome = .ok true := by
  induction depth generalizing v x path with
  | zero => cases hb
  | succ depth ih =>
    exact Validator.explain_of_check_of_choiceFree (fun w hw => ih hw) (fun _ => rfl) hfree x path hb

/-! ## Verdicts and reports -/

theorem addMessage_ne_nil (path text : String) (done : List (String × String)) :
    addMessage path text done ≠ [] := by
  cases done with
  | nil => simp [addMessage]
  | cons m rest =>
    rw [addMessage]
    split <;> simp

/-- No message is lost when a report is written out. -/
theorem messages_eq_nil_iff {report : List Mismatch} : messages report = [] ↔ report = [] := by
  have hkeep : ∀ (report : List Mismatch) (done : List (String × String)), done ≠ [] →
      report.foldl (fun done m => addMessage m.path m.render done) done ≠ [] := by
    intro report
    induction report with
    | nil => exact fun _ h => h
    | cons m report ih => exact fun _ _ => ih _ (addMessage_ne_nil _ _ _)
  cases report with
  | nil => exact iff_of_true rfl rfl
  | cons m report => exact iff_of_false (hkeep report _ (addMessage_ne_nil _ _ _)) (List.cons_ne_nil _ _)

namespace Env

variable {env : Env} {v : Validator} {x : Value}

/-- A value conforms when the check accepts it. -/
theorem validate_eq_ok_true_iff :
    (env.validate v x).outcome = .ok true ↔
      (env.check depthLimit v x Path.root).outcome = .ok true := by
  unfold validate guarded
  cases h : (env.check depthLimit v x Path.root).outcome <;> simp

/-- A report is empty when explaining accepts the value. -/
theorem report_eq_nil_iff :
    (env.report v x).2 = [] ↔ (env.explain depthLimit v x Path.root).outcome = .ok true := by
  simp only [report, mismatchesOf]
  cases h : (env.explain depthLimit v x Path.root).outcome with
  | error f => simp
  | ok b =>
    cases b with
    | true => simp
    | false =>
      cases hfound : (env.explain depthLimit v x Path.root).found <;> simp

end Env

end Conformance
