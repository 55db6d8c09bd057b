import Conformance.Proofs.Validator.Modes

/-!
# What a collecting walk notes

The check that explains writes to a list of mismatches that may hold others already.  It only ever
adds to the end of this list, and what it adds tells its answer: nothing where it accepts a value, at
least one mismatch where it refuses one.

## Main Definitions

* `Walk.Tells` — a walk whose mismatches tell its answer
* `Env.HostFree` — a validator from which no validator of the host is reached

## Main statements

* `Walk.Tells.and_then`, `Walk.Tells.every` — answers put together from the answers of all steps
* `Validator.explain_tells`, `Env.explain_tells` — explaining tells its answer
* `Env.explain_refines_check` — collecting gives the answer of the check that only decides, leaves the
  mismatches noted before it in place, and adds some exactly when it refuses the value
-/

namespace Conformance

namespace Walk

variable {α β : Type}

/-! ## Mismatches of the parts of a walk -/

/-- What follows a walk that ended with a result adds its mismatches behind those of the walk. -/
theorem found_bind_of_ok {w : Walk α} {a : α} (h : w.outcome = .ok a) (f : α → Walk β) :
    (w >>= f).found = w.found ++ (f a).found := by
  obtain ⟨events, found, outcome⟩ := w
  obtain rfl : outcome = .ok a := h
  rfl

/-- Walks that note nothing, one after the other, note nothing. -/
theorem found_bind_of_nil {w : Walk α} {f : α → Walk β} (hw : w.found = [])
    (hf : ∀ a, (f a).found = []) : (w >>= f).found = [] := by
  obtain ⟨events, found, outcome⟩ := w
  obtain rfl : found = [] := hw
  cases outcome with
  | error e => rfl
  | ok a =>
    show [] ++ (f a).found = []
    rw [hf, List.append_nil]

/-- What was noted by two walks, one after the other, was noted by one of them. -/
theorem mem_found_bind {w : Walk α} {f : α → Walk β} {m : Mismatch} (h : m ∈ (w >>= f).found) :
    m ∈ w.found ∨ ∃ a, w.outcome = .ok a ∧ m ∈ (f a).found := by
  cases ha : w.outcome with
  | error e =>
    have hfound : (w >>= f).found = w.found := by
      obtain ⟨events, found, outcome⟩ := w
      obtain rfl : outcome = .error e := ha
      rfl
    exact .inl (hfound ▸ h)
  | ok a =>
    rw [found_bind_of_ok ha, List.mem_append] at h
    exact h.imp_right fun hrest => ⟨a, rfl, hrest⟩

/-- Two walks, both taken, that end with whether both ended with `true`. -/
theorem both_eq_ok {w w' : Walk Bool} {b : Bool}
    (h : (w >>= fun a => w' >>= fun a' => Pure.pure (a && a')).outcome = .ok b) :
    ∃ a a', w.outcome = .ok a ∧ w'.outcome = .ok a' ∧ b = (a && a') ∧
      (w >>= fun a => w' >>= fun a' => Pure.pure (a && a')).found = w.found ++ w'.found := by
  obtain ⟨a, ha, hrest⟩ := bind_eq_ok_iff.mp h
  obtain ⟨a', ha', hand⟩ := bind_eq_ok_iff.mp hrest
  refine ⟨a, a', ha, ha', (Except.ok.inj hand).symm, ?_⟩
  rw [found_bind_of_ok ha, found_bind_of_ok ha']
  exact congrArg (w.found ++ ·) (List.append_nil _)

/-- **Going on to the end notes what every step notes**, in order, and no step ends with a fault. -/
theorem found_every {step : α → Walk Bool} {as : List α} {b : Bool}
    (h : (every step as).outcome = .ok b) :
    (every step as).found = as.flatMap (fun a => (step a).found) ∧
      ∀ a ∈ as, ∃ c, (step a).outcome = .ok c := by
  induction as generalizing b with
  | nil => exact ⟨rfl, by simp⟩
  | cons a as ih =>
    obtain ⟨c, rest, hc, hrest, -, hfound⟩ := both_eq_ok h
    obtain ⟨hfound', hall⟩ := ih hrest
    exact ⟨hfound.trans (by rw [hfound', List.flatMap_cons]), List.forall_mem_cons.mpr ⟨⟨c, hc⟩, hall⟩⟩

/-- A guarded walk notes nothing. -/
@[simp] theorem found_guarded (event : Fault → Event) (w : Walk Bool) :
    (w.guarded event).found = [] := by
  unfold guarded
  split <;> rfl

/-- The answer of a walk stands in its mismatches: there are none when it is `true`, and some when it
is `false`.  A walk that a fault ended says nothing. -/
structure Tells (w : Walk Bool) : Prop where
  accepted : w.outcome = .ok true → w.found = []
  refused : w.outcome = .ok false → w.found ≠ []

theorem tells_pure_true : Tells (Pure.pure true) where
  accepted _ := rfl
  refused h := by cases h

theorem tells_reject (m : Mismatch) : Tells (reject m) where
  accepted h := by cases h
  refused _ := List.cons_ne_nil _ _

/-- A walk that a fault ended has no answer to tell. -/
theorem tells_of_fault {w : Walk Bool} {f : Fault} (h : w.outcome = .error f) : w.Tells where
  accepted h' := by cases h.symm.trans h'
  refused h' := by cases h.symm.trans h'

/-- A step that notes nothing, followed by a walk that tells its answer. -/
theorem Tells.after {w : Walk α} {f : α → Walk Bool} (hfound : w.found = [])
    (hf : ∀ a, w.outcome = .ok a → (f a).Tells) : (w >>= f).Tells := by
  cases h : w.outcome with
  | error e => exact tells_of_fault (by rw [outcome_bind, h]; rfl)
  | ok a =>
    have hrest := hf a h
    constructor
    · intro hb
      rw [found_bind_of_ok h, hfound, hrest.accepted (outcome_bind_of_ok h f ▸ hb)]
      rfl
    · intro hb
      rw [found_bind_of_ok h, hfound]
      exact hrest.refused (outcome_bind_of_ok h f ▸ hb)

/-- **Both of two answers.**  The second walk is taken whatever the first one says. -/
theorem Tells.and_then {w w' : Walk Bool} (hw : w.Tells) (hw' : w'.Tells) :
    (w >>= fun a => w' >>= fun b => Pure.pure (a && b)).Tells := by
  cases ha : w.outcome with
  | error e => exact tells_of_fault (by rw [outcome_bind, ha]; rfl)
  | ok a =>
    cases hb : w'.outcome with
    | error e => exact tells_of_fault (by rw [outcome_bind_of_ok ha, outcome_bind, hb]; rfl)
    | ok b =>
      have houtcome : (w >>= fun a => w' >>= fun b => Pure.pure (a && b)).outcome = .ok (a && b) := by
        rw [outcome_bind_of_ok ha, outcome_bind_of_ok hb, outcome_pure]
      have hfound : (w >>= fun a => w' >>= fun b => Pure.pure (a && b)).found = w.found ++ w'.found := by
        rw [found_bind_of_ok ha, found_bind_of_ok hb]
        exact congrArg (w.found ++ ·) (List.append_nil _)
      constructor
      · intro h
        rw [houtcome, Except.ok.injEq, Bool.and_eq_true] at h
        obtain ⟨rfl, rfl⟩ := h
        rw [hfound, hw.accepted ha, hw'.accepted hb, List.append_nil]
      · intro h
        rw [houtcome, Except.ok.injEq, Bool.and_eq_false_iff] at h
        rw [hfound]
        rcases h with rfl | rfl
        · exact List.append_ne_nil_of_left_ne_nil (hw.refused ha) _
        · exact List.append_ne_nil_of_right_ne_nil _ (hw'.refused hb)

/-- **Going on to the end tells its answer** when every step does. -/
theorem Tells.every {step : α → Walk Bool} {as : List α} (h : ∀ a ∈ as, (step a).Tells) :
    (every step as).Tells := by
  induction as with
  | nil => exact tells_pure_true
  | cons a as ih =>
    obtain ⟨ha, has⟩ := List.forall_mem_cons.mp h
    exact ha.and_then (ih has)

/-- A step that notes nothing decides, and its refusal is noted. -/
theorem tells_or_reject {w : Walk Bool} (hfound : w.found = []) (m : Mismatch) :
    (w >>= fun passed => if passed then Pure.pure true else reject m).Tells := by
  refine .after hfound fun passed _ => ?_
  cases passed with
  | true => exact tells_pure_true
  | false => exact tells_reject m

end Walk

open Walk

/-! ## What explaining notes -/

theorem Test.explain_tells (path : String) (t : Test) : (t.explain path).Tells :=
  tells_or_reject rfl _

namespace Explain

/-- The failures of alternatives are collected aside: nothing of them is noted here. -/
theorem found_groups (x : Value) (path : String) (alternatives : List Named) :
    (groups x path alternatives).found = [] := by
  induction alternatives with
  | nil => rfl
  | cons alternative rest ih =>
    refine found_bind_of_nil rfl fun result => ?_
    obtain ⟨accepted, found⟩ := result
    cases accepted with
    | true => rfl
    | false => exact found_bind_of_nil ih fun _ => rfl

/-- A choice notes one mismatch, and only when no alternative has accepted. -/
theorem anyOf_tells (name : String) (alternatives : List Named) (x : Value) (path : String) :
    (anyOf name alternatives x path).Tells := by
  refine .after (found_groups x path alternatives) fun groups _ => ?_
  cases groups with
  | none => exact tells_pure_true
  | some groups => exact tells_reject _

theorem arrayOf_tells (least : Nat) (most : Option Nat) {item : Check}
    (h : ∀ x path, (item x path).Tells) (x : Value) (path : String) :
    (arrayOf least most item x path).Tells := by
  cases x with
  | seq form tag items =>
    have hitems : (every (fun e => item e.1 (Path.index path e.2)) items.zipIdx).Tells :=
      .every fun e _ => h e.1 _
    simp only [arrayOf]
    split
    · exact tells_pure_true.and_then hitems
    · exact (tells_reject _).and_then hitems
  | _ => exact tells_reject _

theorem entries_tells {ps : List (Property Check)}
    (h : ∀ p ∈ ps, ∀ x path, (p.rule x path).Tells) (path : String) (es : List (Value × Value)) :
    (entries ps path es).Tells :=
  .every fun _ _ => .every fun p hp => h p (mem_of_mem_claimants hp) _ _

/-- A count that is violated and an absent property that is not admitted are noted here; the check of
absence itself notes nothing. -/
theorem count_tells {absent : Property Validator → Walk Bool} {p : Property Validator}
    (habsent : (absent p).found = []) (path : String) (names : List String) :
    (count absent path names p).Tells := by
  simp only [count]
  cases p.key.judge (p.key.count names) with
  | allowed => exact tells_pure_true
  | violated expected => exact tells_reject _
  | absent => exact tells_or_reject habsent _

theorem object_tells {absent : Property Validator → Walk Bool} {keys : List (Property Validator)}
    {ps : List (Property Check)} (h : ∀ p ∈ ps, ∀ x path, (p.rule x path).Tells)
    (habsent : ∀ p, (absent p).found = []) (x : Value) (path : String) :
    (object absent keys ps x path).Tells := by
  cases x with
  | mapping form tag es =>
    exact (entries_tells h path es).and_then (.every fun p _ => count_tells (habsent p) path _)
  | _ => exact tells_reject _

end Explain

/-! ## Through all references and delegates -/

/-- No check of the validator comes to a validator that the host has made. -/
def Env.HostFree (env : Env) (v : Validator) : Prop := ∀ e, ¬ env.Reaches v (.external e)

theorem Env.HostFree.next {env : Env} {v w : Validator} (h : env.HostFree v)
    (hnext : env.Next v w) : env.HostFree w :=
  fun e he => h e (.head hnext he)

theorem Env.HostFree.part {env : Env} {v w : Validator} (h : env.HostFree v) (hpart : v.Part w) :
    env.HostFree w :=
  h.next (.linked (.part hpart))

/-- A check that stays among validators that the host has not made never comes to one that it has. -/
theorem Env.hostFree_of_closed {env : Env} {P : Validator → Prop}
    (hnext : ∀ v w, P v → env.Next v w → P w) (hexternal : ∀ e, ¬ P (.external e)) {v : Validator}
    (hv : P v) : env.HostFree v := by
  intro e hreach
  have hkeep : ∀ w, env.Reaches v w → P w := by
    intro w hw
    induction hw with
    | refl => exact hv
    | tail _ hstep ih => exact hnext _ _ ih hstep
  exact hexternal e (hkeep _ hreach)

/-- **One layer of a validator**: explaining tells its answer, if it does behind the references and
delegates of the layer. -/
theorem Validator.explain_tells {env : Env} {absent : Property Validator → Walk Bool}
    {follow : Validator → Check} (hfollow : ∀ w, env.HostFree w → ∀ x path, (follow w x path).Tells)
    (habsent : ∀ p, (absent p).found = []) {v : Validator} (hfree : env.HostFree v) (x : Value)
    (path : String) : (v.explain env absent follow x path).Tells := by
  induction v using treeInduction generalizing x path with
  | leaf rule => exact .every fun t _ => t.explain_tells path
  | delegate t =>
    unfold explain
    cases hslot : env.slot t.id with
    | validator h => exact hfollow _ (hfree.next (.linked (.live hslot))) x path
    | _ => exact Test.explain_tells path _
  | delegateTo t copy ih => exact ih (hfree.part (.copy t copy)) x path
  | anyOf vs => exact Explain.anyOf_tells _ _ x path
  | object ps ih =>
    unfold explain
    rw [propertyExplains_eq_map]
    refine Explain.object_tells (fun q hq => ?_) habsent x path
    obtain ⟨p, hp, rfl⟩ := List.mem_map.mp hq
    exact ih p hp (hfree.part (.property hp))
  | arrayOf items least most ih =>
    exact Explain.arrayOf_tells least most (ih (hfree.part (.element items least most))) x path
  | selfRef session =>
    unfold explain
    cases hroot : session.bind env.root with
    | some root =>
      obtain ⟨session, rfl, hroot⟩ := Option.bind_eq_some_iff.mp hroot
      exact hfollow root (hfree.next (.root hroot)) x path
    | none => exact .after rfl fun _ _ => tells_reject _
  | external e => exact absurd .refl (hfree e)

/-- **Explaining tells its answer**, through all references and delegates. -/
theorem Env.explain_tells (env : Env) (depth : Nat) {v : Validator} (hfree : env.HostFree v)
    (x : Value) (path : String) : (env.explain depth v x path).Tells := by
  induction depth generalizing v x path with
  | zero => exact tells_of_fault rfl
  | succ depth ih =>
    exact Validator.explain_tells (fun w hw => ih hw) (fun _ => found_guarded _ _) hfree x path

/-- **Collecting refines deciding and only appends.**  Let a list of mismatches have been noted before,
in whatever way.  Where explaining a value ends with an answer, the check that only decides ends with
the same answer.  The list then holds what it held, in place, and behind it nothing when the value is
accepted, also where alternatives had failed on the way, and at least one mismatch when it is refused.
Validators of the host are left out: they answer without noting anything. -/
theorem Env.explain_refines_check (env : Env) (depth : Nat) {v : Validator} (hfree : env.HostFree v)
    (x : Value) (path : String) {before : Walk Unit} (hbefore : before.outcome = .ok ()) {b : Bool}
    (h : (before >>= fun _ => env.explain depth v x path).outcome = .ok b) :
    (env.check depth v x path).outcome = .ok b ∧
      ∃ added, (before >>= fun _ => env.explain depth v x path).found = before.found ++ added ∧
        (b = true → added = []) ∧ (b = false → added ≠ []) := by
  have hexplain : (env.explain depth v x path).outcome = .ok b := by
    rwa [outcome_bind_of_ok hbefore] at h
  have htells := env.explain_tells depth hfree x path
  refine ⟨env.explain_confirms_check depth v x path b hexplain, _, found_bind_of_ok hbefore _, ?_, ?_⟩
  · rintro rfl
    exact htells.accepted hexplain
  · rintro rfl
    exact htells.refused hexplain

/-- Texts and lists of the same, to any depth.  The first alternative fails on every list, and what it
collects is dropped when the second one accepts. -/
theorem Env.explain_refines_check_of_nested_lists :
    let nested : Validator := .anyOf [.leaf .string, .arrayOf (.selfRef (some 0)) 0 none]
    let env : Env := ⟨fun _ => some nested, fun _ => .absent, Settings.standard.stepTolerance⟩
    let earlier : Mismatch := .leaf "$.title" "string" "a string" "1"
    let walk (x : Value) := note earlier >>= fun _ => env.explain depthLimit nested x "$.body"
    let accepted := Value.list [.text "a", .list [.text "b"]]
    let refused := Value.list [.text "a", .list [.int 1]]
    ((env.check depthLimit nested accepted "$.body").outcome = .ok true ∧
        (walk accepted).found = [earlier]) ∧
      (env.check depthLimit nested refused "$.body").outcome = .ok false ∧
        ∃ added, (walk refused).found = earlier :: added ∧ added ≠ [] := by
  intro nested env earlier walk accepted refused
  have hfree : env.HostFree nested := by
    refine hostFree_of_closed (P := fun v => v = nested ∨ v = .leaf .string ∨
      v = .arrayOf (.selfRef (some 0)) 0 none ∨ v = .selfRef (some 0)) ?_ (by simp [nested]) (.inl rfl)
    rintro v w (rfl | rfl | rfl | rfl) hnext
    · change env.Next (.anyOf [.leaf .string, .arrayOf (.selfRef (some 0)) 0 none]) w at hnext
      rcases hnext with ⟨⟨_ | hmem⟩⟩
      rcases List.mem_pair.mp hmem with rfl | rfl
      · exact .inr (.inl rfl)
      · exact .inr (.inr (.inl rfl))
    · rcases hnext with ⟨⟨⟨⟩⟩⟩
    · rcases hnext with ⟨⟨⟨⟩⟩⟩
      exact .inr (.inr (.inr rfl))
    · rcases hnext with ⟨⟨⟨⟩⟩⟩ | hroot
      exact .inl (Option.some.inj hroot).symm
  have haccepted : (walk accepted).outcome = .ok true := by decide +kernel
  have hrefused : (walk refused).outcome = .ok false := by decide +kernel
  obtain ⟨hcheck, added, hfound, hnone, -⟩ :=
    env.explain_refines_check depthLimit hfree accepted "$.body" rfl haccepted
  obtain ⟨hcheck', added', hfound', -, hsome⟩ :=
    env.explain_refines_check depthLimit hfree refused "$.body" rfl hrefused
  refine ⟨⟨hcheck, ?_⟩, hcheck', added', hfound', hsome rfl⟩
  rw [hnone rfl] at hfound
  exact hfound

end Conformance
