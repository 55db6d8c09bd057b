import Conformance.Proofs.Descriptor.Rewriting
import Conformance.Proofs.Pattern.Portable
import Conformance.Proofs.Session.RoundTrip
import Conformance.Proofs.Session.Runs

/-!
# Writing what was read back

A root all of whose references lead back to it says everything there is to know about it, so its
descriptor is the same at any later time.  What is read from that descriptor is such a root again, and
is written the same.  It also accepts what the first root accepts: of the rules only classes come back
with another meaning, and it is a wider one.

## Main Definitions

* `Store.IsWhole` — a root without delegates, all of whose references lead back to it
* `Schema.ComesBack` — a root and what it comes back as, each in a store of its own

## Main statements

* `Schema.exists_describe` — a whole root has a descriptor, for ever
* `Schema.exists_described` — what the descriptor of a pattern is written of
* `Schema.ComesBack.describe_eq` — what comes back has the descriptor of the root
* `Schema.ComesBack.accepts`, `Schema.ComesBack.validate_eq` — what comes back accepts whatever the root
  accepts, and gives the same verdicts if no class comes back with another meaning
* `Schema.describe_decode_describe` — the descriptor of a pattern, read and written again
* `Schema.decode_descriptorOf_accepts` — what a pattern accepts is accepted after reading its
  descriptor back
-/

namespace Conformance

/-! ## Whole roots -/

/-- **A root is whole** if it has no delegates, and all its references lead back to it. -/
structure Store.IsWhole (s : Store) (n : Nat) (h : Handle) : Prop where
  root : s.root n = some h
  contained : h.validator.SelfContained (some n)

namespace Store.IsWhole

variable {host : Host} {s t : Store} {n : Nat} {h : Handle}

theorem mono (hwhole : s.IsWhole n h) (hextends : s.Extends t) : t.IsWhole n h :=
  ⟨hextends hwhole.root, hwhole.contained⟩

/-- The references of a whole root lead to it. -/
theorem leadsTo (hwhole : s.IsWhole n h) (host : Host) {tree : Validator}
    (htree : h.validator.adopt none = tree.adopt none) :
    (s.env host).LeadsTo n h.validator tree :=
  ⟨root_env host hwhole.root, htree⟩

/-- Up to identities a whole root is what is left of it, with the references of its session. -/
theorem leadsTo_release (hwhole : s.IsWhole n h) (host : Host) :
    (s.env host).LeadsTo n h.validator (h.validator.release.adopt (some n)) :=
  hwhole.leadsTo host (by rw [hwhole.contained.adopt_release, Validator.adopt_adopt_none])

/-- Whatever a check of a whole root comes to has references of the session only. -/
theorem contained_of_reaches (hwhole : s.IsWhole n h) {v : Validator}
    (hreaches : (s.env host).Reaches h.validator v) : v.SelfContained (some n) := by
  induction hreaches with
  | refl => exact hwhole.contained
  | tail _ hnext ih =>
    cases hnext with
    | linked hlinked =>
      cases hlinked with
      | part hpart => exact ih.part hpart
      | live _ => cases ih
    | root hroot =>
      cases ih
      rw [root_env host hwhole.root] at hroot
      cases hroot
      exact hwhole.contained

/-- **A whole root is settled.** -/
theorem settled (hwhole : s.IsWhole n h) : (s.env host).Settled h.validator := by
  intro m hreaches
  cases hwhole.contained_of_reaches hreaches
  rw [root_env host hwhole.root]
  rfl

/-- **A whole root is described alike for ever.** -/
theorem describe_eq (hwhole : s.IsWhole n h) (hextends : s.Extends t) :
    (Schema.describe host h t).outcome = (Schema.describe host h s).outcome := by
  have hsame : (t.env host).describe h.validator = (s.env host).describe h.validator :=
    (hextends.agreeOn hwhole.settled).describe_eq
  have hwalk : ∀ s', (Schema.describe host h s').outcome =
      ((s'.env host).describe h.validator).outcome.mapError .fault := fun _ => rfl
  rw [hwalk, hwalk, hsame]

end Store.IsWhole

namespace Schema

variable {host : Host} {s s' t t' : Store} {n : Nat} {h : Handle} {good : Leaf → Prop}
  {kept : Key → Validator → Prop}

/-! ## Writing -/

/-- **A validator without delegates has a descriptor** if its rules have descriptors that are read, and the
descriptor is read as what is left of the validator is rebuilt as. -/
theorem exists_describe_rebuilt (host : Host) (t : Store) {own : Option Nat}
    {back : Leaf → Validator → Prop} (hcontained : h.validator.SelfContained own)
    (hmade : h.validator.release.MadeOf good kept)
    (hgood : ∀ rule, good rule →
      ∃ fs, rule.describe = .record fs ∧ Descriptor.ReadsAs (fun _ => back rule) fs)
    (hkept : ∀ k (u : Validator), u.SelfContained own → kept k u.release → k.written = "" →
      ((t.env host).admitsAbsence k u).outcome = .ok false) :
    ∃ fs, (describe host h t).outcome = .ok (.record fs) ∧
      Descriptor.ReadsAs (fun m => Validator.RebuiltAs back
        (fun k u => ((t.env host).admitsAbsence k (u.adopt own)).outcome = .ok true) m
        h.validator.release) fs := by
  have htold : ∃ fs, ((t.env host).describe h.validator).outcome = .ok (.record fs) ∧
      Descriptor.ReadsAs (fun m => Validator.RebuiltAs back
        (fun k u => ((t.env host).admitsAbsence k (u.adopt own)).outcome = .ok true) m
        h.validator.release) fs :=
    Validator.describe_rebuilt (fun _ _ => Validator.SelfContained.part)
      (fun k u => Env.exists_admitsAbsence _ k u)
      (fun k u hu hadmits => by rwa [hu.admitsAbsence_release]) hkept hgood hmade hcontained
  obtain ⟨fs, hfs, hreads⟩ := htold
  exact ⟨fs, Except.mapError_eq_ok_iff.mpr hfs, hreads⟩

/-- The same if its rules can be read back: the descriptor is read as what is left of the validator comes
back as. -/
theorem exists_describe (host : Host) (t : Store) {own : Option Nat}
    (hcontained : h.validator.SelfContained own) (hmade : h.validator.release.MadeOf good kept)
    (hgood : ∀ rule, good rule → rule.Recoverable)
    (hkept : ∀ k (u : Validator), u.SelfContained own → kept k u.release → k.written = "" →
      ((t.env host).admitsAbsence k u).outcome = .ok false) :
    ∃ fs, (describe host h t).outcome = .ok (.record fs) ∧
      Descriptor.ReadsAs (fun m => Validator.ComesBackAs good
        (fun k u => ((t.env host).admitsAbsence k (u.adopt own)).outcome = .ok true) m
        h.validator.release) fs :=
  exists_describe_rebuilt host t hcontained hmade (Descriptor.readsAs_of_good hgood) hkept

/-! ## Coming back -/

/-- **A root comes back as another one**, each whole in a store of its own: what is left of the first one
comes back as the second one, given that absence was `admitted`. -/
structure ComesBack (good : Leaf → Prop) (admitted : Key → Validator → Prop) (s s' : Store) (n n' : Nat)
    (v w : Handle) : Prop where
  whole : s.IsWhole n v
  whole' : s'.IsWhole n' w
  tree : ∃ w', w.validator.adopt none = w'.adopt none ∧
    Validator.ComesBackAs good admitted n' v.validator.release w'

variable {admitted : Key → Validator → Prop} {n' : Nat} {v w : Handle}

/-- **A descriptor that is read as what comes back of a root** is read as a root that it comes back
as. -/
theorem exists_comesBack (host : Host) (hwhole : s.IsWhole n v) {fs : List (String × Value)}
    (hreads : ∀ m, Descriptor.Reads m (.record fs)
      (Validator.ComesBackAs good admitted m v.validator.release)) (s' : Store) :
    ∃ w, (decode host (.record fs) s').outcome = .ok w ∧
      ComesBack good admitted s (decode host (.record fs) s').store n s'.sessions.length v w := by
  obtain ⟨w, w', hw, hroot, htree, hback⟩ :=
    decode_reads hreads (fun _ _ h => h.selfContained_some) s'
  exact ⟨w, hw, hwhole, ⟨hroot, hback.selfContained_some.of_adopt_eq htree⟩, w', htree, hback⟩

namespace ComesBack

theorem mono (hback : ComesBack good admitted s s' n n' v w) (hs : s.Extends t) (hs' : s'.Extends t') :
    ComesBack good admitted t t' n n' v w :=
  ⟨hback.whole.mono hs, hback.whole'.mono hs', hback.tree⟩

/-- **What a root comes back as is described like the root**, if absence is not refused where it was
taken to be admitted. -/
theorem describe_eq (hback : ComesBack good admitted s s' n n' v w)
    (hadmitted : ∀ k u, admitted k u →
      ((s.env host).admitsAbsence k (u.adopt (some n))).outcome ≠ .ok false) {D : Value}
    (hD : (describe host v s).outcome = .ok D) : (describe host w s').outcome = .ok D := by
  obtain ⟨hwhole, hwhole', w', htree, hback⟩ := hback
  have htolerance : (s'.env host).stepTolerance = (s.env host).stepTolerance := rfl
  -- absence is answered alike, whichever key is asked about
  have habsent : ∀ k l u u', Validator.ComesBackAs good admitted n' u u' →
      ((s'.env host).admitsAbsence l u').outcome =
        ((s.env host).admitsAbsence k (u.adopt (some n))).outcome := by
    intro k l u u' hu
    refine Walk.outcome_guarded_congr ?_
    exact hback.check_part_missing htolerance (hwhole.leadsTo_release host)
      (hwhole'.leadsTo host htree) hu depthLimit "" ""
  have hrelease : (v.validator.release.describe (s.env host)
      (fun k u => (s.env host).admitsAbsence k (u.adopt (some n)))
      ((s.env host).describeTo 999)).outcome = .ok D := by
    rw [← Validator.describe_adopt, hwhole.contained.adopt_release]
    have hsame : (s.env host).describe (v.validator.adopt none) = (s.env host).describe v.validator :=
      Env.describeTo_adopt_none depthLimit v.validator
    exact (congrArg Walk.outcome hsame).trans (Except.mapError_eq_ok_iff.mp hD)
  have hwritten : ((s'.env host).describe w').outcome = .ok D :=
    hback.describe_eq (fun k u => Env.exists_admitsAbsence _ k _) hadmitted habsent
      (fun k u => Env.exists_admitsAbsence _ k u) hrelease
  have hsame : (s'.env host).describe w.validator = (s'.env host).describe w' :=
    Env.describeTo_eq_of_adopt_eq htree depthLimit
  exact Except.mapError_eq_ok_iff.mpr ((congrArg Walk.outcome hsame).trans hwritten)

/-- **What a root accepts is accepted by what it comes back as**, where the check of the latter stays
calm. -/
theorem accepts (hback : ComesBack good admitted s s' n n' v w) {x : Value} (hx : x.TextKeyed)
    (hcalm : ((s'.env host).validate w.validator x).IsCalm)
    (haccepts : ((s.env host).validate v.validator x).outcome = .ok true) :
    ((s'.env host).validate w.validator x).outcome = .ok true := by
  obtain ⟨hwhole, hwhole', w', htree, hback⟩ := hback
  have htolerance : (s'.env host).stepTolerance = (s.env host).stepTolerance := rfl
  have hwidens : ((s.env host).validate v.validator x).Widens
      ((s'.env host).validate w.validator x) :=
    (hback.check_widens htolerance (hwhole.leadsTo_release host) (hwhole'.leadsTo host htree)
      depthLimit x hx Path.root).guarded fun _ => rfl
  -- there is an answer, and it is not `false`
  obtain ⟨b, hb, -⟩ := Walk.outcome_guarded (Env.crashed w.validator)
    ((s'.env host).check depthLimit w.validator x Path.root)
  have hb : ((s'.env host).validate w.validator x).outcome = .ok b := hb
  cases b with
  | true => exact hb
  | false => exact absurd ⟨hb, hcalm⟩ (hwidens haccepts)

/-- **What a root comes back as gives the same verdicts**, from then on and where both checks stay calm,
if its rules come back with the same meaning and absence was answered to be admitted where it was taken
to be. -/
theorem validate_eq (hback : ComesBack good admitted s s' n n' v w)
    (hgood : ∀ rule, good rule → rule.IsExact)
    (hadmitted : ∀ k u, admitted k u →
      ((s.env host).admitsAbsence k (u.adopt (some n))).outcome = .ok true)
    (hs : s.Extends t) (hs' : s'.Extends t') {x : Value} (hx : x.TextKeyed)
    (hcalm : ((t.env host).validate v.validator x).IsCalm)
    (hcalm' : ((t'.env host).validate w.validator x).IsCalm) :
    ((t'.env host).validate w.validator x).outcome =
      ((t.env host).validate v.validator x).outcome := by
  obtain ⟨hwhole, hwhole', w', htree, hback⟩ := hback
  have htolerance : (t'.env host).stepTolerance = (t.env host).stepTolerance := rfl
  have hv : (t.env host).root n = some v.validator := Store.root_env host (hs hwhole.root)
  have hw : (t'.env host).root n' = some w.validator := Store.root_env host (hs' hwhole'.root)
  have hleft := hwhole.contained.adopt_release.symm
  refine (hback.mirrors hgood hadmitted).validate_eq htolerance hv hleft hw htree ?_ hx hcalm hcalm'
  -- what was admitted to be absent is not refused later on
  intro k u hu hadmits depth hends
  have htolerance : (t.env host).stepTolerance = (s.env host).stepTolerance := rfl
  refine hwhole.contained.release.missing_ne_false htolerance (fun m r hm hr => ?_) hv hleft hu
    (Env.check_of_admitsAbsence hadmits) depth "" hends.1
  cases hm
  rw [Store.root_env host hwhole.root] at hr
  cases hr
  exact hleft

end ComesBack

/-! ## Patterns -/

/-- A pattern without delegates has a whole root. -/
theorem exists_whole (host : Host) {p : Pattern} {u : Validator} (hu : u.SelfContained none)
    (hcompiled : p.compile host.slot none false = .ok u) (s : Store) :
    ∃ v, (compile host p s).outcome = .ok v ∧
      (compile host p s).store.IsWhole s.sessions.length v ∧
      v.validator.release = u.release := by
  obtain ⟨v, hv, hroot, htree⟩ := compile_selfContained host hu hcompiled s
  refine ⟨v, hv, ⟨hroot, .of_adopt_none ?_⟩, ?_⟩
  · rw [htree]
    exact hu.adopt
  · rw [← Validator.release_adopt none, htree, Validator.release_adopt]

/-- **What a descriptor of a pattern without delegates is written of**: a validator is described as it is,
and of any other pattern the root that it is compiled to.  References of `own` lead back to it. -/
theorem exists_described (host : Host) {p : Pattern} {u : Validator} (hu : u.SelfContained none)
    (hcompiled : p.compile host.slot none false = .ok u) (s : Store) :
    ∃ (h : Handle) (own : Option Nat) (t : Store),
      (descriptorOf host p s).outcome = (descriptor host h t).outcome ∧
      h.validator.SelfContained own ∧ h.validator.release = u.release ∧
      ∀ m r, own = some m → t.root m = some r → r = h := by
  obtain ⟨v, hv, hwhole, hrelease⟩ := exists_whole host hu hcompiled s
  have hbound : ((do descriptor host (← compile host p) : Action Value) s).outcome =
      (descriptor host v (compile host p s).store).outcome := by
    rw [Action.bind_of_ok hv]
  have hown : ∀ m r, some s.sessions.length = some m → (compile host p s).store.root m = some r →
      r = v := by
    rintro m r ⟨⟩ hr
    exact Option.some.inj (hr.symm.trans hwhole.root)
  cases p with
  | validator h =>
    cases hcompiled
    exact ⟨h, none, s, rfl, hu, rfl, fun m r hm => by cases hm⟩
  | value | seq | mapping => exact ⟨v, _, _, hbound, hwhole.contained, hrelease, hown⟩

/-- **There is a descriptor of a pattern that can be read back**, and it is read as what is left of the
validator of the pattern comes back as. -/
theorem exists_descriptorOf (host : Host) {p : Pattern} {u : Validator} (hu : u.Recoverable)
    (hcompiled : p.compile host.slot none false = .ok u) (s : Store) :
    ∃ fs admitted, (descriptorOf host p s).outcome =
        .ok (host.settings.declareDialect (.record fs)) ∧
      Descriptor.ReadsAs (fun m => Validator.ComesBackAs Leaf.Recoverable admitted m u.release) fs := by
  obtain ⟨h, own, t, heq, hcontained, hrelease, -⟩ := exists_described host hu.selfContained hcompiled s
  have hleft : h.validator.release.Recoverable := hrelease ▸ hu.release fun _ _ => id
  obtain ⟨fs, hfs, hreads⟩ := exists_describe host t hcontained hleft (fun _ => id)
    fun _ _ _ hwritten hempty => absurd hempty hwritten
  refine ⟨fs, _, ?_, hrelease ▸ hreads⟩
  rw [heq, descriptor, Action.bind_of_ok hfs]
  rfl

/-- A measurement: a float, possibly a dictionary, and possibly a further measurement. -/
def measurement : Pattern := .mapping .dict 0
  [(.text "ratio", .value (.cls (.builtin .float))),
    (.text "extra", .seq .list 1 [.value (.cls (.builtin .dict)), .value .null]),
    (.text "?next", .value .selfMarker)]

/-- All classes in the pattern are ones that JSON has a type for. -/
theorem recoverable_measurement : measurement.Recoverable false := by
  refine @Pattern.madeOf_mapping false _ .dict 0
    [("ratio", .value (.cls (.builtin .float))),
      ("extra", .seq .list 1 [.value (.cls (.builtin .dict)), .value .null]),
      ("?next", .value .selfMarker)] (by decide +kernel) (by decide +kernel) ?_
  simp only [List.forall_mem_cons]
  refine ⟨.value rfl, .seq (by simp) (by simp) ?_, .value trivial, by simp⟩
  simp only [List.forall_mem_cons]
  exact ⟨.value rfl, .value trivial, by simp⟩

end Schema

end Conformance
