import Conformance.Proofs.Pattern.Flagless
import Conformance.Proofs.Session.Reencoding
import Conformance.Proofs.Session.StringSources

/-!
# Descriptors of regexes with flags

The descriptor of a pattern is read back as the schema of the pattern whose regexes are read again without
flags.  So regexes that were compiled without flags survive the way there and back, and the flags of others
are lost on it.

## Main Definitions

* `Schema.Reread` — a root that was read from the descriptor of a validator, the flags of regexes left out

## Main statements

* `Schema.exists_reread` — the descriptor of a pattern is read as such a root
* `Schema.Reread.validate_eq` — it gives the verdicts of the root of the pattern without flags
* `Schema.decode_descriptorOf_flagless` — what the descriptors of a regex and of a pattern are read as
-/

namespace Conformance.Schema

variable {host : Host} {s t : Store} {p : Pattern} {u : Validator} {own : Option Nat} {n : Nat}

/-- **A root was read from a descriptor of `u`** that was written in the store `t`, where references of `own`
lead back to `u` as far as they lead anywhere: it is what is left of `u` without flags. -/
structure Reread (host : Host) (u : Validator) (t : Store) (own : Option Nat) (s : Store) (n : Nat)
    (w : Handle) : Prop where
  leadsBack : ∀ m r, own = some m → t.root m = some r →
    r.validator.SelfContained own ∧ r.validator.release = u.release
  root : s.root n = some w
  tree : ∃ w', w.validator.adopt none = w'.adopt none ∧
    Validator.RebuiltAs Leaf.RereadsAs
      (fun k x => ((t.env host).admitsAbsence k (x.adopt own)).outcome = .ok true) n u.release w'

/-- **There is a descriptor of a pattern whose rules can be read**, and it is read as what is left of the
pattern without flags. -/
theorem exists_reread (host : Host) (hu : u.MadeOf Leaf.IsRereadable fun k _ => k.written ≠ "")
    (hcompiled : p.compile host.slot none false = .ok u) (s₂ s₃ : Store) :
    ∃ D w t own, (descriptorOf host p s₂).outcome = .ok D ∧ (decode host D s₃).outcome = .ok w ∧
      Reread host u t own (decode host D s₃).store s₃.sessions.length w := by
  obtain ⟨h, own, t, heq, hcontained, hrelease, hown⟩ :=
    exists_described host hu.selfContained hcompiled s₂
  have hleft : h.validator.release.MadeOf Leaf.IsRereadable fun k _ => k.written ≠ "" :=
    hrelease ▸ hu.release fun _ _ => id
  obtain ⟨fs, hfs, hreads⟩ := exists_describe_rebuilt host t hcontained hleft
    (fun _ => Leaf.IsRereadable.readsAs) fun _ _ _ hwritten hempty => absurd hempty hwritten
  obtain ⟨fs', hfs', hreads⟩ := hreads.declared host.settings
  have hD : (descriptorOf host p s₂).outcome = .ok (.record fs') := by
    rw [heq, descriptor, Action.bind_of_ok hfs, ← hfs']
    rfl
  obtain ⟨w, w', hw, hroot, htree, hrebuilt⟩ := decode_reads hreads
    (fun m _ hback => hback.selfContained_some fun _ _ hrule => hrule.selfContained (some m)) s₃
  refine ⟨.record fs', w, t, own, hD, hw, fun m r hm hr => ?_, hroot, w', htree, hrelease ▸ hrebuilt⟩
  rw [hown m r hm hr]
  exact ⟨hcontained, hrelease⟩

namespace Reread

variable {w : Handle}

/-- A regex is read as a rule that searches as the regex that is left of it. -/
theorem exists_rule {r r' : Regex} (h : Reread host (.leaf (.regex r)) t own s n w)
    (hr : Regex.ofSource r.source .none = .ok r') :
    ∃ rule : Leaf, w.validator = .leaf rule ∧ rule.SearchesAs r' := by
  obtain ⟨w', htree, hrebuilt⟩ := h.tree
  cases hrebuilt with
  | leaf hrule =>
  have hleaf : ∃ rule : Leaf, w' = .leaf rule ∧ rule.SearchesAs r' := by
    cases hrule with
    | source hr' hsearches =>
      cases hr.symm.trans hr'
      exact ⟨_, rfl, hsearches⟩
    | told hportable hback =>
      cases hr.symm.trans hportable.1
      cases hback
      exact ⟨_, rfl, .regex⟩
  obtain ⟨rule, rfl, hsearches⟩ := hleaf
  exact ⟨rule, Validator.adopt_eq_leaf htree, hsearches⟩

/-- **What was read from a descriptor gives the verdicts of the pattern without flags**, from then on and
where both checks stay calm. -/
theorem validate_eq {s₁ t₁ t₃ : Store} {m : Nat} {v : Handle} (h : Reread host u t own s n w)
    (hu : u.SelfContained none) (hwhole : s₁.IsWhole m v)
    (hrelease : v.validator.release = (u.mapRules Leaf.flagless).release) (ht₁ : s₁.Extends t₁)
    (ht₃ : s.Extends t₃) {x : Value} (hx : x.TextKeyed)
    (hcalm : ((t₁.env host).validate v.validator x).IsCalm)
    (hcalm' : ((t₃.env host).validate w.validator x).IsCalm) :
    ((t₃.env host).validate w.validator x).outcome =
      ((t₁.env host).validate v.validator x).outcome := by
  obtain ⟨hback, hroot, w', htree, hrebuilt⟩ := h
  -- absence was asked about with flags, and is admitted alike without
  let written := (t.env host).mapRules Leaf.flagless
  have hroots : ∀ m r, own = some m → (t.env host).root m = some r → r.SelfContained own := by
    intro m r hm hr
    obtain ⟨handle, hhandle, rfl⟩ := Option.map_eq_some_iff.mp hr
    exact (hback m handle hm hhandle).1
  have hmirrors : Validator.Mirrors (fun k y => written.admitsAbsence k (y.adopt own)) n
      (u.release.mapRules Leaf.flagless) w' := by
    refine hrebuilt.mirrors_flagless fun k y hy hadmits => ?_
    rw [Validator.adopt_mapRules]
    exact (Env.admitsAbsence_mapRules (Leaf.absenceAlike_flagless _) hroots hy.adopt k).trans hadmits
  have hv := Store.root_env host (ht₁ hwhole.root)
  have hleft : v.validator.adopt none = (u.release.mapRules Leaf.flagless).adopt (some m) := by
    rw [← hwhole.contained.adopt_release, hrelease, Validator.release_mapRules]
  have hw := Store.root_env host (ht₃ hroot)
  have htolerance : (t₃.env host).stepTolerance = (t₁.env host).stepTolerance := rfl
  refine hmirrors.validate_eq htolerance hv hleft hw htree ?_ hx hcalm hcalm'
  -- what was admitted to be absent is not refused later on
  intro k y hy hadmits depth hends
  have htolerance : (t₁.env host).stepTolerance = written.stepTolerance := rfl
  refine hu.release.mapRules.missing_ne_false htolerance (fun m' r hm hr => ?_) hv hleft hy
    (Env.check_of_admitsAbsence hadmits) depth "" hends.1
  obtain ⟨root, hroot, rfl⟩ := Option.map_eq_some_iff.mp hr
  obtain ⟨handle, hhandle, rfl⟩ := Option.map_eq_some_iff.mp hroot
  obtain ⟨hcontained, hsame⟩ := hback m' handle hm hhandle
  rw [← hcontained.mapRules.adopt_release, Validator.release_mapRules, hsame]

end Reread

/-- **Regexes come back without their flags.**  The descriptor of a regex is read as a schema that accepts
the texts in which its source, read without flags, finds a match; and the descriptor of a pattern is read
as a schema with the verdicts of the pattern whose regexes are read without flags, whatever else has
happened to the sessions, on absence and on every value whose mappings have texts as keys, unless a check
of one of them ends with a fault. -/
theorem decode_descriptorOf_flagless (host : Host) (s₁ s₂ s₃ : Store) :
    (∀ r r' : Regex, Regex.ofSource r.source .none = .ok r' → StringRule.HasPlainCounts r.source →
      ∃ D w, (descriptorOf host (.value (.regex r)) s₂).outcome = .ok D ∧
        (decode host D s₃).outcome = .ok w ∧ ∀ t x, (validate host w x t).outcome = .ok true ↔
          ∃ text, x = .text text ∧ r'.findsIn? text = .ok true) ∧
    ∀ p : Pattern, p.MadeOf Leaf.IsRereadable false →
      ∃ v D w, (compile host (p.flagless false) s₁).outcome = .ok v ∧
        (descriptorOf host p s₂).outcome = .ok D ∧ (decode host D s₃).outcome = .ok w ∧
        ∀ t₁ t₃, (compile host (p.flagless false) s₁).store.Extends t₁ →
          (decode host D s₃).store.Extends t₃ → ∀ x : Value, x.TextKeyed →
            ((t₁.env host).validate v.validator x).IsCalm →
            ((t₃.env host).validate w.validator x).IsCalm →
            ((t₃.env host).validate w.validator x).outcome =
              ((t₁.env host).validate v.validator x).outcome := by
  constructor
  · intro r r' hr hcounts
    have hcompiled : Pattern.compile host.slot none false (.value (.regex r)) =
        .ok (.leaf (.regex r)) := rfl
    have hu : (Validator.leaf (.regex r)).MadeOf Leaf.IsRereadable fun k _ => k.written ≠ "" :=
      .leaf ⟨⟨r', hr⟩, hcounts⟩
    obtain ⟨D, w, t, own, hD, hw, hreread⟩ := exists_reread host hu hcompiled s₂ s₃
    obtain ⟨rule, hrule, hsearches⟩ := hreread.exists_rule hr
    exact ⟨D, w, hD, hw, fun t x => accepts_of_searchesAs hrule hsearches t x⟩
  · intro p hp
    have hmade : ∃ u, p.compile host.slot none false = .ok u ∧
        u.MadeOf Leaf.IsRereadable fun k _ => k.written ≠ "" :=
      hp.compile fun _ => Leaf.Portable.isRereadable
    obtain ⟨u, hcompiled, hu⟩ := hmade
    obtain ⟨v, hv, hwhole, hrelease⟩ :=
      exists_whole host hu.selfContained.mapRules (Pattern.compile_flagless hcompiled) s₁
    obtain ⟨D, w, t, own, hD, hw, hreread⟩ := exists_reread host hu hcompiled s₂ s₃
    exact ⟨v, D, w, hv, hD, hw, fun t₁ t₃ ht₁ ht₃ x hx hcalm hcalm' =>
      hreread.validate_eq hu.selfContained hwhole hrelease ht₁ ht₃ hx hcalm hcalm'⟩

/-- A letter in either case, alone and as one of two alternatives under a key: the capital letter is
accepted before, and refused by what the descriptors are read as. -/
theorem decode_descriptorOf_flagless_of_letter :
    let host : Host := ⟨fun _ => .absent, Settings.standard⟩
    let s : Store := ⟨[], 0⟩
    let under (r : Regex) : Pattern :=
      .mapping .dict 0 [(.text "k", .seq .list 1 [.value .null, .value (.regex r)])]
    let x : Value := .dict [(.text "k", .text "A")]
    let flags : Regex.Flags := { Regex.Flags.none with ignoreCase := true }
    ∃ (r : Regex) (D D' : Value) (w w' u : Handle),
      Regex.ofSource "a" flags = .ok r ∧ r.findsIn? "A" = .ok true ∧
      (descriptorOf host (.value (.regex r)) s).outcome = .ok D ∧
      (decode host D s).outcome = .ok w ∧ (validate host w (.text "A") s).outcome ≠ .ok true ∧
      (compile host (under r) s).outcome = .ok u ∧
      (((compile host (under r) s).store.env host).validate u.validator x).outcome = .ok true ∧
      (descriptorOf host (under r) s).outcome = .ok D' ∧ (decode host D' s).outcome = .ok w' ∧
      (((decode host D' s).store.env host).validate w'.validator x).outcome = .ok false := by
  intro host s under x flags
  have hrun : (Regex.ofSource "a" flags).toOption.any (fun r =>
      decide (r.findsIn? "A" = .ok true) && decide (StringRule.split? r.source = none) &&
      (Regex.ofSource r.source .none).toOption.any fun r' => decide (r'.findsIn? "A" = .ok false) &&
      (compile host (under r) s).outcome.toOption.any fun u => decide
        ((((compile host (under r) s).store.env host).validate u.validator x).outcome = .ok true) &&
      (compile host ((under r).flagless false) s).outcome.toOption.any fun v =>
        let t := (compile host ((under r).flagless false) s).store
        decide ((t.env host).validate v.validator x).IsCalm &&
        decide (((t.env host).validate v.validator x).outcome = .ok false) &&
      (descriptorOf host (under r) s).outcome.toOption.any fun D =>
        (decode host D s).outcome.toOption.any fun w =>
          decide (((decode host D s).store.env host).validate w.validator x).IsCalm) = true := by
    decide +kernel
  obtain ⟨r, hr, hrun⟩ := Except.exists_of_any hrun
  obtain ⟨hregex, hrun⟩ := Bool.and_eq_true_iff.mp hrun
  obtain ⟨hfinds, hshape⟩ := Bool.and_eq_true_iff.mp hregex
  obtain ⟨r', hr', hrun⟩ := Except.exists_of_any hrun
  obtain ⟨hnot, hrun⟩ := Bool.and_eq_true_iff.mp hrun
  obtain ⟨u, hu, hrun⟩ := Except.exists_of_any hrun
  obtain ⟨haccepted, hrun⟩ := Bool.and_eq_true_iff.mp hrun
  obtain ⟨v, hv, hrun⟩ := Except.exists_of_any hrun
  obtain ⟨hverdict, hrun⟩ := Bool.and_eq_true_iff.mp hrun
  obtain ⟨hcalm, hrefused⟩ := Bool.and_eq_true_iff.mp hverdict
  obtain ⟨D', hD', hrun⟩ := Except.exists_of_any hrun
  obtain ⟨w', hw', hcalm'⟩ := Except.exists_of_any hrun
  have hcounts := StringRule.hasPlainCounts_of_shape (of_decide_eq_true hshape)
  obtain ⟨halone, hinside⟩ := decode_descriptorOf_flagless host s s s
  obtain ⟨D, w, hD, hw, haccepts⟩ := halone r r' hr' hcounts
  have hunder : (under r).MadeOf Leaf.IsRereadable false := by
    refine @Pattern.madeOf_mapping false _ .dict 0
      [("k", .seq .list 1 [.value .null, .value (.regex r)])] ?_ (by simp) ?_
    · simp only [List.forall_mem_cons]
      exact ⟨⟨by decide +kernel, by decide⟩, by simp⟩
    · simp only [List.forall_mem_cons]
      refine ⟨.seq (by simp) (by simp) ?_, by simp⟩
      simp only [List.forall_mem_cons]
      exact ⟨.value trivial, .value ⟨⟨r', hr'⟩, hcounts⟩, by simp⟩
  have hx : x.TextKeyed := by
    refine @Value.TextKeyed.mapping .dict 0 _ ["k"] rfl (by decide) ?_
    simp only [List.forall_mem_cons]
    exact ⟨.plain rfl rfl, by simp⟩
  obtain ⟨v', E, w'', hv', hE, hw'', hsame⟩ := hinside (under r) hunder
  cases hv.symm.trans hv'
  cases hD'.symm.trans hE
  cases hw'.symm.trans hw''
  refine ⟨r, D, D', w, w', u, hr, of_decide_eq_true hfinds, hD, hw, fun htrue => ?_, hu,
    of_decide_eq_true haccepted, hD', hw', ?_⟩
  · obtain ⟨text, heq, hfinds'⟩ := (haccepts s _).mp htrue
    cases heq
    cases (of_decide_eq_true hnot).symm.trans hfinds'
  · rw [hsame _ _ (.refl _) (.refl _) x hx (of_decide_eq_true hcalm) (of_decide_eq_true hcalm')]
    exact of_decide_eq_true hrefused

end Conformance.Schema
