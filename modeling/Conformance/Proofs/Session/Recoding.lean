import Conformance.Proofs.Session.Image
import Conformance.Proofs.Session.Reencoding

/-!
# Reading, writing and reading again

What was read from a descriptor can be described, whatever the descriptor was, and reading it once more
changes nothing, unless one of two things is in the way.  A required member with the empty name is
written as one that may be left out when its absence is admitted, and that is refused.  And two members
of a descriptor may be read as keys that are written to the same member, so that what stands under one
of them is lost.

## Main statements

* `Validator.Decoded.eq_of_obstacle` — the empty key is the only obstacle in what was read
* `Schema.decode_describe_decode` — how reading ends for the descriptor of what was read, and that it
  gives the same verdicts if no key is lost
-/

namespace Conformance

/-! ## Obstacles in what was read -/

namespace Validator

variable {slot : Nat → Slot} {n : Nat} {empty : Prop} {v w : Validator}

/-- What is shown by something that was read stands in it. -/
theorem Decoded.part_of_shows (h : v.Decoded n empty) (hshown : v.Shows slot w) : v.Part w := by
  cases hshown with
  | copy t => cases h
  | live _ => cases h
  | alternative hmem => exact .alternative hmem
  | property hlast => exact .property (List.mem_reverse.mp (List.mem_of_find?_eq_some hlast))
  | element => exact .element _ _ _

/-- **The empty key is the only obstacle in what was read**, if no choice is without alternatives. -/
theorem Decoded.eq_of_obstacle {env : Env} {e : Refusal} (h : v.Decoded n empty) (hempty : ¬ empty)
    (he : env.Obstacle v e) : e = (DecodeCause.key (.keyWithoutName "?")).refusal := by
  obtain ⟨w, hshown, hobstacle⟩ := he
  have hw : w.Decoded n empty := by
    clear hobstacle
    induction hshown with
    | refl => exact h
    | tail _ hnext ih => exact ih.part (ih.part_of_shows hnext)
  cases hobstacle with
  | ofRule hrule =>
    cases hw with
    | leaf hrecoverable _ => exact absurd hrule (Descriptor.not_obstacle_of_recoverable hrecoverable)
  | ofDelegate _ => cases hw
  | noAlternatives =>
    cases hw with
    | anyOf hne _ => exact absurd (hne rfl) hempty
  | emptyKey _ _ => rfl

/-- Where no key is written over, every part is shown. -/
theorem KeysDiffer.shows (h : v.KeysDiffer) (hpart : Relation.ReflTransGen Part v w) :
    Relation.ReflTransGen (Shows slot) v w := by
  induction hpart with
  | refl => exact .refl
  | tail hreach hlast ih =>
    refine ih.tail ?_
    cases hlast with
    | copy t => exact .copy t _
    | alternative hmem => exact .alternative hmem
    | @property ps p hmem =>
      exact .property ((List.find?_reverse_eq_some_iff (h ps hreach)).mpr ⟨hmem, rfl⟩)
    | element => exact .element _ _ _

/-- If there are no obstacles, the absence of an empty key is refused. -/
theorem KeysDiffer.refused_of_empty (h : v.KeysDiffer) {env : Env} (hfree : ∀ e, ¬ env.Obstacle v e)
    {ps : List (Property Validator)} (hps : Relation.ReflTransGen Part v (.object ps))
    (hread : ∀ p ∈ ps, Key.ofWritten p.key.written = .ok p.key) {p : Property Validator} (hp : p ∈ ps)
    (hwritten : p.key.written = "") : (env.admitsAbsence p.key p.rule).outcome = .ok false := by
  obtain ⟨b, hb⟩ := env.exists_admitsAbsence p.key p.rule
  cases b with
  | false => exact hb
  | true =>
    refine absurd ⟨_, h.shows hps, .emptyKey ⟨p, hp, hwritten⟩ fun q hq hempty => ?_⟩ (hfree _)
    -- there is one empty key at most
    have hkey : q.key = p.key := by
      have hsame := hread q hq
      rw [hempty, ← hwritten, hread p hp] at hsame
      exact (Except.ok.inj hsame).symm
    rw [List.inj_on_of_nodup_map (h ps hps) hq hp (by rw [hkey])]
    exact hb

end Validator

namespace Schema

variable {host : Host} {s t : Store} {document descriptor : Value} {v : Handle}

/-- The schema of a document is whole, and it can be described. -/
theorem isWhole_of_decode (hdocument : Descriptor.ofDocument document = .ok descriptor)
    (hdecode : (decode host document s).outcome = .ok v) :
    (decode host document s).store.IsWhole s.sessions.length v :=
  ⟨(ended_decode host s hdocument).root_of_outcome hdecode,
    Descriptor.selfContained_decode (read_of_decode hdocument hdecode)⟩

/-- **Reading the descriptor of what was read.**  The schema of a descriptor, in which no list of types is
empty, has a descriptor.  It is read back if there are no obstacles in the schema, and otherwise it is
refused because of an empty key whose absence is admitted.  What is read back gives the same verdicts as
the schema if no two of its keys are written to the same member, on absence and on every value whose
mappings have texts as keys, unless a check of one of them ends with a fault. -/
theorem decode_describe_decode (hdocument : Descriptor.ofDocument document = .ok descriptor)
    (htypes : ¬ Descriptor.HasEmptyType descriptor)
    (hdecode : (decode host document s).outcome = .ok v)
    (ht : (decode host document s).store.Extends t) :
    ∃ D, (describe host v t).outcome = .ok D ∧ ∀ s',
      ((∃ w, (decode host D s').outcome = .ok w ∧ (v.validator.KeysDiffer →
          ∀ t₁ t₂, t.Extends t₁ → (decode host D s').store.Extends t₂ →
            ∀ x : Value, x.TextKeyed → ((t₁.env host).validate v.validator x).IsCalm →
              ((t₂.env host).validate w.validator x).IsCalm →
              ((t₂.env host).validate w.validator x).outcome =
                ((t₁.env host).validate v.validator x).outcome)) ∧
        ∀ e, ¬ (t.env host).Obstacle v.validator e) ∨
      ∃ e, (decode host D s').outcome = .error e ∧
        e.unplaced = (DecodeCause.key (.keyWithoutName "?")).refusal ∧
        (t.env host).Obstacle v.validator e.unplaced := by
  have hread := read_of_decode hdocument hdecode
  have hdecoded := Descriptor.decoded_decode hread
  have hwhole : t.IsWhole s.sessions.length v := (isWhole_of_decode hdocument hdecode).mono ht
  have hdescribed : ((t.env host).describe v.validator).Succeeds := by
    obtain ⟨u, label, r, -, hrebind, hvalidator⟩ :=
      (ended_decode host s hdocument).exists_rebound hdecode
    have hbound : Validator.rebindTo (t.env host).slot s.sessions.length depthLimit (some label) u =
        .ok r := hrebind
    rw [hvalidator]
    exact (Env.succeeds_describeTo_of_rebindTo hbound (Nat.le_refl depthLimit)).2
  obtain ⟨D, hD, hwritten⟩ := exists_written hdecoded.ofLibrary hdescribed
  refine ⟨D, hD, fun s' => ?_⟩
  rcases decode_of_written hwritten (.inl rfl) s' with ⟨⟨w, hw⟩, hfree⟩ | ⟨e, he, hobstacle⟩
  · refine .inl ⟨⟨w, hw, fun hkeys t₁ t₂ ht₁ ht₂ x hx hcalm hcalm' => ?_⟩, hfree⟩
    -- without obstacles the absence of an empty key is refused, so every key is read back
    have hmade : v.validator.release.MadeOf (fun rule => rule.Recoverable ∧ rule.IsExact)
        fun k u => k.written = "" → ((t.env host).admitsAbsence k
          (u.adopt (some s.sessions.length))).outcome = .ok false := by
      refine hdecoded.madeOf_release htypes hkeys fun ps hps p hp hempty => ?_
      have hobject := hdecoded.reaches hps
      rw [(hobject.part (.property hp)).selfContained.admitsAbsence_release]
      cases hobject with
      | object hread _ => exact hkeys.refused_of_empty hfree hps hread hp hempty
    obtain ⟨fs, hfs, hreads⟩ := exists_describe host t hwhole.contained hmade
      (fun _ hrule => hrule.1) fun k u hu hkept hempty => by
        rw [← hu.admitsAbsence_release]
        exact hkept hempty
    cases hD.symm.trans hfs
    obtain ⟨w', hw', hback⟩ := exists_comesBack host hwhole hreads.reads s'
    cases hw.symm.trans hw'
    exact hback.validate_eq (fun _ hrule => hrule.2) (fun _ _ => id) ht₁ ht₂ hx hcalm hcalm'
  · exact .inr ⟨e, he, hdecoded.eq_of_obstacle htypes hobstacle, hobstacle⟩

/-- Two names that stand for the same regex: both are read as keys that are written to the same member, so
the first one is lost, and a text is accepted where an integer was asked for. -/
theorem decode_describe_decode_of_two_names :
    let host : Host := ⟨fun _ => .absent, Settings.standard⟩
    let s : Store := ⟨[], 0⟩
    let d : Value := .record [("type", .text "object"), ("patternProperties", .record
      [("a.", .record [("type", .text "integer")]),
        ("^(?:a.)$", .record [("type", .text "string")])])]
    let x : Value := .dict [(.text "ab", .text "x")]
    ∃ v D w, (decode host d s).outcome = .ok v ∧
      (describe host v (decode host d s).store).outcome = .ok D ∧ (decode host D s).outcome = .ok w ∧
      ¬ v.validator.KeysDiffer ∧
      (((decode host d s).store.env host).validate v.validator x).outcome = .ok false ∧
      (((decode host D s).store.env host).validate w.validator x).outcome = .ok true := by
  intro host s d x
  have hx : x.TextKeyed := by
    refine @Value.TextKeyed.mapping .dict 0 _ ["ab"] rfl (by decide) ?_
    simp only [List.forall_mem_cons]
    exact ⟨.plain rfl rfl, by simp⟩
  have hdocument : Descriptor.ofDocument d = .ok d := rfl
  have htypes : ¬ Descriptor.HasEmptyType d := by
    have hleaf : ∀ name, ¬ Descriptor.HasEmptyType (.record [("type", .text name)]) := by
      intro name h
      cases h with
      | here h => cases h
      | listed h => cases h
      | inside hsub => exact Descriptor.not_subnode_type hsub
    intro h
    simp only [d] at h
    cases h with
    | here h => cases h
    | listed h => cases h
    | inside hsub hnode =>
      cases hsub with
      | alternative h => cases h
      | items h => cases h
      | additional h => cases h
      | member hpart hentries he =>
        rcases hpart with rfl | rfl
        · cases hentries
          cases he
        · cases hentries
          rcases List.mem_cons.mp he with he | he
          · cases he
            exact hleaf _ hnode
          · cases List.mem_singleton.mp he
            exact hleaf _ hnode
  have hrun : (decode host d s).outcome.toOption.any (fun v =>
      let t := (decode host d s).store
      decide ((t.env host).validate v.validator x).IsCalm &&
      decide (((t.env host).validate v.validator x).outcome = .ok false) &&
      (describe host v t).outcome.toOption.any fun D =>
        (decode host D s).outcome.toOption.any fun w =>
          decide (((decode host D s).store.env host).validate w.validator x).IsCalm &&
          decide ((((decode host D s).store.env host).validate w.validator x).outcome = .ok true)) =
        true := by
    decide +kernel
  obtain ⟨v, hv, hrun⟩ := Except.exists_of_any hrun
  obtain ⟨hverdict, hrun⟩ := Bool.and_eq_true_iff.mp hrun
  obtain ⟨hcalm, hrefused⟩ := Bool.and_eq_true_iff.mp hverdict
  obtain ⟨D, hD, hrun⟩ := Except.exists_of_any hrun
  obtain ⟨w, hw, hrun⟩ := Except.exists_of_any hrun
  obtain ⟨hcalm', haccepted⟩ := Bool.and_eq_true_iff.mp hrun
  have hrefused := of_decide_eq_true hrefused
  have haccepted := of_decide_eq_true haccepted
  refine ⟨v, D, w, hv, hD, hw, fun hkeys => ?_, hrefused, haccepted⟩
  obtain ⟨D', hD', hends⟩ := decode_describe_decode hdocument htypes hv (.refl _)
  cases hD.symm.trans hD'
  rcases hends s with ⟨⟨w', hw', hsame⟩, -⟩ | ⟨e, he, -⟩
  · cases hw.symm.trans hw'
    have hverdict := hsame hkeys _ _ (.refl _) (.refl _) x hx (of_decide_eq_true hcalm)
      (of_decide_eq_true hcalm')
    rw [hrefused, haccepted] at hverdict
    cases hverdict
  · cases hw.symm.trans he

end Schema

end Conformance
