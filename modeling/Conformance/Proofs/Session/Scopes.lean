import Conformance.Proofs.Pattern.Release
import Conformance.Proofs.Session.RoundTrip
import Conformance.Proofs.Validator.Modes

/-!
# Schemas in schemas, written and read back

A schema that stands in the pattern of another one keeps its own session: the references in it mean
it.  A descriptor writes all references alike, and what is read back has one session.  So the
references that meant the inner schema mean the outer one afterwards, as if a fragment had stood in
the place of the inner schema.

## Main statements

* `Schema.portable_release_of_compile` — without its session, the schema of a portable pattern is a
  portable fragment
* `Schema.decode_descriptor_release` — what is read back gives the verdicts of the schema that has
  fragments in place of the schemas in it
-/

namespace Conformance

namespace Env

variable {env : Env} {v : Validator}

/-- What accepts absence within the limit is a validator that accepts absence. -/
theorem validate_missing_of_check {depth : Nat} {path : String} (hle : depth ≤ depthLimit)
    (h : (env.check depth v .missing path).outcome = .ok true) :
    (env.validate v .missing).outcome = .ok true :=
  validate_eq_ok_true_iff.mpr (check_missing_mono hle v path Path.root true h)

/-- What accepts absence does not refuse it, however far a check gets. -/
theorem check_ne_false_of_validate_missing (h : (env.validate v .missing).outcome = .ok true)
    (depth : Nat) (path : String) : (env.check depth v .missing path).outcome ≠ .ok false := by
  intro hfalse
  have htrue := validate_eq_ok_true_iff.mp h
  rcases Nat.le_total depth depthLimit with hle | hle
  · have hlimit := check_missing_mono hle v path Path.root false hfalse
    rw [htrue] at hlimit
    cases hlimit
  · have hdepth := check_missing_mono hle v Path.root path true htrue
    rw [hfalse] at hdepth
    cases hdepth

/-- **Absence is admitted of what is left of some validator** with references of the sessions `S` only:
the validator itself was found to admit it. -/
def AdmitsReleased (env : Env) (S : Nat → Prop) (key : Key) (v : Validator) : Prop :=
  ∃ w : Validator, w.release = v ∧ (∀ m, w.Holds env.slot (some m) → S m) ∧
    (env.admitsAbsence key w).outcome = .ok true

open Classical in
/-- The same as the answer of a walk. -/
noncomputable def admitsReleased (env : Env) (S : Nat → Prop) (key : Key) (v : Validator) :
    Walk Bool :=
  pure (decide (env.AdmitsReleased S key v))

open Classical in
theorem admitsReleased_eq_ok_iff {S : Nat → Prop} {key : Key} :
    (env.admitsReleased S key v).outcome = .ok true ↔ env.AdmitsReleased S key v := by
  rw [admitsReleased, Walk.outcome_pure, Except.ok.injEq, decide_eq_true_iff]

end Env

namespace Schema

variable {host : Host} {s : Store} {p : Pattern} {v : Handle}

/-! ## What stands in a schema -/

/-- **Without its session, the schema of a portable pattern is a portable fragment**: it can stand in
the place of the schema. -/
theorem portable_release_of_compile (hp : p.Portable false)
    (h : (compile host p s).outcome = .ok v) : v.validator.release.Portable := by
  have hmade : ∃ u, p.compile host.slot none false = .ok u ∧ u.Portable := hp.compile
  obtain ⟨u, hcompiled, hu⟩ := hmade
  obtain ⟨bound, hbound, -, htree⟩ := compile_portable host hu hcompiled s
  rw [h] at hbound
  cases hbound
  rw [← Validator.release_adopt none, htree, Validator.release_adopt]
  exact hu.release

/-- The session of a reference in the schema of a pattern: its own one, or one of a validator that
stands in the pattern. -/
def InScope (host : Host) (p : Pattern) (n m : Nat) : Prop :=
  m = n ∨ ∃ q, p.Embeds host.slot q ∧ q.Holds host.slot (some m)

/-- **A pattern that is portable without the sessions of its schemas is compiled**, to a root with
references of the sessions in scope. -/
theorem compile_of_release {u : Validator} (hu : u.Portable)
    (hcompiled : p.release.compile host.slot none false = .ok u) (s : Store) :
    ∃ v : Handle, (compile host p s).outcome = .ok v ∧
      (compile host p s).store.root s.sessions.length = some v ∧ v.validator.release = u.release ∧
      ∀ m, v.validator.Holds host.slot (some m) → InScope host p s.sessions.length m := by
  obtain ⟨w, hw, hrelease⟩ := Pattern.exists_compile_of_release hcompiled (some s.sessions.length)
  have hwhole : w.release.SelfContained none := hrelease ▸ hu.selfContained.release
  obtain ⟨v, hv, hroot, htree⟩ := (ended_compile host s p).exists_bound hw hwhole
  refine ⟨v, hv, hroot, ?_, fun m hholds => ?_⟩
  · rw [← Validator.release_adopt none, htree, Validator.release_adopt, hrelease]
  · -- a reference of the root was made by the session or stands in what the pattern brought with it
    have hfrozen : Validator.freeze host.slot (fun _ => .error .endless)
        (w.adopt (some s.sessions.length)) = .ok (w.adopt (some s.sessions.length)) :=
      Validator.freeze_adopt_of_release hwhole
    have htaken : Validator.HoldsTaken host.slot s.sessions.length w
        (w.adopt (some s.sessions.length)) :=
      Validator.holdsTaken_freeze (fun _ _ h => by cases h) w hfrozen
    rw [← Validator.holds_adopt_none, htree] at hholds
    obtain ⟨own, hown, hm⟩ := (htaken (some m)).mp hholds
    cases own with
    | none => exact .inl (Option.some.inj hm)
    | some m' =>
      have hsame : m = m' := Option.some.inj hm
      rcases Pattern.holds_compile hw hown with heq | hembeds
      · exact .inl (hsame.trans (Option.some.inj heq))
      · exact .inr (hsame ▸ hembeds)

/-- **The descriptor of a schema tells of it without its sessions.** -/
theorem descriptor_release (host : Host) {v : Handle} (hv : v.validator.release.Portable)
    {S : Nat → Prop} (hS : ∀ m, v.validator.Holds host.slot (some m) → S m) (t : Store) :
    ∃ fs, (descriptor host v t).outcome = .ok (host.settings.declareDialect (.record fs)) ∧
      Descriptor.Tells ((t.env host).admitsReleased S) v.validator.release fs := by
  have htold : ∃ fs, ((t.env host).describe v.validator).outcome = .ok (.record fs) ∧
      Descriptor.Tells ((t.env host).admitsReleased S) v.validator.release fs := by
    refine Validator.describe_tells_release
      (S := fun w => ∀ m, w.Holds host.slot (some m) → S m) (fun w w' hw hpart m hm => ?_)
      (fun k w => Env.exists_admitsAbsence _ k w) (fun k w hw hadmits => ?_) hv hS
    · exact hw m (.head (.part hpart) hm)
    · exact Env.admitsReleased_eq_ok_iff.mpr ⟨w, rfl, hw, hadmits⟩
  obtain ⟨fs, hfs, htells⟩ := htold
  have hdone : (describe host v t).outcome = .ok (.record fs) := by
    have hwalk : (describe host v t).outcome =
        ((t.env host).describe v.validator).outcome.mapError .fault := rfl
    rw [hwalk, hfs]
    rfl
  refine ⟨fs, ?_, htells⟩
  rw [descriptor, Action.bind_of_ok hdone]
  rfl

/-! ## The round trip -/

/-- **What is read back has forgotten the scopes of references.**  In the pattern there may be schemas
at any depth, each with a session of its own, if what is left of the pattern without these sessions is
portable.  Then it has a schema, the schema has a descriptor, and what is read back gives the verdicts
of the schema that has fragments in place of these schemas: every reference means the whole, on
absence and on every value whose mappings have texts as keys.  That is so unless a check ends with a
fault, and if a schema in the pattern admits absence only where the whole does. -/
theorem decode_descriptor_release (host : Host) {p : Pattern} (hp : p.release.Portable false)
    (s₁ : Store) :
    ∃ v, (compile host p s₁).outcome = .ok v ∧
      ∀ t₁, (compile host p s₁).store.Extends t₁ → ∀ s₂ s₃, ∃ D w v',
        (descriptor host v t₁).outcome = .ok D ∧ (decode host D s₂).outcome = .ok w ∧
        (compile host p.release s₃).outcome = .ok v' ∧
        ∀ t₂ t₃, (decode host D s₂).store.Extends t₂ →
          (compile host p.release s₃).store.Extends t₃ →
          (∀ q m r, p.Embeds host.slot q → q.Holds host.slot (some m) → t₁.root m = some r →
            ((t₁.env host).validate r.validator .missing).outcome = .ok true →
            ((t₃.env host).validate v'.validator .missing).outcome = .ok true) →
          ∀ x : Value, x.TextKeyed → ((t₂.env host).validate w.validator x).IsCalm →
            ((t₃.env host).validate v'.validator x).IsCalm →
            ((t₂.env host).validate w.validator x).outcome =
              ((t₃.env host).validate v'.validator x).outcome := by
  have hmade : ∃ u, p.release.compile host.slot none false = .ok u ∧ u.Portable := hp.compile
  obtain ⟨u, hcompiled, hu⟩ := hmade
  obtain ⟨v, hv, hroot, hrelease, hholds⟩ := compile_of_release hu hcompiled s₁
  refine ⟨v, hv, fun t₁ hextends₁ s₂ s₃ => ?_⟩
  obtain ⟨fs, hD, htells⟩ := descriptor_release host (hrelease ▸ hu.release) hholds t₁
  obtain ⟨w, w', hw, hroot', htree', hmirrors⟩ := decode_told htells s₂
  obtain ⟨v', hv', hroot'', htree''⟩ := compile_portable host hu hcompiled s₃
  refine ⟨_, w, v', hD, hw, hv', fun t₂ t₃ hextends₂ hextends₃ hmissing x hx hcalm hcalm' => ?_⟩
  rw [hrelease] at hmirrors
  have hw₂ := Store.root_env host (hextends₂ hroot')
  have hv₃ := Store.root_env host (hextends₃ hroot'')
  have htree : v'.validator.adopt none = u.release.adopt (some s₃.sessions.length) := by
    rw [htree'', hu.selfContained.release_eq, Validator.adopt_adopt_none]
  -- a reference leads to the whole, or to a schema that admits absence only where the whole does
  have hscoped : (t₁.env host).ScopedFor (t₃.env host) u v'.validator depthLimit
      (InScope host p s₁.sessions.length) := by
    intro m r hm hr
    by_cases hown : m = s₁.sessions.length
    · rw [hown, Store.root_env host (hextends₁ hroot)] at hr
      cases hr
      exact .inl ⟨hrelease, hholds⟩
    · obtain ⟨q, hembeds, hq⟩ := hm.resolve_left hown
      obtain ⟨root, hroot, rfl⟩ := Option.map_eq_some_iff.mp hr
      refine .inr fun depth path hle haccepts => ?_
      exact Env.check_ne_false_of_validate_missing
        (hmissing q m root hembeds hq hroot (Env.validate_missing_of_check hle haccepts))
  have habsent : ∀ k q, q.SelfContained none →
      ((t₁.env host).admitsReleased (InScope host p s₁.sessions.length) k q).outcome = .ok true →
      ∀ depth, ¬ ((t₃.env host).check depth (q.adopt (some s₃.sessions.length)) .missing "").Ends
        false := by
    intro k q hq hadmits depth hends
    obtain ⟨q', rfl, hscope, hadmits⟩ := Env.admitsReleased_eq_ok_iff.mp hadmits
    exact hscoped.missing_ne_false hu.selfContained.release rfl hv₃ htree hq hscope (Nat.le_refl _)
      (Env.check_of_admitsAbsence hadmits) depth "" hends.1
  have htolerance : (t₂.env host).stepTolerance = (t₃.env host).stepTolerance := rfl
  exact hmirrors.validate_eq htolerance hv₃ htree hw₂ htree' habsent hx hcalm' hcalm

/-- A linked list in a schema of its own, which is the head of another schema.  A list of two is
accepted there; what is read back looks for a head in the rest of the list. -/
theorem decode_descriptor_release_of_head :
    let host : Host := ⟨fun _ => .absent, Settings.standard⟩
    let s : Store := ⟨[], 3⟩
    let list : Pattern := .mapping .dict 0
      [(.text "value", .value (.cls (.builtin .int))), (.text "?next", .value .selfMarker)]
    let head : Handle → Pattern := fun h => .mapping .dict 1 [(.text "head", .validator h)]
    let x : Value := .dict [(.text "head",
      .dict [(.text "value", .int 1), (.text "next", .dict [(.text "value", .int 2)])])]
    ∃ h v D w, (compile host list s).outcome = .ok h ∧
      (compile host (head h) (compile host list s).store).outcome = .ok v ∧
      (descriptor host v (compile host (head h) (compile host list s).store).store).outcome = .ok D ∧
      (decode host D s).outcome = .ok w ∧
      (((compile host (head h) (compile host list s).store).store.env host).validate
        v.validator x).outcome = .ok true ∧
      (((decode host D s).store.env host).validate w.validator x).outcome = .ok false := by
  intro host s list head x
  have hread : (Key.ofWritten "value").toOption.isSome = true ∧
      (Key.ofWritten "?next").toOption.isSome = true ∧
      (Key.ofWritten "head").toOption.isSome = true := by decide +kernel
  obtain ⟨value, hvalue⟩ := Except.exists_eq_ok hread.1
  obtain ⟨next, hnext⟩ := Except.exists_eq_ok hread.2.1
  obtain ⟨key, hkey⟩ := Except.exists_eq_ok hread.2.2
  have hvalue' : value.written = "value" := Key.written_of_ofWritten hvalue
  have hnext' : next.written = "?next" := Key.written_of_ofWritten hnext
  have hkey' : key.written = "head" := Key.written_of_ofWritten hkey
  have hmember : (Key.ofWritten "value").toOption.map Key.member ≠
      (Key.ofWritten "?next").toOption.map Key.member := by decide +kernel
  have hlist : list.Portable false := by
    refine @Pattern.Portable.mapping false .dict 0 _ [value, next] ?_ ?_ ?_ ?_
    · simp [hvalue', hnext']
    · simp [hvalue, hnext, hvalue', hnext']
    · rw [hvalue, hnext] at hmember
      simpa [Except.toOption] using hmember
    · simp only [List.forall_mem_cons]
      exact ⟨.value (.inr (.inl rfl)), .value trivial, by simp⟩
  -- what is computed: both schemas, the descriptor, what is read back, and the verdicts
  have hrun : (compile host list s).outcome.toOption.any (fun h =>
      let t := (compile host (head h) (compile host list s).store).store
      t.sessions.all (fun cell => cell.root.all fun r =>
        ((t.env host).validate r.validator .missing).outcome ≠ .ok true) &&
      (compile host (head h) (compile host list s).store).outcome.toOption.any fun v =>
        decide (((t.env host).validate v.validator x).outcome = .ok true) &&
        (descriptor host v t).outcome.toOption.any fun D =>
          (decode host D s).outcome.toOption.any fun w =>
            decide (((decode host D s).store.env host).validate w.validator x).IsCalm &&
            (compile host (head h).release s).outcome.toOption.any fun v' =>
              decide (((compile host (head h).release s).store.env host).validate
                v'.validator x).IsCalm &&
              decide ((((compile host (head h).release s).store.env host).validate
                v'.validator x).outcome = .ok false)) = true := by
    decide +kernel
  obtain ⟨h, hh, hrun⟩ := Except.exists_of_any hrun
  obtain ⟨hroots, hrun⟩ := Bool.and_eq_true_iff.mp hrun
  obtain ⟨v, hv, hrun⟩ := Except.exists_of_any hrun
  obtain ⟨haccepted, hrun⟩ := Bool.and_eq_true_iff.mp hrun
  obtain ⟨D, hD, hrun⟩ := Except.exists_of_any hrun
  obtain ⟨w, hw, hrun⟩ := Except.exists_of_any hrun
  obtain ⟨hcalm, hrun⟩ := Bool.and_eq_true_iff.mp hrun
  obtain ⟨v', hv', hrun⟩ := Except.exists_of_any hrun
  obtain ⟨hcalm', hrefused⟩ := Bool.and_eq_true_iff.mp hrun
  have hhead : (head h).release.Portable false := by
    refine @Pattern.Portable.mapping false .dict 1 _ [key] ?_ ?_ ?_ ?_
    · simp [Pattern.releaseEntries, hkey']
    · simp [hkey, hkey']
    · simp
    · simp only [Pattern.releaseEntries, List.forall_mem_cons]
      exact ⟨.validator (portable_release_of_compile hlist hh), by simp⟩
  obtain ⟨bound, hbound, hback⟩ := decode_descriptor_release host hhead (compile host list s).store
  rw [hv] at hbound
  cases hbound
  obtain ⟨D', w', v'', hD', hw', hv'', hsame⟩ := hback _ (.refl _) s s
  rw [hD] at hD'
  cases hD'
  rw [hw] at hw'
  cases hw'
  rw [hv'] at hv''
  cases hv''
  refine ⟨h, v, D, w, hh, hv, hD, hw, of_decide_eq_true haccepted, ?_⟩
  have hx : x.TextKeyed := by
    refine @Value.TextKeyed.mapping .dict 0 _ ["head"] rfl (by decide) ?_
    simp only [List.forall_mem_cons]
    refine ⟨@Value.TextKeyed.mapping .dict 0 _ ["value", "next"] rfl (by decide) ?_, by simp⟩
    simp only [List.forall_mem_cons]
    refine ⟨.plain rfl rfl, @Value.TextKeyed.mapping .dict 0 _ ["value"] rfl (by decide) ?_, by simp⟩
    simp only [List.forall_mem_cons]
    exact ⟨.plain rfl rfl, by simp⟩
  rw [hsame _ _ (.refl _) (.refl _) (fun q m r _ _ hroot hmissing => ?_) x hx
    (of_decide_eq_true hcalm) (of_decide_eq_true hcalm')]
  · exact of_decide_eq_true hrefused
  · -- neither schema accepts absence
    obtain ⟨cell, hcell, hr⟩ := Option.bind_eq_some_iff.mp hroot
    have hall := List.all_eq_true.mp hroots cell (List.mem_of_getElem? hcell)
    rw [hr, Option.all_some] at hall
    exact absurd hmissing (of_decide_eq_true hall)

end Schema

end Conformance
