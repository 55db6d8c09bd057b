import Conformance.Proofs.Descriptor.RoundTrip
import Conformance.Proofs.Pattern.Portable
import Conformance.Proofs.Session.Schema
import Conformance.Proofs.Validator.Absence
import Conformance.Proofs.Validator.Release

/-!
# Reading back what was written

The descriptor of a portable pattern is read as a schema that accepts the same values as the schema
of the pattern.

## Main statements

* `Schema.Ended.exists_bound` — an operation that makes a validator without delegates has a root in
  the end
* `Schema.descriptorOf_portable` — there is a descriptor of a portable pattern, and it tells of it
* `Schema.decode_descriptorOf` — the descriptor of a portable pattern comes back as a schema with the
  same verdicts
-/

namespace Conformance

/-- The root of a session is what a check sees. -/
theorem Store.root_env (host : Host) {s : Store} {n : Nat} {root : Handle}
    (h : s.root n = some root) : (s.env host).root n = some root.validator := by
  show (s.root n).map Handle.validator = some root.validator
  rw [h]
  rfl

namespace Schema

variable {host : Host} {s : Store} {made : Except Refusal Validator} {step : Step Handle}

/-- **What has no delegates has a root in the end**: the same tree, the references of no session made
those of the session. -/
theorem Ended.exists_bound (h : Ended host s made step) {v : Validator} (hmade : made = .ok v)
    (hv : v.release.SelfContained none) :
    ∃ bound : Handle, step.outcome = .ok bound ∧ step.store.root s.sessions.length = some bound ∧
      bound.validator.adopt none = v.adopt (some s.sessions.length) := by
  have hroot := h.root_eq.2 s.sessions.length
  rw [if_pos rfl] at hroot
  have hrebinds : ∀ label, ∃ r,
      Validator.rebindTo host.slot s.sessions.length depthLimit label v = .ok r ∧
        (r.result v).adopt none = v.adopt (some s.sessions.length) :=
    fun label => Validator.rebindTo_of_release hv 999 label
  cases h with
  | refused hrefused _ _ =>
    rw [hmade] at hrefused
    cases hrefused
  | @fault w label f hmade' hrebind _ _ =>
    rw [hmade] at hmade'
    cases hmade'
    obtain ⟨r, hr, -⟩ := hrebinds (some label)
    rw [hr] at hrebind
    cases hrebind
  | @bound w label r bound hmade' hrebind houtcome hvalidator _ =>
    rw [hmade] at hmade'
    cases hmade'
    obtain ⟨r', hr', htree⟩ := hrebinds (some label)
    rw [hr'] at hrebind
    cases hrebind
    rw [houtcome] at hroot
    refine ⟨bound, houtcome, hroot, ?_⟩
    rw [hvalidator, htree]

/-! ## Compiling -/

/-- **A pattern without delegates has a schema**: a root that is the validator of the pattern, with the
references of its own session. -/
theorem compile_selfContained (host : Host) {p : Pattern} {u : Validator} (hu : u.SelfContained none)
    (hcompiled : p.compile host.slot none false = .ok u) (s : Store) :
    ∃ bound : Handle, (compile host p s).outcome = .ok bound ∧
      (compile host p s).store.root s.sessions.length = some bound ∧
      bound.validator.adopt none = u.adopt (some s.sessions.length) := by
  obtain ⟨v, hv, hadopt⟩ := Pattern.compile_session hcompiled s.sessions.length
  have hrelease : v.release = u.release := by
    rw [← Validator.release_adopt, hadopt, Validator.release_adopt]
  have hwhole : v.release.SelfContained none := hrelease ▸ hu.release
  obtain ⟨bound, houtcome, hroot, htree⟩ := (ended_compile host s p).exists_bound hv hwhole
  exact ⟨bound, houtcome, hroot, htree.trans hadopt⟩

/-- **A portable pattern has a schema**: a root that is the validator of the pattern, with the references
of its own session. -/
theorem compile_portable (host : Host) {p : Pattern} {u : Validator} (hu : u.Portable)
    (hcompiled : p.compile host.slot none false = .ok u) (s : Store) :
    ∃ bound : Handle, (compile host p s).outcome = .ok bound ∧
      (compile host p s).store.root s.sessions.length = some bound ∧
      bound.validator.adopt none = u.adopt (some s.sessions.length) :=
  compile_selfContained host hu.selfContained hcompiled s

/-- **A schema of a portable pattern is portable** if it holds no reference to itself: it can stand in
other portable patterns. -/
theorem portable_of_compile {p : Pattern} (hp : p.Portable false) {s : Store} {v : Handle}
    (h : (compile host p s).outcome = .ok v)
    (hfree : ¬ v.validator.Holds host.slot (some s.sessions.length)) : v.validator.Portable := by
  have hmade : ∃ u, p.compile host.slot none false = .ok u ∧ u.Portable := hp.compile
  obtain ⟨u, hcompiled, hu⟩ := hmade
  obtain ⟨bound, hbound, -, htree⟩ := compile_portable host hu hcompiled s
  rw [h] at hbound
  cases hbound
  exact hu.of_adopt_eq htree hfree

/-! ## Writing -/

/-- **A descriptor was written of a validator**: it is the description of it, and tells of it as far as
absence was admitted, in some surroundings in which references of `own` lead back to the validator or
nowhere. -/
structure Wrote (host : Host) (u : Validator) (descriptor : Value) (env : Env) (own : Option Nat) :
    Prop where
  tells : ∃ fs, descriptor = host.settings.declareDialect (.record fs) ∧
    (u.describe env (fun k v => env.admitsAbsence k (v.adopt own)) (env.describeTo 999)).outcome =
      .ok (.record fs) ∧
    Descriptor.Tells (fun k v => env.admitsAbsence k (v.adopt own)) u fs
  stepTolerance : env.stepTolerance = host.settings.stepTolerance
  root : ∀ n r, own = some n → env.root n = some r → r.adopt none = u.adopt own

/-- The descriptor of a validator that is a portable one, with the references of some session. -/
theorem descriptor_portable (host : Host) {u : Validator} (hu : u.Portable) {own : Option Nat}
    {h : Handle} {s : Store} (htree : h.validator.adopt none = u.adopt own)
    (hroot : ∀ n r, own = some n → s.root n = some r → r.validator.adopt none = u.adopt own) :
    ∃ D, (descriptor host h s).outcome = .ok D ∧ Wrote host u D (s.env host) own := by
  have hsame : h.validator.adopt none = (u.adopt own).adopt none := by
    cases own with
    | none => rw [htree, Validator.adopt_adopt_none]
    | some n => rw [htree, Validator.adopt_adopt_some]
  have htold : ∃ fs, (u.describe (s.env host)
      (fun k v => (s.env host).admitsAbsence k (v.adopt own)) ((s.env host).describeTo 999)).outcome =
        .ok (.record fs) ∧
      Descriptor.Tells (fun k v => (s.env host).admitsAbsence k (v.adopt own)) u fs :=
    hu.describe_tells (fun k v => Env.exists_admitsAbsence _ k _)
      fun k v => by rw [Validator.adopt_adopt_none]
  obtain ⟨fs, hfs, htells⟩ := htold
  -- up to identities the validator is the portable one with its references taken over, and a
  -- descriptor names neither identities nor sessions
  have hdescribe : ((s.env host).describe h.validator).outcome = .ok (.record fs) := by
    rw [Env.describe, Env.describeTo_eq_of_adopt_eq hsame, show depthLimit = 999 + 1 from rfl,
      Env.describeTo, Validator.describe_adopt]
    exact hfs
  have hdone : (describe host h s).outcome = .ok (.record fs) := by
    have hwalk : (describe host h s).outcome =
        ((s.env host).describe h.validator).outcome.mapError .fault := rfl
    rw [hwalk, hdescribe]
    rfl
  refine ⟨host.settings.declareDialect (.record fs), ?_, ⟨fs, rfl, hfs, htells⟩, rfl, ?_⟩
  · rw [descriptor, Action.bind_of_ok hdone]
    rfl
  · intro n r hown hr
    obtain ⟨bound, hbound, rfl⟩ := Option.map_eq_some_iff.mp hr
    exact hroot n bound hown hbound

/-- **There is a descriptor of a portable pattern, and it tells of it.**  A validator is described as it
is, and any other pattern is compiled first. -/
theorem descriptorOf_portable (host : Host) {p : Pattern} {u : Validator} (hu : u.Portable)
    (hcompiled : p.compile host.slot none false = .ok u) (s : Store) :
    ∃ D env own, (descriptorOf host p s).outcome = .ok D ∧ Wrote host u D env own := by
  -- after compiling, references lead back to the root of the session; before, they lead nowhere
  have hbound : ∃ D env own, ((do descriptor host (← compile host p) : Action Value) s).outcome =
      .ok D ∧ Wrote host u D env own := by
    obtain ⟨bound, houtcome, hroot, htree⟩ := compile_portable host hu hcompiled s
    obtain ⟨D, hD, hwrote⟩ := descriptor_portable host hu htree (s := (compile host p s).store)
      (by
        intro n r hn hr
        cases hn
        rw [hroot] at hr
        cases hr
        exact htree)
    refine ⟨D, _, _, ?_, hwrote⟩
    rw [Action.bind_of_ok houtcome]
    exact hD
  cases p with
  | validator h =>
    cases hcompiled
    have hdescriptor : ∃ D, (descriptor host h s).outcome = .ok D ∧
        Wrote host h.validator D (s.env host) none := descriptor_portable host hu rfl nofun
    obtain ⟨D, hD, hwrote⟩ := hdescriptor
    exact ⟨D, _, _, hD, hwrote⟩
  | value v => exact hbound
  | seq form tag items => exact hbound
  | mapping form tag entries => exact hbound

/-- **What was admitted to be absent when a descriptor was written** is not refused where the references
belong to a session whose root is the validator. -/
theorem Wrote.not_ends_false {u root v : Validator} {D : Value} {env env' : Env} {own : Option Nat}
    {n : Nat} {k : Key} (hwrote : Wrote host u D env own) (hu : u.SelfContained none)
    (htolerance : env'.stepTolerance = host.settings.stepTolerance) (hroot : env'.root n = some root)
    (htree : root.adopt none = u.adopt (some n)) (hv : v.SelfContained none)
    (hadmits : (env.admitsAbsence k (v.adopt own)).outcome = .ok true) (depth : Nat) :
    ¬ (env'.check depth (v.adopt (some n)) .missing "").Ends false := by
  intro hends
  exact hu.missing_ne_false (htolerance.trans hwrote.stepTolerance.symm) hwrote.root hroot htree hv
    (Env.check_of_admitsAbsence hadmits) depth "" hends.1

/-! ## Reading back -/

/-- **What is read as some validator in each session** is read, with a session of its own, as a root
that is such a validator. -/
theorem decode_reads {R : Nat → Validator → Prop} {fs : List (String × Value)}
    (hreads : ∀ n, Descriptor.Reads n (.record fs) (R n))
    (hcontained : ∀ n w, R n w → w.SelfContained (some n)) (s : Store) :
    ∃ (bound : Handle) (w : Validator), (decode host (.record fs) s).outcome = .ok bound ∧
      (decode host (.record fs) s).store.root s.sessions.length = some bound ∧
      bound.validator.adopt none = w.adopt none ∧ R s.sessions.length w := by
  -- a whole descriptor is read to a depth that is enough for it
  obtain ⟨w, hw, hR⟩ :=
    hreads s.sessions.length ((Value.record fs).depth + 2) "#" (Nat.le_add_right _ 2)
  have hcontained := hcontained _ w hR
  have hdocument : Descriptor.ofDocument (.record fs) = .ok (.record fs) := rfl
  obtain ⟨bound, hbound, hroot, htree⟩ :=
    (ended_decode host s hdocument).exists_bound hw hcontained.release
  rw [Validator.adopt_of_selfContained hcontained] at htree
  exact ⟨bound, w, hbound, hroot, htree, hR⟩

/-- **What tells of a validator is read**, with a session of its own, as a root that mirrors it. -/
theorem decode_told {absent : Key → Validator → Walk Bool} {u : Validator}
    {fs : List (String × Value)} (htells : Descriptor.Tells absent u fs) (s : Store) :
    ∃ (bound : Handle) (w : Validator),
      (decode host (host.settings.declareDialect (.record fs)) s).outcome = .ok bound ∧
      (decode host (host.settings.declareDialect (.record fs)) s).store.root s.sessions.length =
        some bound ∧
      bound.validator.adopt none = w.adopt none ∧
      Validator.Mirrors absent s.sessions.length u w := by
  obtain ⟨fs', hfs', hreads⟩ := htells.declared host.settings
  rw [hfs']
  obtain ⟨bound, w, hbound, hroot, htree, -, hmirrors⟩ := decode_reads hreads (fun _ _ h => h.1) s
  exact ⟨bound, w, hbound, hroot, htree, hmirrors⟩

/-- What was written is read as a root that mirrors the validator it was written of. -/
theorem decode_wrote {u : Validator} {D : Value} {env : Env} {own : Option Nat}
    (hwrote : Wrote host u D env own) (s : Store) :
    ∃ (bound : Handle) (w : Validator), (decode host D s).outcome = .ok bound ∧
      (decode host D s).store.root s.sessions.length = some bound ∧
      bound.validator.adopt none = w.adopt none ∧
      Validator.Mirrors (fun k v => env.admitsAbsence k (v.adopt own)) s.sessions.length u w := by
  obtain ⟨fs, rfl, -, htells⟩ := hwrote.tells
  exact decode_told htells s

end Schema

end Conformance
