import Conformance.Proofs.Descriptor.SingleName
import Conformance.Proofs.Pattern.Structure
import Conformance.Proofs.Session.RoundTrip

/-!
# A name that may be absent, read back

A mapping with a single name is compiled to an object pattern that takes any number of properties of the
name.  If absence is accepted, the name is not listed as required in the descriptor, and is read back as
an optional one, of which there is one at most.

## Main statements

* `Schema.decode_descriptorOf_of_name` — what is read back accepts what the schema accepts, as long as no
  two properties have the name
-/

namespace Conformance

open Descriptor (IsNamed)

/-- A literal name is read as a key for the properties of that name. -/
theorem Key.isNamed_of_ofWritten {name : String} (hname : isLiteralName name = true) {k : Key}
    (h : Key.ofWritten name = .ok k) : IsNamed true name k ∧ k.sourceText = name := by
  have hr := Regex.ofSource_literal hname
  rw [Key.ofWritten_literal hname hr] at h
  cases h
  exact ⟨⟨rfl, Regex.matchesAll?_literal hname hr, fun _ => ⟨rfl, hname⟩, nofun⟩, rfl⟩

/-- A reference to an object pattern does not accept absence, nor does one that leads nowhere. -/
theorem Env.check_missing_selfRef {env : Env} {own : Option Nat}
    (hroot : ∀ n r, own = some n → env.root n = some r → ∃ ps, r = .object ps) (depth : Nat)
    (path : String) :
    (Validator.check env (env.check (depth + 1)) (.selfRef own) .missing path).outcome = .ok false := by
  rw [Validator.check]
  cases hbound : own.bind env.root with
  | none => rfl
  | some r =>
    obtain ⟨n, rfl, hr⟩ := Option.bind_eq_some_iff.mp hbound
    obtain ⟨ps, rfl⟩ := hroot n r rfl hr
    rfl

/-- **Whether a portable validator accepts absence** is the same in all surroundings in which its
references lead to object patterns, or nowhere. -/
theorem Validator.Portable.takes_missing_iff {env env' : Env} {own own' : Option Nat} {v : Validator}
    (hv : v.Portable) (htolerance : env'.stepTolerance = env.stepTolerance)
    (hroot : ∀ n r, own = some n → env.root n = some r → ∃ ps, r = .object ps)
    (hroot' : ∀ n r, own' = some n → env'.root n = some r → ∃ ps, r = .object ps) :
    env.Takes (v.adopt own) .missing ↔ env'.Takes (v.adopt own') .missing := by
  rw [Env.takes_iff _ _ "", Env.takes_iff _ _ "", show depthLimit = 998 + 1 + 1 from rfl, Env.check,
    Env.check, hv.check_missing_eq htolerance (Env.check_missing_selfRef hroot 998 "")
      (Env.check_missing_selfRef hroot' 998 "")]

/-- What is an object pattern of one key up to identities of its parts is one, with the same key. -/
theorem Validator.exists_of_adopt_object {v : Validator} {own : Option Nat} {q : Property Validator}
    (h : v.adopt none = (Validator.object [q]).adopt own) :
    ∃ p, v = .object [p] ∧ p.key = q.key ∧ p.rule.adopt none = q.rule.adopt own := by
  rw [adopt, adoptProperties_eq_map] at h
  cases v with
  | object ps =>
    rw [adopt, adoptProperties_eq_map] at h
    obtain ⟨p, rfl, hp⟩ := List.map_eq_singleton_iff.mp (Validator.object.inj h)
    have hkey := congrArg Property.key hp
    have hrule := congrArg Property.rule hp
    exact ⟨p, rfl, hkey, hrule⟩
  | selfRef own => cases own <;> cases h
  | _ => cases h

/-- **Absence that is accepted under the only key of an object pattern** is accepted there wherever
references lead back to the object pattern, or nowhere. -/
theorem Validator.Portable.takes_missing_of_single {env env' : Env} {own : Option Nat}
    {q : Property Validator} (hq : q.rule.Portable) (htolerance : env'.stepTolerance = env.stepTolerance)
    (hleads : ∀ n r, own = some n → env'.root n = some r → r.adopt none = (Validator.object [q]).adopt own)
    (h : env.Takes q.rule .missing) : env'.Takes (q.rule.adopt own) .missing := by
  have hobject : ∀ n r, own = some n → env'.root n = some r → ∃ ps, r = .object ps := by
    intro n r hn hr
    obtain ⟨p, rfl, -, -⟩ := exists_of_adopt_object (hleads n r hn hr)
    exact ⟨[p], rfl⟩
  have hiff : env.Takes (q.rule.adopt none) .missing ↔ env'.Takes (q.rule.adopt own) .missing :=
    hq.takes_missing_iff htolerance nofun hobject
  exact hiff.mp ((Env.takes_congr (adopt_adopt_none none _) .missing).mpr h)

namespace Pattern

variable {host : Host} {name : String} {p : Pattern} {u : Validator} {form : MapForm} {tag : Nat}

/-- A mapping from a literal name to a portable pattern is portable. -/
theorem portable_single (hname : isLiteralName name = true) (hne : name ≠ "") (hp : p.Portable false) :
    (Pattern.mapping form tag [(.text name, p)]).Portable false := by
  have hkey : ∃ k, k.written = name ∧ Key.ofWritten name = .ok k :=
    ⟨_, rfl, Key.ofWritten_literal hname (Regex.ofSource_literal hname)⟩
  obtain ⟨k, rfl, hk⟩ := hkey
  refine @Portable.mapping false form tag _ [k] rfl ?_ (List.pairwise_singleton _ _) ?_
  · exact List.forall_mem_singleton.mpr ⟨hk, hne⟩
  · exact List.forall_mem_singleton.mpr hp

end Pattern

namespace Schema

variable {host : Host} {name : String}

/-- **What an object pattern of a name that may be absent is read back as**: it mirrors the pattern, has a
key for one property of the name at most, and what stands under the key mirrors what stood there. -/
structure ComesBackOptional (absent : Key → Validator → Walk Bool) (name : String)
    (q : Property Validator) (n : Nat) (w : Validator) : Prop where
  selfContained : w.SelfContained (some n)
  mirrors : Validator.Mirrors absent n (.object [q]) w
  single : ∃ q', w = .object [q'] ∧ IsNamed false name q'.key ∧ Validator.Mirrors absent n q.rule q'.rule

/-- A root that is what was read back, up to identities, has the key of an optional name. -/
theorem ComesBackOptional.exists_root {absent : Key → Validator → Walk Bool} {n : Nat}
    {q : Property Validator} {w root : Validator} (hback : ComesBackOptional absent name q n w)
    (htree : root.adopt none = w.adopt none) :
    ∃ q', root = .object [q'] ∧ IsNamed false name q'.key := by
  obtain ⟨q'', rfl, hkey, -⟩ := hback.single
  obtain ⟨q', rfl, hsame, -⟩ := Validator.exists_of_adopt_object htree
  exact ⟨q', rfl, hsame ▸ hkey⟩

/-- **The descriptor of an object pattern of a name that may be absent** is read back as an object pattern
of an optional name. -/
theorem Wrote.comesBackOptional {q : Property Validator} {D : Value} {env : Env} {own : Option Nat}
    (hwrote : Wrote host (.object [q]) D env own) (hname : isLiteralName name = true) (hne : name ≠ "")
    (hread : Key.ofWritten name = .ok q.key) (hrule : q.rule.Portable)
    (habsent : env.Takes (q.rule.adopt own) .missing) :
    ∃ fs, D = .record fs ∧ ∀ n, Descriptor.Reads n (.record fs)
      (ComesBackOptional (fun k v => env.admitsAbsence k (v.adopt own)) name q n) := by
  obtain ⟨hkey, hsource⟩ := Key.isNamed_of_ofWritten hname hread
  obtain ⟨hexact, hliteral⟩ := hkey.required rfl
  obtain ⟨fs, rfl, hdescribed, htells⟩ := hwrote.tells
  have hanswer : ∀ k (v : Validator), ∃ b, (env.admitsAbsence k (v.adopt own)).outcome = .ok b :=
    fun k v => env.exists_admitsAbsence k _
  -- what stands under the key is written as a node that tells of it
  obtain ⟨node, hnode, htold⟩ := @Validator.Portable.describe_tells env
    (fun k v => env.admitsAbsence k (v.adopt own)) (env.describeTo 999) q.rule hrule hanswer
    fun k v => by rw [Validator.adopt_adopt_none]
  -- and the name is not required
  have hrequired : ¬ (q.key.asksAbsence = true ∧
      (env.admitsAbsence q.key (q.rule.adopt own)).outcome = .ok false) := by
    rintro ⟨-, hrefused⟩
    have hadmitted : (env.admitsAbsence q.key (q.rule.adopt own)).outcome = .ok true :=
      Walk.guarded_eq_ok_true_iff.mpr ((Env.takes_iff _ _ "").mp habsent)
    rw [hrefused] at hadmitted
    cases hadmitted
  have hone : Property.DescribedBy env (fun k v => env.admitsAbsence k (v.adopt own))
      (env.describeTo 999) q ⟨q.key, .record node, false⟩ := ⟨rfl, hnode, by simpa using hrequired⟩
  have hproperties := (Validator.describeProperties_eq_ok_iff hanswer).mpr (.cons hone .nil)
  have hfields : Value.record fs =
      .record [("type", .text "object"), ("properties", .record [(name, .record node)])] := by
    rw [Validator.describe, Walk.outcome_bind_of_ok hproperties, Walk.outcome_pure,
      Descriptor.describeObject_single hexact hliteral, hsource] at hdescribed
    exact (Except.ok.inj hdescribed).symm
  have hreads : Descriptor.ReadsAs
      (ComesBackOptional (fun k v => env.admitsAbsence k (v.adopt own)) name q)
      [("type", .text "object"), ("properties", .record [(name, .record node)])] := by
    refine ⟨by simp, by simp, fun n => ?_⟩
    have hwhole := htells.reads n
    rw [hfields] at hwhole
    refine (hwhole.and (Descriptor.reads_single hname hne (htold.reads n))).mono ?_
    rintro w ⟨⟨hcontained, hmirrors⟩, q', hq', hkey', -, hrule'⟩
    exact ⟨hcontained, hmirrors, q', hq', hkey', hrule'⟩
  rw [hfields]
  exact hreads.declared host.settings

/-- **An object pattern of a name that may be absent** accepts the mappings of which all properties of the
name are accepted. -/
theorem takes_of_admitted {env env' : Env} {n : Nat} {q q₀ : Property Validator}
    (hroot : env.root n = some (.object [q]))
    (htree : (Validator.object [q]).adopt none = (Validator.object [q₀]).adopt (some n))
    (hkey : IsNamed true name q₀.key) (hrule : q₀.rule.Portable)
    (htolerance : env.stepTolerance = env'.stepTolerance) (habsent : env'.Takes q₀.rule .missing)
    {form : MapForm} {tag : Nat} {es : List (Value × Value)} :
    env.Takes (.object [q]) (.mapping form tag es) ↔
      ∀ e ∈ es, e.1.nameText = name → env.Takes q.rule e.2 := by
  obtain ⟨p, hp, hsame, hadopt⟩ := Validator.exists_of_adopt_object htree
  cases hp
  have hleads : ∀ m r, some n = some m → env.root m = some r →
      r.adopt none = (Validator.object [q₀]).adopt (some n) := by
    intro m r hm hr
    cases hm
    cases hroot.symm.trans hr
    exact htree
  have hmissing : env.Takes q.rule .missing := by
    have hadopted : q.rule.adopt none = (q₀.rule.adopt (some n)).adopt none := by
      rw [hadopt, Validator.adopt_adopt_some]
    rw [Env.takes_congr hadopted]
    exact hrule.takes_missing_of_single htolerance hleads habsent
  rw [Env.takes_single_iff (hsame ▸ hkey)]
  simp [hmissing]

/-- **What stands under the key of both schemas** is checked alike. -/
theorem ComesBackOptional.agree {absent : Key → Validator → Walk Bool} {n n' : Nat}
    {q q' q₀ : Property Validator} {w : Validator} {env env' : Env}
    (hback : ComesBackOptional absent name q₀ n' w)
    (htolerance : env'.stepTolerance = env.stepTolerance) (hroot : env.root n = some (.object [q]))
    (htree : (Validator.object [q]).adopt none = (Validator.object [q₀]).adopt (some n))
    (hroot' : env'.root n' = some (.object [q']))
    (htree' : (Validator.object [q']).adopt none = w.adopt none)
    (habsent : ∀ k u, u.SelfContained none → (absent k u).outcome = .ok true →
      ∀ depth, ¬ (env.check depth (u.adopt (some n)) .missing "").Ends false) :
    Check.Agree (env.check depthLimit q.rule) (env'.check depthLimit q'.rule) := by
  obtain ⟨p, hp, -, hadopt⟩ := Validator.exists_of_adopt_object htree
  cases hp
  obtain ⟨q'', rfl, -, hmirrors⟩ := hback.single
  obtain ⟨p', hp', -, hadopt'⟩ := Validator.exists_of_adopt_object htree'
  cases hp'
  have hadopted : q.rule.adopt none = (q₀.rule.adopt (some n)).adopt none := by
    rw [hadopt, Validator.adopt_adopt_some]
  rw [Env.check_eq_of_adopt_eq hadopted, Env.check_eq_of_adopt_eq hadopt']
  exact hmirrors.part_agree hback.mirrors htolerance hroot htree hroot' htree' habsent 999

end Schema

end Conformance
