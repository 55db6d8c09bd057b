import Conformance.Proofs.Validator.Conforming

/-!
# The order of keys

The rule of object patterns can be told without going through the keys or the properties in any order:
each property conforms to all the keys about it, a property that no key is about conforms to the
catch-all, and the keys count the properties they are about.  So whether a mapping conforms depends
neither on the order of the keys nor on that of the properties.

## Main Definitions

* `OneCatchAll` — an object pattern with one catch-all key at most
* `Satisfies` — the rule of object patterns without an order

## Main statements

* `conforms_iff_satisfies` — the rule that is checked says the same
* `Satisfies.perm` — keys and properties may stand in any order
* `Env.takes_object_iff_satisfies` — an object pattern accepts the mappings that satisfy its keys
-/

namespace Conformance

variable {V : Type} {accepts : V → Value → Prop} {ps : List (Property V)} {es : List (Value × Value)}

/-- An object pattern with one catch-all key at most. -/
def OneCatchAll (ps : List (Property V)) : Prop :=
  ∀ p ∈ ps, ∀ q ∈ ps, p.key.isCatchAll = true → q.key.isCatchAll = true → p = q

/-- **The rule of object patterns without an order.**  `accepts` tells whether a value conforms to what
stands under a key.  Properties are counted, not names: two properties may have the same name. -/
structure Satisfies (accepts : V → Value → Prop) (ps : List (Property V))
    (es : List (Value × Value)) : Prop where
  /-- A property conforms to what stands under each key that matches its name. -/
  claimed : ∀ e ∈ es, ∀ p ∈ ps, p.key.isCatchAll = false → p.key.claims e.1.nameText = true →
    accepts p.rule e.2
  /-- A property whose name no other key matches conforms to what stands under the catch-all key. -/
  unclaimed : ∀ e ∈ es,
    (∀ q ∈ ps, q.key.isCatchAll = false → q.key.claims e.1.nameText = false) →
    ∀ p ∈ ps, p.key.isCatchAll = true → accepts p.rule e.2
  optional : ∀ p ∈ ps, p.key.quantifier = .optional →
    es.countP (fun e => p.key.claims e.1.nameText) ≤ 1
  atLeastOne : ∀ p ∈ ps, p.key.quantifier = .atLeastOne →
    1 ≤ es.countP fun e => p.key.claims e.1.nameText
  /-- Where no property has a name that is literal and not marked, absence conforms. -/
  absent : ∀ p ∈ ps, p.key.quantifier = .exact → p.key.isLiteral = true →
    (∀ e ∈ es, p.key.claims e.1.nameText = false) → accepts p.rule .missing

/-- The number of properties that a key is about. -/
theorem Key.count_propertyNames (k : Key) (es : List (Value × Value)) :
    k.count (propertyNames es) = es.countP fun e => k.claims e.1.nameText :=
  List.countP_map

/-- A key is about no property when it matches the name of none. -/
theorem Key.count_eq_zero_iff {k : Key} :
    k.count (propertyNames es) = 0 ↔ ∀ e ∈ es, k.claims e.1.nameText = false := by
  rw [k.count_propertyNames, List.countP_eq_zero]
  simp only [Bool.not_eq_true]

/-- Only a sign that stands alone is split as the catch-all key. -/
theorem Key.written_of_split_catchAll {written : String} {source : Option String}
    (h : Key.split written = .ok (.catchAll, source)) : written = "*" := by
  by_contra hne
  rw [split, if_neg hne] at h
  split at h
  · split at h
    · next sign hsign =>
      split at h <;> cases h
      unfold Quantifier.ofSign? at hsign
      split at hsign <;> cases hsign
    · cases h
  · cases h

/-- There is one way to write the catch-all key. -/
theorem Key.written_of_isCatchAll {k : Key} {written : String} (h : Key.ofWritten written = .ok k)
    (hkind : k.isCatchAll = true) : written = "*" := by
  rw [ofWritten] at h
  split at h
  · next quantifier source hsplit =>
    have hquantifier : quantifier = k.quantifier := by
      unfold ofParts at h
      split at h
      · cases h
        rfl
      · split at h <;> cases h
        rfl
    have hcatchAll : k.quantifier = .catchAll := by simpa [isCatchAll] using hkind
    rw [hquantifier, hcatchAll] at hsplit
    exact written_of_split_catchAll hsplit
  · cases h

/-- Another order of the keys leaves one catch-all key. -/
theorem OneCatchAll.perm {qs : List (Property V)} (h : OneCatchAll ps) (hperm : ps.Perm qs) :
    OneCatchAll qs :=
  fun p hp q hq => h p (hperm.mem_iff.mpr hp) q (hperm.mem_iff.mpr hq)

/-- The catch-all key is the first one if there is no other. -/
theorem OneCatchAll.find?_eq (h : OneCatchAll ps) {p : Property V} (hp : p ∈ ps)
    (hkind : p.key.isCatchAll = true) : ps.find? (fun q => q.key.isCatchAll) = some p := by
  cases hfind : ps.find? fun q => q.key.isCatchAll with
  | none => exact absurd hkind (List.find?_eq_none.mp hfind p hp)
  | some q =>
    have hq := List.find?_some hfind
    rw [h p hp q (List.mem_of_find?_eq_some hfind) hkind hq]

/-- **The rule that is checked says the same as the rule without an order**, if there is one catch-all
key at most. -/
theorem conforms_iff_satisfies (h : OneCatchAll ps) :
    Conforms accepts ps es ↔ Satisfies accepts ps es := by
  constructor
  · intro hconforms
    exact {
      claimed := fun e he p hp hkind hclaims => hconforms.asked p e.2 (.claimed he hp hkind hclaims)
      unclaimed := fun e he hnone p hp hkind =>
        hconforms.asked p e.2 (.unclaimed he hnone (h.find?_eq hp hkind))
      optional := fun p hp hoptional => p.key.count_propertyNames es ▸ hconforms.optional p hp hoptional
      atLeastOne := fun p hp hatLeast =>
        p.key.count_propertyNames es ▸ hconforms.atLeastOne p hp hatLeast
      absent := fun p hp hexact hliteral hnone =>
        hconforms.asked p .missing (.absent hp hexact hliteral (Key.count_eq_zero_iff.mpr hnone)) }
  · intro hsatisfies
    refine ⟨fun p y hasked => ?_, fun p hp hoptional => ?_, fun p hp hatLeast => ?_⟩
    · cases hasked with
      | claimed he hp hkind hclaims => exact hsatisfies.claimed _ he p hp hkind hclaims
      | unclaimed he hnone hfind =>
        have hkind := List.find?_some hfind
        exact hsatisfies.unclaimed _ he hnone p (List.mem_of_find?_eq_some hfind) hkind
      | absent hp hexact hliteral hzero =>
        exact hsatisfies.absent p hp hexact hliteral (Key.count_eq_zero_iff.mp hzero)
    · exact (p.key.count_propertyNames es).symm ▸ hsatisfies.optional p hp hoptional
    · exact (p.key.count_propertyNames es).symm ▸ hsatisfies.atLeastOne p hp hatLeast

/-- **Keys and properties may stand in any order.** -/
theorem Satisfies.perm {qs : List (Property V)} {es' : List (Value × Value)}
    (h : Satisfies accepts ps es) (hps : ps.Perm qs) (hes : es.Perm es') : Satisfies accepts qs es' where
  claimed e he p hp := h.claimed e (hes.mem_iff.mpr he) p (hps.mem_iff.mpr hp)
  unclaimed e he hnone p hp :=
    h.unclaimed e (hes.mem_iff.mpr he) (fun q hq => hnone q (hps.mem_iff.mp hq)) p
      (hps.mem_iff.mpr hp)
  optional p hp hoptional := by
    rw [← hes.countP_eq]
    exact h.optional p (hps.mem_iff.mpr hp) hoptional
  atLeastOne p hp hatLeast := by
    rw [← hes.countP_eq]
    exact h.atLeastOne p (hps.mem_iff.mpr hp) hatLeast
  absent p hp hexact hliteral hnone :=
    h.absent p (hps.mem_iff.mpr hp) hexact hliteral fun e he => hnone e (hes.mem_iff.mp he)

/-- What conforms to keys conforms to them in another order. -/
theorem Conforms.perm {qs : List (Property V)} (h : Conforms accepts ps es) (hone : OneCatchAll ps)
    (hperm : ps.Perm qs) : Conforms accepts qs es :=
  (conforms_iff_satisfies (hone.perm hperm)).mpr
    (((conforms_iff_satisfies hone).mp h).perm hperm (.refl es))

/-- What is no mapping is accepted by no object pattern. -/
theorem Env.exists_of_takes_object {env : Env} {ps : List (Property Validator)} {x : Value}
    (h : env.Takes (.object ps) x) : ∃ form tag es, x = .mapping form tag es := by
  cases x with
  | mapping form tag es => exact ⟨form, tag, es, rfl⟩
  | _ => cases h

/-- **An object pattern accepts the mappings that satisfy its keys**, and nothing else. -/
theorem Env.takes_object_iff_satisfies {env : Env} {ps : List (Property Validator)}
    (hone : OneCatchAll ps) (x : Value) :
    env.Takes (.object ps) x ↔
      ∃ form tag es, x = .mapping form tag es ∧ Satisfies env.Takes ps es := by
  constructor
  · intro h
    obtain ⟨form, tag, es, rfl⟩ := exists_of_takes_object h
    exact ⟨form, tag, es, rfl, (conforms_iff_satisfies hone).mp (takes_object_iff.mp h)⟩
  · rintro ⟨form, tag, es, rfl, hsatisfies⟩
    exact takes_object_iff.mpr ((conforms_iff_satisfies hone).mpr hsatisfies)

end Conformance
