import Conformance.Proofs.Key
import Conformance.Proofs.Validator.Structure
import Conformance.Proofs.Value.Equality
import Conformance.Proofs.Walk.Agreement

/-!
# Checks that agree

Two checks agree when they end with the same verdict on every value in whose mappings no two properties
have one name.  Checks put together from agreeing checks agree, and for object patterns neither the
order of the keys matters nor, within limits, how often a property may be there.

## Main Definitions

* `Value.NamesDiffer` — a value in whose mappings no two properties have one name
* `Check.Agree` — two checks that agree on all such values
* `Property.Paired` — the keys of two object patterns, related in pairs
* `Property.Agree` — two keys with checks under them that mean the same for an object pattern

## Main statements

* `Check.Agree.anyOf`, `Check.Agree.arrayOf`, `Check.agree_object` — agreement of checks that are put
  together
-/

namespace Conformance

/-- **A value in whose mappings no two properties have one name**, at every depth of sequences and of the
values of mappings. -/
inductive Value.NamesDiffer : Value → Prop where
  | plain {v : Value} : v.isSequence = false → v.isMapping = false → NamesDiffer v
  | seq {form : SeqForm} {tag : Nat} {items : List Value} :
    (∀ v ∈ items, NamesDiffer v) → NamesDiffer (.seq form tag items)
  | mapping {form : MapForm} {tag : Nat} {entries : List (Value × Value)} :
    (propertyNames entries).Nodup → (∀ e ∈ entries, NamesDiffer e.2) →
    NamesDiffer (.mapping form tag entries)

/-- Where the keys are texts, these are the names of the properties. -/
theorem propertyNames_of_texts {es : List (Value × Value)} {names : List String}
    (h : es.map Prod.fst = names.map .text) : propertyNames es = names := by
  have hmap : propertyNames es = (es.map Prod.fst).map Value.nameText := by
    rw [propertyNames, List.map_map]
    rfl
  rw [hmap, h, List.map_map]
  exact List.map_id names

/-- Where the keys are texts, no two properties have one name. -/
theorem Value.TextKeyed.namesDiffer {x : Value} (h : x.TextKeyed) : x.NamesDiffer := by
  induction h with
  | plain hseq hmapping => exact .plain hseq hmapping
  | seq _ ih => exact .seq ih
  | mapping hkeys hnodup _ ih =>
    refine .mapping ?_ ih
    rwa [propertyNames_of_texts hkeys]

/-- Absence is a value without mappings. -/
theorem Value.textKeyed_missing : Value.missing.TextKeyed := .plain rfl rfl

/-- **Two checks agree** when they end with the same verdict on every value in whose mappings no two
properties have one name, and on absence. -/
def Check.Agree (c c' : Check) : Prop :=
  ∀ x : Value, x.NamesDiffer → ∀ path, (c x path).Agree (c' x path)

/-! ## Choices and arrays -/

namespace Check.Agree

/-- Choices between agreeing checks agree. -/
theorem anyOf {cs cs' : List Check} (h : List.Forall₂ Check.Agree cs cs') :
    Check.Agree (Check.anyOf cs) (Check.anyOf cs') := by
  intro x hx path
  refine .any (fun c hc => ?_) (fun c' hc' => ?_)
  · obtain ⟨c', hc', hagree⟩ := h.exists_right hc
    exact ⟨c', hc', hagree x hx path⟩
  · obtain ⟨c, hc, hagree⟩ := h.exists_left hc'
    exact ⟨c, hc, hagree x hx path⟩

/-- Arrays of agreeing checks agree. -/
theorem arrayOf {c c' : Check} (h : Check.Agree c c') (least : Nat) (most : Option Nat) :
    Check.Agree (Check.arrayOf least most c) (Check.arrayOf least most c') := by
  intro x hx path
  cases hx with
  | @seq form tag items hitems =>
    unfold Check.arrayOf
    dsimp only
    split
    · refine .all_same fun e he => ?_
      obtain ⟨item, i⟩ := e
      have hmem : item ∈ items := List.fst_mem_of_mem_zipIdx he
      exact h item (hitems item hmem) _
    · exact Walk.agree_of_outcome_eq rfl
  | mapping _ _ => exact Walk.agree_of_outcome_eq rfl
  | plain hseq _ =>
    cases x with
    | seq _ _ _ => cases hseq
    | _ => exact Walk.agree_of_outcome_eq rfl

end Check.Agree

/-! ## Keys of two object patterns -/

namespace Check

/-- What it means that a key is about a property. -/
theorem mem_claimants_iff {V : Type} {ps : List (Property V)} {name : String} {p : Property V} :
    p ∈ claimants ps name ↔
      (p ∈ specific ps ∧ p.key.claims name = true) ∨
        ((∀ q ∈ specific ps, q.key.claims name = false) ∧
          ps.find? (fun q => q.key.isCatchAll) = some p) := by
  unfold claimants
  cases hclaiming : (specific ps).filter fun p => p.key.claims name with
  | nil =>
    have hnone : ∀ q ∈ specific ps, q.key.claims name = false := by simpa using hclaiming
    simp only [Option.mem_toList]
    constructor
    · exact fun h => .inr ⟨hnone, h⟩
    · rintro (⟨hp, hclaims⟩ | ⟨-, h⟩)
      · rw [hnone p hp] at hclaims
        cases hclaims
      · exact h
  | cons q rest =>
    simp only [← hclaiming, List.mem_filter]
    constructor
    · exact .inl
    · rintro (h | ⟨hnone, -⟩)
      · exact h
      · have hq : q ∈ (specific ps).filter fun p => p.key.claims name := by
          rw [hclaiming]
          exact List.mem_cons_self
        obtain ⟨hspecific, hclaims⟩ := List.mem_filter.mp hq
        rw [hnone q hspecific] at hclaims
        cases hclaims

end Check

/-- **The keys of two object patterns are paired**: each has one in the other pattern to which it is
related, and related keys say the same. -/
structure Property.Paired {V W : Type} (R : Property V → Property W → Prop) (ps : List (Property V))
    (qs : List (Property W)) : Prop where
  forth : ∀ p ∈ ps, ∃ q ∈ qs, R p q
  back : ∀ q ∈ qs, ∃ p ∈ ps, R p q
  key : ∀ p q, R p q → ∃ admitted, Key.SaysSame admitted p.key q.key

namespace Property.Paired

open Check (mem_claimants_iff)

variable {V W : Type} {R : Property V → Property W → Prop} {ps : List (Property V)}
  {qs : List (Property W)} {p : Property V} {q : Property W} (h : Property.Paired R ps qs)
include h

/-- Related keys are about the same properties, and both are the catch-all or neither is. -/
theorem claims (hR : R p q) : q.key.claims = p.key.claims ∧ q.key.isCatchAll = p.key.isCatchAll := by
  obtain ⟨admitted, hkey⟩ := h.key p q hR
  exact ⟨hkey.claims, hkey.isCatchAll⟩

/-- Keys other than the catch-all are paired. -/
theorem specific_forth (hp : p ∈ specific ps) : ∃ q ∈ specific qs, R p q := by
  obtain ⟨hmem, hkind⟩ := List.mem_filter.mp hp
  obtain ⟨q, hq, hR⟩ := h.forth p hmem
  exact ⟨q, List.mem_filter.mpr ⟨hq, by rwa [(h.claims hR).2]⟩, hR⟩

theorem specific_back (hq : q ∈ specific qs) : ∃ p ∈ specific ps, R p q := by
  obtain ⟨hmem, hkind⟩ := List.mem_filter.mp hq
  obtain ⟨p, hp, hR⟩ := h.back q hmem
  exact ⟨p, List.mem_filter.mpr ⟨hp, by rwa [← (h.claims hR).2]⟩, hR⟩

/-- No specific key of one list is about a property if none of the other is. -/
theorem claims_iff (name : String) :
    (∀ p ∈ specific ps, p.key.claims name = false) ↔ ∀ q ∈ specific qs, q.key.claims name = false := by
  constructor
  · intro hnone q hq
    obtain ⟨p, hp, hR⟩ := h.specific_back hq
    rw [(h.claims hR).1]
    exact hnone p hp
  · intro hnone p hp
    obtain ⟨q, hq, hR⟩ := h.specific_forth hp
    rw [← (h.claims hR).1]
    exact hnone q hq

/-- **The keys that are about a property are paired**, where the first list has one catch-all key at
most. -/
theorem claimants_forth
    (hunique : ∀ p ∈ ps, ∀ p' ∈ ps, p.key.isCatchAll = true → p'.key.isCatchAll = true → p = p')
    {name : String} (hp : p ∈ claimants ps name) : ∃ q ∈ claimants qs name, R p q := by
  rcases mem_claimants_iff.mp hp with ⟨hspecific, hclaims⟩ | ⟨hnone, hfind⟩
  · obtain ⟨q, hq, hR⟩ := h.specific_forth hspecific
    exact ⟨q, mem_claimants_iff.mpr (.inl ⟨hq, by rwa [(h.claims hR).1]⟩), hR⟩
  · have hkind := List.find?_some hfind
    have hmem := List.mem_of_find?_eq_some hfind
    obtain ⟨q, hq, hR⟩ := h.forth p hmem
    have hsome : (qs.find? fun q => q.key.isCatchAll).isSome = true :=
      List.find?_isSome.mpr ⟨q, hq, by rw [(h.claims hR).2]; exact hkind⟩
    obtain ⟨q', hfind'⟩ := Option.isSome_iff_exists.mp hsome
    -- the catch-all key that is found is related to some catch-all key, and there is one only
    obtain ⟨p', hp', hR'⟩ := h.back q' (List.mem_of_find?_eq_some hfind')
    have hkind' := List.find?_some hfind'
    rw [(h.claims hR').2] at hkind'
    cases hunique p hmem p' hp' hkind hkind'
    exact ⟨q', mem_claimants_iff.mpr (.inr ⟨(h.claims_iff name).mp hnone, hfind'⟩), hR'⟩

theorem claimants_back
    (hunique : ∀ p ∈ ps, ∀ p' ∈ ps, p.key.isCatchAll = true → p'.key.isCatchAll = true → p = p')
    {name : String} (hq : q ∈ claimants qs name) : ∃ p ∈ claimants ps name, R p q := by
  rcases mem_claimants_iff.mp hq with ⟨hspecific, hclaims⟩ | ⟨hnone, hfind⟩
  · obtain ⟨p, hp, hR⟩ := h.specific_back hspecific
    exact ⟨p, mem_claimants_iff.mpr (.inl ⟨hp, by rwa [← (h.claims hR).1]⟩), hR⟩
  · have hkind := List.find?_some hfind
    obtain ⟨p, hp, hR⟩ := h.back q (List.mem_of_find?_eq_some hfind)
    have hkind' : p.key.isCatchAll = true := by
      rw [← (h.claims hR).2]
      exact hkind
    have hsome : (ps.find? fun p => p.key.isCatchAll).isSome = true :=
      List.find?_isSome.mpr ⟨p, hp, hkind'⟩
    obtain ⟨p', hfind'⟩ := Option.isSome_iff_exists.mp hsome
    have hkind'' := List.find?_some hfind'
    cases hunique p hp p' (List.mem_of_find?_eq_some hfind') hkind' hkind''
    exact ⟨p, mem_claimants_iff.mpr (.inr ⟨(h.claims_iff name).mpr hnone, hfind'⟩), hR⟩

end Property.Paired

/-! ## Object patterns -/

/-- **Two keys with checks under them mean the same** for an object pattern: the keys say the same, given
that the absence of what stands under the first one is never refused, and the checks agree. -/
structure Property.Agree (p q : Property Check) : Prop where
  key : Key.SaysSame (¬ (p.rule .missing "").Ends false) p.key q.key
  rule : Check.Agree p.rule q.rule

namespace Check

variable {p q : Property Check} {ps qs : List (Property Check)}

/-- **Keys that mean the same judge the number of properties alike.** -/
theorem agree_count (h : p.Agree q) (hsingle : p.key.IsSingle) {names : List String}
    (hnodup : names.Nodup) : (count names p).Agree (count names q) := by
  have hcount : q.key.count names = p.key.count names := by
    rw [Key.count, Key.count, h.key.claims]
  unfold count
  rw [hcount]
  cases h.key with
  | same _ heq =>
    -- the judgement is the same, and absence is checked alike
    have hjudge : q.key.judge (p.key.count names) = p.key.judge (p.key.count names) := by
      unfold Key.judge
      rw [heq, h.key.sourceText, h.key.isLiteral]
    rw [hjudge]
    cases p.key.judge (p.key.count names) with
    | allowed => exact Walk.agree_of_outcome_eq rfl
    | violated _ => exact Walk.agree_of_outcome_eq rfl
    | absent =>
      exact (h.rule .missing Value.textKeyed_missing.namesDiffer "").guarded (fun _ => rfl) fun _ => rfl
  | anyNumber _ hliteral hexact hany =>
    -- any number of properties, before and after
    have hjudge : p.key.judge (p.key.count names) = .allowed := by
      simp [Key.judge, hexact, hliteral]
    have hjudge' : q.key.judge (p.key.count names) = .allowed := by
      rw [Key.judge, hany]
    rw [hjudge, hjudge']
    exact Walk.agree_of_outcome_eq rfl
  | atMostOne _ hliteral hexact hoptional hadmits =>
    -- at most one property: the second key allows none, and the first does not refuse it
    have hle := hsingle hliteral names hnodup
    have hjudge' : q.key.judge (p.key.count names) = .allowed := by
      have hmany : ¬ 1 < p.key.count names := by omega
      rw [Key.judge, hoptional]
      exact if_neg hmany
    rw [hjudge']
    by_cases hzero : p.key.count names = 0
    · have hjudge : p.key.judge (p.key.count names) = .absent := by
        simp [Key.judge, hexact, hliteral, hzero]
      rw [hjudge]
      exact Walk.agree_pure_true fun hends =>
        hadmits (Walk.ends_of_ends_guarded (fun _ => rfl) hends)
    · have hjudge : p.key.judge (p.key.count names) = .allowed := by
        simp [Key.judge, hexact, hzero]
      rw [hjudge]
      exact Walk.agree_of_outcome_eq rfl

/-- Two lists of keys with checks under them: each key has one in the other list that means the
same. -/
structure Matched (ps qs : List (Property Check)) : Prop where
  forth : ∀ p ∈ ps, ∃ q ∈ qs, p.Agree q
  back : ∀ q ∈ qs, ∃ p ∈ ps, p.Agree q

theorem Matched.paired (h : Matched ps qs) : Property.Paired Property.Agree ps qs :=
  ⟨h.forth, h.back, fun _ _ hagree => ⟨_, hagree.key⟩⟩

/-- **Object patterns of keys that mean the same agree**, whatever the order of the keys. -/
theorem agree_object (h : Matched ps qs)
    (hunique : ∀ p ∈ ps, ∀ p' ∈ ps, p.key.isCatchAll = true → p'.key.isCatchAll = true → p = p')
    (hsingle : ∀ p ∈ ps, p.key.IsSingle) : Check.Agree (object ps) (object qs) := by
  have h := h.paired
  intro x hx path
  cases hx with
  | @mapping form tag es hnodup hes =>
    have hentries : (entries ps path es).Agree (entries qs path es) := by
      refine .all_same fun e he => ?_
      refine .all (fun p hp => ?_) fun q hq => ?_
      · obtain ⟨q, hq, hagree⟩ := h.claimants_forth hunique hp
        exact ⟨q, hq, hagree.rule e.2 (hes e he) _⟩
      · obtain ⟨p, hp, hagree⟩ := h.claimants_back hunique hq
        exact ⟨p, hp, hagree.rule e.2 (hes e he) _⟩
    have hcounts : (Walk.all (count (propertyNames es)) (specific ps)).Agree
        (Walk.all (count (propertyNames es)) (specific qs)) := by
      refine .all (fun p hp => ?_) fun q hq => ?_
      · obtain ⟨q, hq, hagree⟩ := h.specific_forth hp
        exact ⟨q, hq, agree_count hagree (hsingle p (mem_of_mem_specific hp)) hnodup⟩
      · obtain ⟨p, hp, hagree⟩ := h.specific_back hq
        exact ⟨p, hp, agree_count hagree (hsingle p (mem_of_mem_specific hp)) hnodup⟩
    exact hentries.bind_if hcounts
  | seq _ => exact Walk.agree_of_outcome_eq rfl
  | plain _ hmapping =>
    cases x with
    | mapping _ _ _ => cases hmapping
    | _ => exact Walk.agree_of_outcome_eq rfl

end Check

end Conformance
