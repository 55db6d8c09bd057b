import Conformance.Proofs.Validator.LiveChains
import Conformance.Proofs.Validator.Settled
import Mathlib.Algebra.Ring.Nat

/-!
# What rebinding replaces

Rebinding a validator to a session replaces the references of no session by references of that session, and
nothing else.  Each composite kind of validator has its own test of whether anything has changed; here is
said what all of them amount to, in terms of the references that a validator holds.

## Main Definitions

* `Validator.TakenOver` — a validator and what a session makes of it, part by part
* `Validator.referencesTo` — the references in a validator, from left to right, with each of the places
  where they stand
* `Validator.Rebinds` — what rebinding gives

## Main statements

* `Validator.mem_referencesTo_iff` — the references that are listed are those that a validator holds
* `Validator.takenOver_rebindTo` — rebinding takes a validator over, part by part
* `Validator.TakenOver.references` — the references of what was taken over, place by place
* `Validator.exists_rebinds` — rebinding a validator without endless delegates
-/

namespace Conformance.Validator

variable {slot : Nat → Slot} {n : Nat} {label : Option Label}

/-! ## Taken over, part by part -/

/-- The identity that what stands under the `i`-th key keeps: its own, or else its place. -/
def placeOf (label : Option Label) (i : Nat) (p : Property Validator) : Option Label :=
  p.label <|> label.map (·.child i)

/-- What becomes of a key: it is kept, and so is the identity of what stands under it, unless that is
copied. -/
structure KeepsKey (slot : Nat → Slot) (place : Option Label) (p q : Property Validator) : Prop where
  key : q.key = p.key
  kept : ¬ p.rule.Holds slot none → q.label = place
  copied : p.rule.Holds slot none → q.label = none

/-- **A validator is taken over by a session.**  A part in which no reference waits for a session stays what
it is, with its identity.  Elsewhere the shape is kept, a reference that waits becomes one of the session,
and a live delegate becomes one to a copy of what it stands for.  `label` is the identity of the
validator. -/
inductive TakenOver (slot : Nat → Slot) (n : Nat) : Option Label → Validator → Validator → Prop where
  | kept {label : Option Label} {v : Validator} : ¬ v.Holds slot none → TakenOver slot n label v v
  | reference {label : Option Label} : TakenOver slot n label (selfRef none) (selfRef (some n))
  | delegate {label : Option Label} {t : Target} {h : Handle} {w : Validator} :
    slot t.id = .validator h → h.validator.Holds slot none → TakenOver slot n none h.validator w →
    TakenOver slot n label (delegate t) (delegateTo t w)
  | delegateTo {label : Option Label} {t : Target} {v w : Validator} : v.Holds slot none →
    TakenOver slot n none v w → TakenOver slot n label (delegateTo t v) (delegateTo t w)
  | anyOf {label : Option Label} {es : List (Validator × Validator)} :
    (∃ e ∈ es, e.1.Holds slot none) → (∀ e ∈ es, TakenOver slot n none e.1 e.2) →
    TakenOver slot n label (anyOf (es.map Prod.fst)) (anyOf (es.map Prod.snd))
  | object {label : Option Label} {es : List (Property Validator × Property Validator)} :
    (∃ e ∈ es, e.1.rule.Holds slot none) →
    (∀ i e, es[i]? = some e → KeepsKey slot (placeOf label i e.1) e.1 e.2) →
    (∀ i e, es[i]? = some e → TakenOver slot n (placeOf label i e.1) e.1.rule e.2.rule) →
    TakenOver slot n label (object (es.map Prod.fst)) (object (es.map Prod.snd))
  | arrayOf {label : Option Label} {v w : Validator} {least : Nat} {most : Option Nat} :
    v.Holds slot none → TakenOver slot n none v w →
    TakenOver slot n label (arrayOf v least most) (arrayOf w least most)

/-! ## The references in a validator -/

mutual

/-- The references in a validator from left to right, with what `follow` finds behind live delegates. -/
def references (slot : Nat → Slot) (follow : Validator → List (Option Nat)) :
    Validator → List (Option Nat)
  | leaf _ => []
  | delegate t =>
    match slot t.id with
    | .validator h => follow h.validator
    | _ => []
  | delegateTo _ copy => references slot follow copy
  | anyOf alternatives => referencesEach slot follow alternatives
  | object properties => referencesUnder slot follow properties
  | arrayOf items _ _ => references slot follow items
  | selfRef session => [session]
  | external _ => []

/-- The references in alternatives. -/
def referencesEach (slot : Nat → Slot) (follow : Validator → List (Option Nat)) :
    List Validator → List (Option Nat)
  | [] => []
  | v :: vs => references slot follow v ++ referencesEach slot follow vs

/-- The references under keys. -/
def referencesUnder (slot : Nat → Slot) (follow : Validator → List (Option Nat)) :
    List (Property Validator) → List (Option Nat)
  | [] => []
  | ⟨_, _, rule⟩ :: ps => references slot follow rule ++ referencesUnder slot follow ps

end

/-- **The references in a validator**, through at most `depth` live delegates that lead on to one another.
A reference is listed once for each place in which it stands. -/
def referencesTo (slot : Nat → Slot) : Nat → Validator → List (Option Nat)
  | 0, _ => []
  | depth + 1, v => references slot (referencesTo slot depth) v

theorem referencesEach_eq_flatMap (follow : Validator → List (Option Nat)) (vs : List Validator) :
    referencesEach slot follow vs = vs.flatMap (references slot follow) := by
  induction vs with
  | nil => rfl
  | cons v vs ih => rw [referencesEach, ih, List.flatMap_cons]

theorem referencesUnder_eq_flatMap (follow : Validator → List (Option Nat))
    (ps : List (Property Validator)) :
    referencesUnder slot follow ps = ps.flatMap fun p => references slot follow p.rule := by
  induction ps with
  | nil => rfl
  | cons p ps ih => rw [referencesUnder, ih, List.flatMap_cons]

/-- **The references that are listed are those that a validator holds**, if the depth is enough for its
delegates. -/
theorem mem_referencesTo_iff {depth : Nat} {v : Validator} (h : ¬ v.ChainsLive slot depth)
    {own : Option Nat} : own ∈ referencesTo slot depth v ↔ v.Holds slot own := by
  induction depth generalizing v with
  | zero => exact absurd (.none v) h
  | succ depth ih =>
    rw [referencesTo]
    induction v using treeInduction with
    | leaf rule => simp [references]
    | delegate t =>
      rw [references, holds_delegate]
      cases hslot : slot t.id with
      | validator handle =>
        have hchain : ¬ handle.validator.ChainsLive slot depth := fun hchain => h (.live hslot hchain)
        simp [ih hchain]
      | _ => simp
    | delegateTo t copy ihcopy =>
      rw [references, holds_delegateTo]
      exact ihcopy (mt (chainsLive_delegateTo t copy).mpr h)
    | anyOf vs ihvs =>
      rw [references, referencesEach_eq_flatMap, List.mem_flatMap, holds_anyOf]
      refine exists_congr fun v => and_congr_right fun hv => ihvs v hv fun hchain => h ?_
      exact .part (.alternative hv) hchain
    | object ps ihps =>
      rw [references, referencesUnder_eq_flatMap, List.mem_flatMap, holds_object]
      refine exists_congr fun p => and_congr_right fun hp => ihps p hp fun hchain => h ?_
      exact .part (.property hp) hchain
    | arrayOf items least most ihitems =>
      rw [references, holds_arrayOf]
      exact ihitems (mt (chainsLive_arrayOf items least most).mpr h)
    | selfRef session => simp [references, eq_comm]
    | external e => simp [references]

/-- More depth finds no more references than a depth that is enough. -/
theorem referencesTo_of_le {depth depth' : Nat} (hle : depth ≤ depth') {v : Validator}
    (h : ¬ v.ChainsLive slot depth) : referencesTo slot depth' v = referencesTo slot depth v := by
  induction depth generalizing depth' v with
  | zero => exact absurd (.none v) h
  | succ depth ih =>
    obtain ⟨depth', rfl⟩ : ∃ e, depth' = e + 1 := ⟨depth' - 1, by omega⟩
    rw [referencesTo, referencesTo]
    induction v using treeInduction with
    | leaf rule => rfl
    | delegate t =>
      rw [references, references]
      cases hslot : slot t.id with
      | validator handle => exact ih (by omega) fun hchain => h (.live hslot hchain)
      | _ => rfl
    | delegateTo t copy ihcopy =>
      rw [references, references]
      exact ihcopy (mt (chainsLive_delegateTo t copy).mpr h)
    | anyOf vs ihvs =>
      rw [references, references, referencesEach_eq_flatMap, referencesEach_eq_flatMap]
      exact List.flatMap_congr fun v hv => ihvs v hv fun hchain => h (.part (.alternative hv) hchain)
    | object ps ihps =>
      rw [references, references, referencesUnder_eq_flatMap, referencesUnder_eq_flatMap]
      exact List.flatMap_congr fun p hp => ihps p hp fun hchain => h (.part (.property hp) hchain)
    | arrayOf items least most ihitems =>
      rw [references, references]
      exact ihitems (mt (chainsLive_arrayOf items least most).mpr h)
    | selfRef session => rfl
    | external e => rfl

/-! ## Rebinding parts -/

variable {follow : Validator → Except Fault (Rebound Validator)}

/-- What became of alternatives that were rebound. -/
theorem exists_of_rebindEach {vs : List Validator} {rs : Rebound (List Validator)}
    (h : rebindEach slot n follow vs = .ok rs) :
    ∃ es : List (Validator × Rebound Validator), es.map Prod.fst = vs ∧
      (∀ e ∈ es, rebind slot n follow none e.1 = .ok e.2) ∧
      rs.adopted = (es.map fun e => e.2.adopted).sum ∧
      rs.result vs = es.map fun e => e.2.result e.1 := by
  induction vs generalizing rs with
  | nil =>
    cases h
    exact ⟨[], rfl, by simp, rfl, rfl⟩
  | cons v vs ih =>
    simp only [rebindEach, Except.bind_eq_ok_iff, Except.pure_eq_ok_iff] at h
    obtain ⟨head, hhead, tail, htail, rfl⟩ := h
    obtain ⟨es, rfl, hes, hadopted, hresult⟩ := ih htail
    refine ⟨(v, head) :: es, rfl, List.forall_mem_cons.mpr ⟨hhead, hes⟩, ?_, ?_⟩
    · rw [List.map_cons, List.sum_cons, ← hadopted]
      rfl
    · rw [List.map_cons, Rebound.result_cons, hresult]

/-- What became of a key that was rebound together with others, in a copy of them all. -/
def copied (label : Option Label) (i : Nat) (e : Property Validator × Rebound Validator) :
    Property Validator :=
  ⟨e.1.key, if e.2.copy.isNone then placeOf label i e.1 else none, e.2.result e.1.rule⟩

/-- The properties of a copy are put together one by one; where nothing behind the first has changed, the
identities there are those that are kept. -/
theorem getD_cons_keepPlaces (i : Nat) (p : Property Validator) (ps : List (Property Validator))
    (head : Rebound Validator) (tail : Rebound (List (Property Validator))) :
    (Rebound.cons ⟨p.key, placeOf label i p, p.rule⟩
        (if tail.copy.isNone then keepPlaces label (i + 1) ps else ps)
        (head.map fun copy => ⟨p.key, none, copy⟩) tail).copy.getD (keepPlaces label i (p :: ps)) =
      copied label i (p, head) :: tail.copy.getD (keepPlaces label (i + 1) ps) := by
  rw [keepPlaces_cons]
  cases hhead : head.copy <;> cases htail : tail.copy <;>
    simp [Rebound.cons, Rebound.map, Rebound.result, hhead, htail, placeOf, copied]

/-- What became of what stands under keys and was rebound; where nothing had to change, the identities are
those that the parts keep in a copy. -/
theorem exists_of_rebindProperties {i : Nat} {ps : List (Property Validator)}
    {rs : Rebound (List (Property Validator))} (h : rebindProperties slot n follow label i ps = .ok rs) :
    ∃ es : List (Property Validator × Rebound Validator), es.map Prod.fst = ps ∧
      (∀ j e, es[j]? = some e → rebind slot n follow (placeOf label (i + j) e.1) e.1.rule = .ok e.2) ∧
      rs.adopted = (es.map fun e => e.2.adopted).sum ∧
      rs.copy.getD (keepPlaces label i ps) = es.mapIdx fun j e => copied label (i + j) e := by
  induction ps generalizing i rs with
  | nil =>
    cases h
    exact ⟨[], rfl, by simp, rfl, rfl⟩
  | cons p ps ih =>
    obtain ⟨key, own, rule⟩ := p
    simp only [rebindProperties, Except.bind_eq_ok_iff, Except.pure_eq_ok_iff] at h
    obtain ⟨head, hhead, tail, htail, rfl⟩ := h
    obtain ⟨es, rfl, hes, hadopted, hresult⟩ := ih htail
    refine ⟨(⟨key, own, rule⟩, head) :: es, rfl, ?_, ?_, ?_⟩
    · intro j e he
      cases j with
      | zero =>
        cases he
        exact hhead
      | succ j =>
        rw [← Nat.succ_add_eq_add_succ]
        exact hes j e he
    · rw [List.map_cons, List.sum_cons, ← hadopted]
      rfl
    · have hshift : ∀ j, i + 1 + j = i + (j + 1) := by omega
      simp only [hshift] at hresult
      rw [List.mapIdx_cons, ← hresult]
      exact getD_cons_keepPlaces i ⟨key, own, rule⟩ _ head tail

/-! ## Rebinding one kind of validator -/

section Kinds

variable {depth : Nat} {t : Target} {r : Rebound Validator}

/-- A live delegate is rebound by rebinding what it stands for. -/
theorem exists_of_rebindTo_delegate {handle : Handle} (hslot : slot t.id = .validator handle)
    (h : rebindTo slot n (depth + 1) label (delegate t) = .ok r) :
    ∃ inner, rebindTo slot n depth none handle.validator = .ok inner ∧ r = inner.map (delegateTo t) := by
  simp only [rebindTo, rebind, hslot, Except.bind_eq_ok_iff, Except.pure_eq_ok_iff] at h
  obtain ⟨inner, hinner, hr⟩ := h
  exact ⟨inner, hinner, hr.symm⟩

/-- A delegate to a copy is rebound by rebinding the copy. -/
theorem exists_of_rebindTo_delegateTo {copy : Validator}
    (h : rebindTo slot n (depth + 1) label (delegateTo t copy) = .ok r) :
    ∃ inner, rebindTo slot n (depth + 1) none copy = .ok inner ∧ r = inner.map (delegateTo t) := by
  simp only [rebindTo, rebind, Except.bind_eq_ok_iff, Except.pure_eq_ok_iff] at h
  obtain ⟨inner, hinner, hr⟩ := h
  exact ⟨inner, hinner, hr.symm⟩

/-- A rule for elements is rebound by rebinding the rule for each of them. -/
theorem exists_of_rebindTo_arrayOf {items : Validator} {least : Nat} {most : Option Nat}
    (h : rebindTo slot n (depth + 1) label (arrayOf items least most) = .ok r) :
    ∃ inner, rebindTo slot n (depth + 1) none items = .ok inner ∧
      r = inner.map fun items => arrayOf items least most := by
  simp only [rebindTo, rebind, Except.bind_eq_ok_iff, Except.pure_eq_ok_iff] at h
  obtain ⟨inner, hinner, hr⟩ := h
  exact ⟨inner, hinner, hr.symm⟩

/-- A choice is rebound alternative by alternative. -/
theorem exists_of_rebindTo_anyOf {vs : List Validator}
    (h : rebindTo slot n (depth + 1) label (anyOf vs) = .ok r) :
    ∃ es : List (Validator × Rebound Validator), es.map Prod.fst = vs ∧
      (∀ e ∈ es, rebindTo slot n (depth + 1) none e.1 = .ok e.2) ∧
      r.adopted = (es.map fun e => e.2.adopted).sum ∧
      r.result (anyOf vs) = anyOf (es.map fun e => e.2.result e.1) := by
  simp only [rebindTo, rebind, Except.bind_eq_ok_iff, Except.pure_eq_ok_iff] at h
  obtain ⟨rs, hrs, rfl⟩ := h
  obtain ⟨es, hvs, hes, hadopted, hresult⟩ := exists_of_rebindEach hrs
  refine ⟨es, hvs, hes, hadopted, ?_⟩
  rw [Rebound.result_map, hresult]

/-- An object pattern is rebound key by key. -/
theorem exists_copied_of_rebindTo_object {ps : List (Property Validator)}
    (h : rebindTo slot n (depth + 1) label (object ps) = .ok r) :
    ∃ es : List (Property Validator × Rebound Validator), es.map Prod.fst = ps ∧
      (∀ i e, es[i]? = some e → rebindTo slot n (depth + 1) (placeOf label i e.1) e.1.rule = .ok e.2) ∧
      r.adopted = (es.map fun e => e.2.adopted).sum ∧
      (r.copy ≠ none → r.result (object ps) = object (es.mapIdx (copied label))) := by
  simp only [rebindTo, rebind, Except.bind_eq_ok_iff, Except.pure_eq_ok_iff] at h
  obtain ⟨rs, hrs, rfl⟩ := h
  obtain ⟨es, hps, hes, hadopted, hresult⟩ := exists_of_rebindProperties hrs
  simp only [Nat.zero_add] at hes hresult
  refine ⟨es, hps, hes, hadopted, fun hcopy => ?_⟩
  obtain ⟨qs, hqs⟩ := Option.ne_none_iff_exists'.mp (mt (congrArg (Option.map object)) hcopy)
  rw [hqs, Option.getD_some] at hresult
  rw [Rebound.result_map, Rebound.result, hqs, Option.getD_some, hresult]

end Kinds

/-! ## Rebinding takes over -/

/-- Where no reference waits for a session, rebinding takes over by keeping. -/
theorem takenOver_of_not_holds {depth : Nat} {v : Validator} {r : Rebound Validator}
    (h : rebindTo slot n depth label v = .ok r) (hholds : ¬ v.Holds slot none) :
    TakenOver slot n label v (r.result v) := by
  rw [Rebound.result, (copy_eq_none_iff h).mpr hholds]
  exact .kept hholds

/-- An object pattern is taken over when what stands under its keys is. -/
theorem takenOver_object {depth : Nat} {es : List (Property Validator × Rebound Validator)}
    (hholds : ∃ p ∈ es.map Prod.fst, p.rule.Holds slot none)
    (hes : ∀ i e, es[i]? = some e → rebindTo slot n depth (placeOf label i e.1) e.1.rule = .ok e.2)
    (htaken : ∀ i e, es[i]? = some e →
      TakenOver slot n (placeOf label i e.1) e.1.rule (e.2.result e.1.rule)) :
    TakenOver slot n label (object (es.map Prod.fst)) (object (es.mapIdx (copied label))) := by
  have hpairs : ∀ i q, (es.mapIdx fun i e => (e.1, copied label i e))[i]? = some q →
      ∃ e, es[i]? = some e ∧ (e.1, copied label i e) = q := by
    intro i q hq
    rwa [List.getElem?_mapIdx, Option.map_eq_some_iff] at hq
  have hfst : (es.mapIdx fun i e => (e.1, copied label i e)).map Prod.fst = es.map Prod.fst :=
    List.ext_getElem? fun i => by simp [Function.comp_def]
  have hsnd : (es.mapIdx fun i e => (e.1, copied label i e)).map Prod.snd = es.mapIdx (copied label) :=
    List.ext_getElem? fun i => by simp [Function.comp_def]
  rw [← hfst, ← hsnd]
  refine .object ?_ (fun i q hq => ?_) fun i q hq => ?_
  · obtain ⟨p, hp, hrule⟩ := hholds
    rw [← hfst] at hp
    obtain ⟨q, hq, rfl⟩ := List.mem_map.mp hp
    exact ⟨q, hq, hrule⟩
  · obtain ⟨e, he, rfl⟩ := hpairs i q hq
    have hcopy := copy_eq_none_iff (hes i e he)
    refine ⟨rfl, fun hrule => ?_, fun hrule => ?_⟩
    · exact if_pos (Option.isNone_iff_eq_none.mpr (hcopy.mpr hrule))
    · exact if_neg fun hnone => hcopy.mp (Option.isNone_iff_eq_none.mp hnone) hrule
  · obtain ⟨e, he, rfl⟩ := hpairs i q hq
    exact htaken i e he

/-- **Rebinding takes a validator over, part by part.** -/
theorem takenOver_rebindTo {depth : Nat} {v : Validator} {r : Rebound Validator}
    (h : rebindTo slot n depth label v = .ok r) : TakenOver slot n label v (r.result v) := by
  induction depth generalizing label v r with
  | zero => cases h
  | succ depth ih =>
    -- within the tree the depth stays the same
    induction v using treeInduction generalizing label r with
    | leaf rule => exact takenOver_of_not_holds h (not_holds_leaf rule)
    | delegate t =>
      by_cases hholds : (delegate t).Holds slot none
      · obtain ⟨handle, hslot, hhandle⟩ := (holds_delegate t).mp hholds
        obtain ⟨r, hr, rfl⟩ := exists_of_rebindTo_delegate hslot h
        -- a copy is made of what the delegate stands for, so there is a copy
        have hcopy : ((r.map (delegateTo t)).result (delegate t)) =
            delegateTo t (r.result handle.validator) := by
          cases hcopy : r.copy with
          | none => exact absurd hhandle ((copy_eq_none_iff hr).mp hcopy)
          | some copy => simp [Rebound.result, Rebound.map, hcopy]
        rw [hcopy]
        exact .delegate hslot hhandle (ih hr)
      · exact takenOver_of_not_holds h hholds
    | delegateTo t copy ihcopy =>
      by_cases hholds : copy.Holds slot none
      · obtain ⟨r, hr, rfl⟩ := exists_of_rebindTo_delegateTo h
        rw [Rebound.result_map]
        exact .delegateTo hholds (ihcopy hr)
      · exact takenOver_of_not_holds h (by rwa [holds_delegateTo])
    | anyOf vs ihvs =>
      by_cases hholds : ∃ v ∈ vs, v.Holds slot none
      · obtain ⟨es, rfl, hes, -, hresult⟩ := exists_of_rebindTo_anyOf h
        rw [hresult]
        have htaken : TakenOver slot n label
            (anyOf ((es.map fun e => (e.1, e.2.result e.1)).map Prod.fst))
            (anyOf ((es.map fun e => (e.1, e.2.result e.1)).map Prod.snd)) := by
          refine .anyOf ?_ ?_
          · simpa using hholds
          · rw [List.forall_mem_map]
            exact fun e he => ihvs e.1 (List.mem_map_of_mem he) (hes e he)
        rwa [List.map_map, List.map_map] at htaken
      · exact takenOver_of_not_holds h (by rwa [holds_anyOf])
    | object ps ihps =>
      by_cases hholds : ∃ p ∈ ps, p.rule.Holds slot none
      · have hcopied := mt (copy_eq_none_iff h).mp (not_not_intro ((holds_object ps).mpr hholds))
        obtain ⟨es, rfl, hes, -, hresult⟩ := exists_copied_of_rebindTo_object h
        rw [hresult hcopied]
        refine takenOver_object hholds hes fun i e he => ihps e.1 ?_ (hes i e he)
        exact List.mem_map_of_mem (List.mem_of_getElem? he)
      · exact takenOver_of_not_holds h (by rwa [holds_object])
    | arrayOf items least most ihitems =>
      by_cases hholds : items.Holds slot none
      · obtain ⟨r, hr, rfl⟩ := exists_of_rebindTo_arrayOf h
        rw [Rebound.result_map (fun items => arrayOf items least most)]
        exact .arrayOf hholds (ihitems hr)
      · exact takenOver_of_not_holds h (by rwa [holds_arrayOf])
    | selfRef session =>
      cases session with
      | none =>
        cases h
        exact .reference
      | some own => exact takenOver_of_not_holds h (by simp)
    | external e => exact takenOver_of_not_holds h (not_holds_external e)

/-- **As many references are taken over as wait for a session**, each counted in every place in which it
stands. -/
theorem adopted_rebindTo {depth : Nat} {v : Validator} {r : Rebound Validator}
    (h : rebindTo slot n depth label v = .ok r) :
    r.adopted = (referencesTo slot depth v).count none := by
  induction depth generalizing label v r with
  | zero => cases h
  | succ depth ih =>
    rw [referencesTo]
    induction v using treeInduction generalizing label r with
    | leaf rule =>
      cases h
      rfl
    | delegate t =>
      rw [references]
      cases hslot : slot t.id with
      | validator handle =>
        obtain ⟨r, hr, rfl⟩ := exists_of_rebindTo_delegate hslot h
        exact (Rebound.adopted_map _ r).trans (ih hr)
      | _ =>
        simp only [rebindTo, rebind, hslot] at h
        cases h
        rfl
    | delegateTo t copy ihcopy =>
      obtain ⟨r, hr, rfl⟩ := exists_of_rebindTo_delegateTo h
      exact (Rebound.adopted_map _ r).trans (ihcopy hr)
    | anyOf vs ihvs =>
      obtain ⟨es, rfl, hes, hadopted, -⟩ := exists_of_rebindTo_anyOf h
      rw [references, referencesEach_eq_flatMap, List.count_flatMap, List.map_map]
      refine hadopted.trans (congrArg List.sum (List.map_congr_left fun e he => ?_))
      exact ihvs e.1 (List.mem_map_of_mem he) (hes e he)
    | object ps ihps =>
      obtain ⟨es, rfl, hes, hadopted, -⟩ := exists_copied_of_rebindTo_object h
      rw [references, referencesUnder_eq_flatMap, List.count_flatMap, List.map_map]
      refine hadopted.trans (congrArg List.sum (List.map_congr_left fun e he => ?_))
      obtain ⟨i, hi⟩ := List.mem_iff_getElem?.mp he
      exact ihps e.1 (List.mem_map_of_mem he) (hes i e hi)
    | arrayOf items least most ihitems =>
      obtain ⟨r, hr, rfl⟩ := exists_of_rebindTo_arrayOf h
      exact (Rebound.adopted_map _ r).trans (ihitems hr)
    | selfRef session => cases session <;> cases h <;> rfl
    | external e =>
      cases h
      rfl

namespace TakenOver

/-- What was taken over starts no longer chains of live delegates. -/
theorem chainsLive {v w : Validator} (h : TakenOver slot n label v w) {k : Nat}
    (hchain : w.ChainsLive slot k) : v.ChainsLive slot k := by
  cases k with
  | zero => exact .none v
  | succ k =>
    induction h with
    | kept _ => exact hchain
    | reference => exact absurd hchain (not_chainsLive_selfRef _)
    | delegate hslot _ _ ih =>
      rw [chainsLive_delegateTo] at hchain
      exact .live hslot (ih hchain).of_succ
    | delegateTo _ _ ih =>
      rw [chainsLive_delegateTo] at hchain ⊢
      exact ih hchain
    | anyOf _ _ ih =>
      rw [chainsLive_anyOf] at hchain ⊢
      obtain ⟨w, hw, hchain⟩ := hchain
      obtain ⟨e, he, rfl⟩ := List.mem_map.mp hw
      exact ⟨e.1, List.mem_map_of_mem he, ih e he hchain⟩
    | object _ _ _ ih =>
      rw [chainsLive_object] at hchain ⊢
      obtain ⟨q, hq, hchain⟩ := hchain
      obtain ⟨e, he, rfl⟩ := List.mem_map.mp hq
      obtain ⟨i, hi⟩ := List.mem_iff_getElem?.mp he
      exact ⟨e.1, List.mem_map_of_mem he, ih i e hi hchain⟩
    | arrayOf _ _ ih =>
      rw [chainsLive_arrayOf] at hchain ⊢
      exact ih hchain

/-- **The references of what was taken over** are those that were there, place by place: one that waited has
become one of the session, and each of the others is kept. -/
theorem references {v w : Validator} (h : TakenOver slot n label v w) {depth : Nat}
    (hchain : ¬ v.ChainsLive slot depth) :
    referencesTo slot depth w = (referencesTo slot depth v).map fun own => some (own.getD n) := by
  cases depth with
  | zero => exact absurd (.none v) hchain
  | succ depth =>
    induction h with
    | @kept label v hholds =>
      have hsame : ∀ own ∈ referencesTo slot (depth + 1) v, some (own.getD n) = own := by
        intro own hown
        cases own with
        | none => exact absurd ((mem_referencesTo_iff hchain).mp hown) hholds
        | some own => rfl
      rw [List.map_congr_left hsame, List.map_id']
    | reference => rfl
    | @delegate label t handle w hslot _ _ ih =>
      have hlive : ¬ handle.validator.ChainsLive slot depth := fun hlive => hchain (.live hslot hlive)
      have hdelegate : referencesTo slot (depth + 1) (.delegate t) =
          referencesTo slot (depth + 1) handle.validator := by
        rw [referencesTo_of_le (Nat.le_succ depth) hlive, referencesTo, Validator.references, hslot]
      rw [hdelegate]
      exact ih fun hlonger => hlive hlonger.of_succ
    | delegateTo _ _ ih => exact ih (mt (chainsLive_delegateTo _ _).mpr hchain)
    | anyOf _ _ ih =>
      rw [referencesTo, referencesTo, Validator.references, Validator.references,
        referencesEach_eq_flatMap, referencesEach_eq_flatMap, List.flatMap_map, List.flatMap_map,
        List.map_flatMap]
      refine List.flatMap_congr fun e he => ih e he fun hpart => hchain ?_
      exact .part (.alternative (List.mem_map_of_mem he)) hpart
    | object _ _ _ ih =>
      rw [referencesTo, referencesTo, Validator.references, Validator.references,
        referencesUnder_eq_flatMap, referencesUnder_eq_flatMap, List.flatMap_map, List.flatMap_map,
        List.map_flatMap]
      refine List.flatMap_congr fun e he => ?_
      obtain ⟨i, hi⟩ := List.mem_iff_getElem?.mp he
      exact ih i e hi fun hpart => hchain (.part (.property (List.mem_map_of_mem he)) hpart)
    | arrayOf _ _ ih => exact ih (mt (chainsLive_arrayOf _ _ _).mpr hchain)

end TakenOver

/-- Where nothing waits, taking over keeps. -/
theorem TakenOver.eq_of_not_holds {v w : Validator} (h : TakenOver slot n label v w)
    (hholds : ¬ v.Holds slot none) : w = v := by
  cases h with
  | kept _ => rfl
  | reference => simp at hholds
  | delegate hslot hcopy _ => exact absurd ((holds_delegate _).mpr ⟨_, hslot, hcopy⟩) hholds
  | delegateTo hcopy _ => exact absurd ((holds_delegateTo _ _).mpr hcopy) hholds
  | anyOf hes _ =>
    obtain ⟨e, he, hhe⟩ := hes
    exact absurd ((holds_anyOf _).mpr ⟨e.1, List.mem_map_of_mem he, hhe⟩) hholds
  | object hes _ _ =>
    obtain ⟨e, he, hhe⟩ := hes
    exact absurd ((holds_object _).mpr ⟨e.1, List.mem_map_of_mem he, hhe⟩) hholds
  | arrayOf hitems _ => exact absurd ((holds_arrayOf _ _ _).mpr hitems) hholds

/-- **An object pattern is taken over key by key.** -/
theorem exists_of_takenOver_object {ps : List (Property Validator)} {w : Validator}
    (h : TakenOver slot n label (object ps) w) : ∃ qs, w = object qs ∧
      List.Forall₂ (fun p q => q.key = p.key ∧ ∃ place, TakenOver slot n place p.rule q.rule) ps qs := by
  generalize hv : object ps = v at h
  cases h with
  | kept hholds =>
    subst hv
    refine ⟨ps, rfl, List.forall₂_same.mpr fun p hp => ⟨rfl, none, .kept fun hrule => hholds ?_⟩⟩
    exact (holds_object ps).mpr ⟨p, hp, hrule⟩
  | @object _ es _ hkeys hrules =>
    cases hv
    refine ⟨es.map Prod.snd, rfl, ?_⟩
    rw [List.forall₂_map_left_iff, List.forall₂_map_right_iff, List.forall₂_same]
    intro e he
    obtain ⟨i, hi⟩ := List.mem_iff_getElem?.mp he
    exact ⟨(hkeys i e hi).key, _, hrules i e hi⟩
  | _ => cases hv

/-! ## What rebinding gives -/

/-- **What rebinding gives**, for a depth that is enough for the delegates: no copy exactly where nothing
waits, else a copy in which what waits was taken over, and the number of places where something did. -/
structure Rebinds (slot : Nat → Slot) (n depth : Nat) (label : Option Label) (v : Validator)
    (r : Rebound Validator) : Prop where
  /-- The references that are listed are all that there are. -/
  listed : ∀ own, own ∈ referencesTo slot depth v ↔ v.Holds slot own
  unchanged : r.copy = none ↔ ¬ v.Holds slot none
  taken : TakenOver slot n label v (r.result v)
  references : referencesTo slot depth (r.result v) =
    (referencesTo slot depth v).map fun own => some (own.getD n)
  adopted : r.adopted = (referencesTo slot depth v).count none

theorem rebinds_of_rebindTo {depth : Nat} {v : Validator} {r : Rebound Validator}
    (h : rebindTo slot n depth label v = .ok r) : Rebinds slot n depth label v r := by
  have hchain := not_chainsLive_of_rebindTo h
  have htaken := takenOver_rebindTo h
  exact ⟨fun _ => mem_referencesTo_iff hchain, copy_eq_none_iff h, htaken, htaken.references hchain,
    adopted_rebindTo h⟩

/-- **Rebinding a validator whose live delegates do not lead on without end** gives a result, and replaces
the references that wait for a session, and nothing else. -/
theorem exists_rebinds {depth : Nat} {v : Validator} (h : ¬ v.ChainsLive slot depth) (n : Nat)
    (label : Option Label) :
    ∃ r, rebindTo slot n depth label v = .ok r ∧ Rebinds slot n depth label v r := by
  obtain ⟨r, hr⟩ := (endlessIff_rebindTo slot n depth label v).result h
  exact ⟨r, hr, rebinds_of_rebindTo hr⟩

end Conformance.Validator
