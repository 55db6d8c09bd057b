import Conformance.Proofs.Validator.References

/-!
# Chains of live delegates

Rebinding passes through live delegates to the validators that they stand for, and these can hold live
delegates again.  How many of them lead on to one another is all that decides whether rebinding gives a
result: nothing else in a validator can make it fail.

## Main Definitions

* `Validator.ChainsLive` — so many live delegates lead on to one another

## Main statements

* `Validator.chainsLive_delegate`, `Validator.chainsLive_anyOf`, … — the chains of a validator are those
  of its parts
* `Validator.endlessIff_rebindTo` — rebinding ends with a fault exactly if there is a chain as long as the
  depth
-/

namespace Conformance.Validator

variable {slot : Nat → Slot} {k : Nat}

/-- **A chain of live delegates**: `k` of them lead on to one another, and the first one stands in the tree
of the validator. -/
inductive ChainsLive (slot : Nat → Slot) : Nat → Validator → Prop where
  | none (v : Validator) : ChainsLive slot 0 v
  | part {k : Nat} {v w : Validator} : v.Part w → ChainsLive slot k w → ChainsLive slot k v
  | live {k : Nat} {t : Target} {h : Handle} : slot t.id = .validator h →
    ChainsLive slot k h.validator → ChainsLive slot (k + 1) (delegate t)

/-! ## Chains of the parts -/

/-- A chain starts in something directly below, or at the top with a live delegate. -/
theorem chainsLive_succ_iff {v : Validator} : v.ChainsLive slot (k + 1) ↔
    (∃ w, v.Part w ∧ w.ChainsLive slot (k + 1)) ∨
      ∃ t h, v = delegate t ∧ slot t.id = .validator h ∧ h.validator.ChainsLive slot k := by
  constructor
  · intro h
    cases h with
    | part hpart h => exact .inl ⟨_, hpart, h⟩
    | live hslot h => exact .inr ⟨_, _, rfl, hslot, h⟩
  · rintro (⟨w, hpart, h⟩ | ⟨t, h, rfl, hslot, hchain⟩)
    · exact .part hpart h
    · exact .live hslot hchain

/-- Where nothing stands below and there is no live delegate, no chain starts. -/
theorem not_chainsLive_of_bare {v : Validator} (hpart : ∀ w, ¬ v.Part w) (hlive : ∀ t, v ≠ delegate t) :
    ¬ v.ChainsLive slot (k + 1) := by
  rw [chainsLive_succ_iff]
  rintro (⟨w, hw, -⟩ | ⟨t, -, ht, -⟩)
  · exact hpart w hw
  · exact hlive t ht

@[simp] theorem not_chainsLive_leaf (rule : Leaf) : ¬ (leaf rule).ChainsLive slot (k + 1) :=
  not_chainsLive_of_bare nofun nofun

@[simp] theorem not_chainsLive_selfRef (session : Option Nat) :
    ¬ (selfRef session).ChainsLive slot (k + 1) :=
  not_chainsLive_of_bare nofun nofun

@[simp] theorem not_chainsLive_external (e : External) : ¬ (external e).ChainsLive slot (k + 1) :=
  not_chainsLive_of_bare nofun nofun

@[simp] theorem chainsLive_delegate (t : Target) : (delegate t).ChainsLive slot (k + 1) ↔
    ∃ h, slot t.id = .validator h ∧ h.validator.ChainsLive slot k := by
  rw [chainsLive_succ_iff]
  constructor
  · rintro (⟨w, ⟨⟩, -⟩ | ⟨t, h, ⟨⟩, hslot, hchain⟩)
    exact ⟨h, hslot, hchain⟩
  · rintro ⟨h, hslot, hchain⟩
    exact .inr ⟨t, h, rfl, hslot, hchain⟩

@[simp] theorem chainsLive_delegateTo (t : Target) (copy : Validator) :
    (delegateTo t copy).ChainsLive slot (k + 1) ↔ copy.ChainsLive slot (k + 1) := by
  rw [chainsLive_succ_iff]
  constructor
  · rintro (⟨w, ⟨⟩, h⟩ | ⟨t', -, ⟨⟩, -⟩)
    exact h
  · exact fun h => .inl ⟨copy, .copy t copy, h⟩

@[simp] theorem chainsLive_anyOf (vs : List Validator) :
    (anyOf vs).ChainsLive slot (k + 1) ↔ ∃ v ∈ vs, v.ChainsLive slot (k + 1) := by
  rw [chainsLive_succ_iff]
  constructor
  · rintro (⟨w, ⟨⟩, h⟩ | ⟨t, -, ⟨⟩, -⟩)
    exact ⟨w, ‹_›, h⟩
  · rintro ⟨v, hv, h⟩
    exact .inl ⟨v, .alternative hv, h⟩

@[simp] theorem chainsLive_object (ps : List (Property Validator)) :
    (object ps).ChainsLive slot (k + 1) ↔ ∃ p ∈ ps, p.rule.ChainsLive slot (k + 1) := by
  rw [chainsLive_succ_iff]
  constructor
  · rintro (⟨w, ⟨⟩, h⟩ | ⟨t, -, ⟨⟩, -⟩)
    exact ⟨_, ‹_›, h⟩
  · rintro ⟨p, hp, h⟩
    exact .inl ⟨p.rule, .property hp, h⟩

@[simp] theorem chainsLive_arrayOf (items : Validator) (least : Nat) (most : Option Nat) :
    (arrayOf items least most).ChainsLive slot (k + 1) ↔ items.ChainsLive slot (k + 1) := by
  rw [chainsLive_succ_iff]
  constructor
  · rintro (⟨w, ⟨⟩, h⟩ | ⟨t, -, ⟨⟩, -⟩)
    exact h
  · exact fun h => .inl ⟨items, .element items least most, h⟩

/-- A chain holds one that is shorter by one. -/
theorem ChainsLive.of_succ {v : Validator} (h : v.ChainsLive slot (k + 1)) : v.ChainsLive slot k := by
  induction k generalizing v with
  | zero => exact .none v
  | succ k ih =>
    generalize hlength : k + 1 + 1 = length at h
    induction h with
    | none => cases hlength
    | part hpart _ ihpart => exact .part hpart (ihpart hlength)
    | live hslot h _ =>
      cases hlength
      exact .live hslot (ih h)

/-- A chain holds all that are shorter. -/
theorem ChainsLive.mono {v : Validator} {k' : Nat} (hle : k ≤ k') (h : v.ChainsLive slot k') :
    v.ChainsLive slot k := by
  induction hle with
  | refl => exact h
  | step _ ih => exact ih h.of_succ

/-! ## Rebinding -/

/-- **A result ends endlessly exactly if a condition holds**, and with no other fault. -/
structure EndlessIff {α : Type} (condition : Prop) (x : Except Fault α) : Prop where
  fault : condition → x = .error .endless
  result : ¬ condition → ∃ a, x = .ok a

namespace EndlessIff

variable {α β : Type} {c d : Prop} {x : Except Fault α}

theorem ok (a : α) (h : ¬ c) : EndlessIff c (Except.ok a) := ⟨fun hc => absurd hc h, fun _ => ⟨a, rfl⟩⟩

/-- What follows a result has its own condition. -/
theorem bind {f : α → Except Fault β} (h : EndlessIff c x) (hf : ∀ a, EndlessIff d (f a)) :
    EndlessIff (c ∨ d) (x >>= f) := by
  constructor
  · intro hcd
    by_cases hc : c
    · rw [h.fault hc]
      rfl
    · obtain ⟨a, ha⟩ := h.result hc
      rw [ha]
      exact (hf a).fault (hcd.resolve_left hc)
  · intro hcd
    obtain ⟨hc, hd⟩ := not_or.mp hcd
    obtain ⟨a, ha⟩ := h.result hc
    rw [ha]
    exact (hf a).result hd

/-- Something made of a result has the condition of the result. -/
theorem map {f : α → β} (h : EndlessIff c x) : EndlessIff c (do return f (← x)) := by
  constructor
  · intro hc
    rw [h.fault hc]
    rfl
  · intro hc
    obtain ⟨a, ha⟩ := h.result hc
    exact ⟨f a, by rw [ha]; rfl⟩

theorem congr (h : EndlessIff c x) (hcd : c ↔ d) : EndlessIff d x :=
  ⟨fun hd => h.fault (hcd.mpr hd), fun hd => h.result (mt hcd.mp hd)⟩

end EndlessIff

variable {n : Nat} {follow : Validator → Except Fault (Rebound Validator)}

/-- Alternatives end endlessly if one of them does. -/
theorem endlessIff_rebindEach {c : Validator → Prop} {vs : List Validator}
    (h : ∀ v ∈ vs, EndlessIff (c v) (rebind slot n follow none v)) :
    EndlessIff (∃ v ∈ vs, c v) (rebindEach slot n follow vs) := by
  induction vs with
  | nil => exact .ok _ (by simp)
  | cons v vs ih =>
    obtain ⟨hv, hvs⟩ := List.forall_mem_cons.mp h
    exact (hv.bind fun _ => (ih hvs).map).congr (by simp)

/-- What stands under keys ends endlessly if something there does. -/
theorem endlessIff_rebindProperties {c : Validator → Prop} {label : Option Label} {i : Nat}
    {ps : List (Property Validator)}
    (h : ∀ p ∈ ps, ∀ place, EndlessIff (c p.rule) (rebind slot n follow place p.rule)) :
    EndlessIff (∃ p ∈ ps, c p.rule) (rebindProperties slot n follow label i ps) := by
  induction ps generalizing i with
  | nil => exact .ok _ (by simp)
  | cons p ps ih =>
    obtain ⟨hp, hps⟩ := List.forall_mem_cons.mp h
    exact ((hp _).bind fun _ => (ih hps).map).congr (by simp)

/-- **Rebinding ends with a fault exactly if there is a chain as long as the depth**, and gives a result
otherwise. -/
theorem endlessIff_rebindTo (slot : Nat → Slot) (n depth : Nat) (label : Option Label) (v : Validator) :
    EndlessIff (v.ChainsLive slot depth) (rebindTo slot n depth label v) := by
  induction depth generalizing label v with
  | zero => exact ⟨fun _ => rfl, fun h => absurd (.none v) h⟩
  | succ depth ih =>
    rw [rebindTo]
    induction v using treeInduction generalizing label with
    | leaf rule => exact .ok _ (not_chainsLive_leaf rule)
    | delegate t =>
      rw [rebind]
      cases hslot : slot t.id with
      | validator h => exact (ih none h.validator).map.congr (by simp [hslot])
      | _ => exact .ok _ (by simp [hslot])
    | delegateTo t copy ihcopy =>
      rw [rebind]
      exact (ihcopy none).map.congr (chainsLive_delegateTo t copy).symm
    | anyOf vs ihvs =>
      rw [rebind]
      exact (endlessIff_rebindEach fun v hv => ihvs v hv none).map.congr (chainsLive_anyOf vs).symm
    | object ps ihps =>
      rw [rebind]
      exact (endlessIff_rebindProperties fun p hp place => ihps p hp place).map.congr
        (chainsLive_object ps).symm
    | arrayOf items least most ihitems =>
      rw [rebind]
      exact (ihitems none).map.congr (chainsLive_arrayOf items least most).symm
    | selfRef session => cases session <;> exact .ok _ (not_chainsLive_selfRef _)
    | external e => exact .ok _ (not_chainsLive_external e)

/-- What was rebound starts no chain that is as long as the depth. -/
theorem not_chainsLive_of_rebindTo {depth : Nat} {label : Option Label} {v : Validator}
    {r : Rebound Validator} (h : rebindTo slot n depth label v = .ok r) : ¬ v.ChainsLive slot depth := by
  intro hchain
  rw [(endlessIff_rebindTo slot n depth label v).fault hchain] at h
  cases h

/-- What a delegate stands for that leads back to it starts chains of any length. -/
theorem chainsLive_of_loop {t : Target} {h : Handle} (hslot : slot t.id = .validator h)
    (hloop : ∀ k, (delegate t).ChainsLive slot k → h.validator.ChainsLive slot k) (k : Nat) :
    (delegate t).ChainsLive slot k := by
  induction k with
  | zero => exact .none _
  | succ k ih => exact .live hslot (hloop k ih)

end Conformance.Validator
