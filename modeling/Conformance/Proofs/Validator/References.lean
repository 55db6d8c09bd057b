import Conformance.Proofs.Except
import Conformance.Proofs.Validator.Adoption

/-!
# The references in a validator

## Main Definitions

* `Validator.Holds` — a reference stands in a validator, or behind a live delegate in it

## Main statements

* `Validator.holds_delegate`, `Validator.holds_anyOf`, … — the references of a validator are those of
  its parts
* `Validator.exists_of_rebindTo_object` — rebinding keeps the keys of an object pattern
* `Validator.holds_rebindTo` — rebinding makes the references of no session the session's own, and
  leaves every other one as it is
-/

namespace Conformance.Validator

variable {slot : Nat → Slot} {session : Option Nat}

/-- **A validator holds a reference** of a session, or of none, in its tree or behind a live delegate
in it.  What is behind a reference does not count. -/
def Holds (slot : Nat → Slot) (v : Validator) (session : Option Nat) : Prop :=
  Relation.ReflTransGen (Linked slot) v (selfRef session)

/-! ## References of the parts -/

/-- A reference stands at the top, or in something directly below. -/
theorem holds_iff {v : Validator} :
    v.Holds slot session ↔ v = selfRef session ∨ ∃ w, v.Linked slot w ∧ w.Holds slot session := by
  rw [Holds, Relation.ReflTransGen.cases_head_iff]
  rfl

@[simp] theorem not_holds_leaf (rule : Leaf) : ¬ (leaf rule).Holds slot session := by
  rw [holds_iff]
  rintro (h | ⟨w, ⟨hpart⟩, -⟩)
  · cases h
  · cases hpart

@[simp] theorem not_holds_external (e : External) : ¬ (external e).Holds slot session := by
  rw [holds_iff]
  rintro (h | ⟨w, ⟨hpart⟩, -⟩)
  · cases h
  · cases hpart

@[simp] theorem holds_selfRef (own : Option Nat) :
    (selfRef own).Holds slot session ↔ own = session := by
  rw [holds_iff]
  constructor
  · rintro (h | ⟨w, ⟨hpart⟩, -⟩)
    · exact Validator.selfRef.inj h
    · cases hpart
  · rintro rfl
    exact .inl rfl

@[simp] theorem holds_delegate (t : Target) : (delegate t).Holds slot session ↔
    ∃ h, slot t.id = .validator h ∧ h.validator.Holds slot session := by
  rw [holds_iff]
  constructor
  · rintro (h | ⟨w, hlink, hw⟩)
    · cases h
    · cases hlink with
      | part hpart => cases hpart
      | live hslot => exact ⟨_, hslot, hw⟩
  · rintro ⟨h, hslot, hw⟩
    exact .inr ⟨_, .live hslot, hw⟩

@[simp] theorem holds_delegateTo (t : Target) (copy : Validator) :
    (delegateTo t copy).Holds slot session ↔ copy.Holds slot session := by
  rw [holds_iff]
  constructor
  · rintro (h | ⟨w, ⟨⟨⟩⟩, hw⟩)
    · cases h
    · exact hw
  · exact fun h => .inr ⟨copy, .part (.copy t copy), h⟩

@[simp] theorem holds_anyOf (vs : List Validator) :
    (anyOf vs).Holds slot session ↔ ∃ v ∈ vs, v.Holds slot session := by
  rw [holds_iff]
  constructor
  · rintro (h | ⟨w, ⟨hpart⟩, hw⟩)
    · cases h
    · cases hpart with
      | alternative hv => exact ⟨w, hv, hw⟩
  · rintro ⟨v, hv, h⟩
    exact .inr ⟨v, .part (.alternative hv), h⟩

@[simp] theorem holds_object (ps : List (Property Validator)) :
    (object ps).Holds slot session ↔ ∃ p ∈ ps, p.rule.Holds slot session := by
  rw [holds_iff]
  constructor
  · rintro (h | ⟨w, ⟨hpart⟩, hw⟩)
    · cases h
    · cases hpart with
      | property hp => exact ⟨_, hp, hw⟩
  · rintro ⟨p, hp, h⟩
    exact .inr ⟨p.rule, .part (.property hp), h⟩

@[simp] theorem holds_arrayOf (items : Validator) (least : Nat) (most : Option Nat) :
    (arrayOf items least most).Holds slot session ↔ items.Holds slot session := by
  rw [holds_iff]
  constructor
  · rintro (h | ⟨w, ⟨⟨⟩⟩, hw⟩)
    · cases h
    · exact hw
  · exact fun h => .inr ⟨items, .part (.element items least most), h⟩

/-- Identities of parts are no references. -/
@[simp] theorem holds_adopt_none (v : Validator) :
    (v.adopt none).Holds slot session ↔ v.Holds slot session := by
  induction v using treeInduction with
  | leaf rule => rw [adopt]
  | delegate t => rw [adopt]
  | delegateTo t copy ih => rw [adopt, holds_delegateTo, holds_delegateTo, ih]
  | anyOf vs ih =>
    rw [adopt, holds_anyOf, holds_anyOf, adoptEach_eq_map]
    simp only [List.mem_map, exists_exists_and_eq_and]
    exact exists_congr fun v => and_congr_right (ih v)
  | object ps ih =>
    rw [adopt, holds_object, holds_object, adoptProperties_eq_map]
    simp only [List.mem_map, exists_exists_and_eq_and]
    exact exists_congr fun p => and_congr_right (ih p)
  | arrayOf items least most ih => rw [adopt, holds_arrayOf, holds_arrayOf, ih]
  | selfRef own => cases own <;> rfl
  | external e => rw [adopt]

/-! ## References of a copy -/

/-- What a copy holds: the references of the original, those of no session made the session's own. -/
def HoldsTaken (slot : Nat → Slot) (n : Nat) (v w : Validator) : Prop :=
  ∀ session, w.Holds slot session ↔ ∃ own, v.Holds slot own ∧ session = some (own.getD n)

/-- The same of a part somewhere under the keys of an object pattern or among alternatives. -/
def HoldsTakenAny {V : Type} (slot : Nat → Slot) (n : Nat) (rule : V → Validator)
    (vs ws : List V) : Prop :=
  ∀ session, (∃ w ∈ ws, (rule w).Holds slot session) ↔
    ∃ own, (∃ v ∈ vs, (rule v).Holds slot own) ∧ session = some (own.getD n)

variable {n : Nat} {follow : Validator → Except Fault (Rebound Validator)}

theorem HoldsTakenAny.nil {V : Type} {rule : V → Validator} :
    HoldsTakenAny slot n rule [] [] := by
  intro session
  simp

theorem HoldsTakenAny.cons {V : Type} {rule : V → Validator} {v w : V} {vs ws : List V}
    (head : HoldsTaken slot n (rule v) (rule w)) (tail : HoldsTakenAny slot n rule vs ws) :
    HoldsTakenAny slot n rule (v :: vs) (w :: ws) := by
  intro session
  simp only [List.mem_cons, or_and_right, exists_or, exists_eq_left, head session,
    tail session]

mutual

/-- Freezing what was taken over keeps the references, as long as this is so for what delegates stand
for. -/
theorem holdsTaken_freeze
    (hfollow : ∀ v r, follow v = .ok r → HoldsTaken slot n v (r.result v)) (v : Validator)
    {w : Validator} (h : freeze slot follow (v.adopt (some n)) = .ok w) :
    HoldsTaken slot n v w := by
  cases v with
  | leaf rule =>
    cases h
    simp [HoldsTaken]
  | delegate t =>
    intro session
    rw [adopt, freeze] at h
    cases hslot : slot t.id with
    | validator handle =>
      simp only [hslot, Except.bind_eq_ok_iff, Except.pure_eq_ok_iff] at h
      obtain ⟨r, hr, rfl⟩ := h
      have htaken := hfollow handle.validator r hr session
      cases hcopy : r.copy with
      | none =>
        rw [Rebound.result, hcopy, Option.getD_none] at htaken
        simp [hslot, htaken]
      | some copy =>
        rw [Rebound.result, hcopy, Option.getD_some] at htaken
        simp [hslot, htaken]
    | _ =>
      rw [hslot] at h
      cases h
      simp [hslot]
  | delegateTo t copy =>
    simp only [adopt, freeze, Except.bind_eq_ok_iff, Except.pure_eq_ok_iff] at h
    obtain ⟨w, hw, rfl⟩ := h
    simpa [HoldsTaken] using holdsTaken_freeze hfollow copy hw
  | anyOf vs =>
    simp only [adopt, freeze, Except.bind_eq_ok_iff, Except.pure_eq_ok_iff] at h
    obtain ⟨ws, hws, rfl⟩ := h
    simpa [HoldsTaken, HoldsTakenAny] using holdsTaken_freezeEach hfollow vs hws
  | object ps =>
    simp only [adopt, freeze, Except.bind_eq_ok_iff, Except.pure_eq_ok_iff] at h
    obtain ⟨qs, hqs, rfl⟩ := h
    simpa [HoldsTaken, HoldsTakenAny] using holdsTaken_freezeProperties hfollow ps hqs
  | arrayOf items least most =>
    simp only [adopt, freeze, Except.bind_eq_ok_iff, Except.pure_eq_ok_iff] at h
    obtain ⟨w, hw, rfl⟩ := h
    simpa [HoldsTaken] using holdsTaken_freeze hfollow items hw
  | selfRef own =>
    intro session
    cases own <;> cases h <;> simp [eq_comm]
  | external e =>
    cases h
    simp [HoldsTaken]

/-- Freezing alternatives that were taken over keeps the references. -/
theorem holdsTaken_freezeEach
    (hfollow : ∀ v r, follow v = .ok r → HoldsTaken slot n v (r.result v)) (vs : List Validator)
    {ws : List Validator} (h : freezeEach slot follow (adoptEach (some n) vs) = .ok ws) :
    HoldsTakenAny slot n id vs ws := by
  cases vs with
  | nil =>
    cases h
    exact .nil
  | cons v vs =>
    simp only [adoptEach, freezeEach, Except.bind_eq_ok_iff, Except.pure_eq_ok_iff] at h
    obtain ⟨w, hw, ws, hws, rfl⟩ := h
    exact .cons (holdsTaken_freeze hfollow v hw) (holdsTaken_freezeEach hfollow vs hws)

/-- Freezing what stands under keys and was taken over keeps the references. -/
theorem holdsTaken_freezeProperties
    (hfollow : ∀ v r, follow v = .ok r → HoldsTaken slot n v (r.result v))
    (ps : List (Property Validator)) {qs : List (Property Validator)}
    (h : freezeProperties slot follow (adoptProperties (some n) ps) = .ok qs) :
    HoldsTakenAny slot n Property.rule ps qs := by
  cases ps with
  | nil =>
    cases h
    exact .nil
  | cons p ps =>
    obtain ⟨key, label, rule⟩ := p
    simp only [adoptProperties, freezeProperties, Except.bind_eq_ok_iff,
      Except.pure_eq_ok_iff] at h
    obtain ⟨w, hw, qs, hqs, rfl⟩ := h
    exact .cons (holdsTaken_freeze hfollow rule hw) (holdsTaken_freezeProperties hfollow ps hqs)

end

/-- Alternatives are frozen one by one. -/
theorem freezeEach_eq_ok_iff {vs ws : List Validator} :
    freezeEach slot follow vs = .ok ws ↔
      List.Forall₂ (fun v w => freeze slot follow v = .ok w) vs ws := by
  induction vs generalizing ws with
  | nil => rw [List.forall₂_nil_left_iff, freezeEach, Except.ok.injEq, eq_comm]
  | cons v vs ih =>
    rw [List.forall₂_cons_left_iff]
    simp only [freezeEach, Except.bind_eq_ok_iff, Except.pure_eq_ok_iff, ih]
    constructor
    · rintro ⟨w, hw, ws, hws, rfl⟩
      exact ⟨w, ws, hw, hws, rfl⟩
    · rintro ⟨w, ws, hw, hws, rfl⟩
      exact ⟨w, hw, ws, hws, rfl⟩

/-- What stands under the keys of an object pattern is frozen one by one, and its identity is
forgotten. -/
theorem freezeProperties_eq_ok_iff {ps qs : List (Property Validator)} :
    freezeProperties slot follow ps = .ok qs ↔
      List.Forall₂ (fun p q => q.key = p.key ∧ q.label = none ∧
        freeze slot follow p.rule = .ok q.rule) ps qs := by
  induction ps generalizing qs with
  | nil => rw [List.forall₂_nil_left_iff, freezeProperties, Except.ok.injEq, eq_comm]
  | cons p ps ih =>
    obtain ⟨key, label, rule⟩ := p
    rw [List.forall₂_cons_left_iff]
    simp only [freezeProperties, Except.bind_eq_ok_iff, Except.pure_eq_ok_iff, ih]
    constructor
    · rintro ⟨w, hw, qs, hqs, rfl⟩
      exact ⟨⟨key, none, w⟩, qs, ⟨rfl, rfl, hw⟩, hqs, rfl⟩
    · rintro ⟨q, qs, hq, hqs, rfl⟩
      obtain ⟨key', label', w⟩ := q
      obtain ⟨rfl, rfl, hw⟩ := hq
      exact ⟨w, hw, qs, hqs, rfl⟩

/-- Freezing what was taken over keeps the keys. -/
theorem keys_freezeProperties {ps qs : List (Property Validator)}
    (h : freezeProperties slot follow (adoptProperties (some n) ps) = .ok qs) :
    qs.map (·.key) = ps.map (·.key) := by
  have hall := freezeProperties_eq_ok_iff.mp h
  rw [adoptProperties_eq_map, List.forall₂_map_left_iff] at hall
  have hkeys : List.Forall₂ (· = ·) (qs.map (·.key)) (ps.map (·.key)) :=
    List.forall₂_map_left_iff.mpr (List.forall₂_map_right_iff.mpr (hall.imp fun _ _ h => h.1).flip)
  rwa [List.forall₂_eq_eq_eq] at hkeys

/-- **An object pattern is rebound to one with the same keys.** -/
theorem exists_of_rebindTo_object {depth : Nat} {label : Option Label}
    {ps : List (Property Validator)} {r : Rebound Validator}
    (h : rebindTo slot n depth label (object ps) = .ok r) :
    ∃ qs, r.result (object ps) = object qs ∧ qs.map (·.key) = ps.map (·.key) := by
  cases depth with
  | zero => cases h
  | succ depth =>
    simp only [rebindTo, rebind, Except.bind_eq_ok_iff, Except.pure_eq_ok_iff] at h
    obtain ⟨r, hr, rfl⟩ := h
    have hfreeze : _ = freezeProperties slot (rebindTo slot n depth none)
        (adoptProperties (some n) ps) := rebindProperties_map_adopt label 0 ps
    rw [hr] at hfreeze
    refine ⟨r.result ps, Rebound.result_map object ps r, ?_⟩
    have hkeys : (adoptProperties none (r.result ps)).map (·.key) = ps.map (·.key) :=
      keys_freezeProperties hfreeze.symm
    rwa [adoptProperties_eq_map, List.map_map] at hkeys

/-- **The references of a rebound validator** are those of the original, those of no session made the
session's own. -/
theorem holds_rebindTo {depth : Nat} {label : Option Label} {v : Validator} {r : Rebound Validator}
    (h : rebindTo slot n depth label v = .ok r) : HoldsTaken slot n v (r.result v) := by
  induction depth generalizing label v r with
  | zero => cases h
  | succ depth ih =>
    have hfreeze : _ = freeze slot (rebindTo slot n depth none) (v.adopt (some n)) :=
      rebind_map_adopt label v
    rw [rebindTo] at h
    rw [h] at hfreeze
    intro session
    rw [← holds_adopt_none]
    exact holdsTaken_freeze (fun _ _ => ih) v hfreeze.symm session

/-- A rebound validator holds no references of no session. -/
theorem not_holds_none_rebindTo {depth : Nat} {label : Option Label} {v : Validator}
    {r : Rebound Validator} (h : rebindTo slot n depth label v = .ok r) :
    ¬ (r.result v).Holds slot none := by
  rw [holds_rebindTo h none]
  rintro ⟨own, -, hown⟩
  cases hown

end Conformance.Validator
