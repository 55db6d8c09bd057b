import Conformance.Proofs.Validator.Absence
import Conformance.Proofs.Validator.Describing
import Conformance.Proofs.Validator.Recoverable

/-!
# Validators of the library

A tree can be written down that no call makes: with steps that are not positive, with keys that nothing
reads, or around a validator that the host has made.  The validators that the library makes are free of
these, and stay so when a session takes their references over.

## Main Definitions

* `Leaf.WellFormed`, `Validator.WellFormed` — rules and validators as the library makes them, what lies
  below them left out
* `Validator.OfLibrary` — a validator that is well formed all the way down, live delegates included

## Main statements

* `Validator.OfLibrary.rebindTo` — rebinding keeps validators of the library such
* `Env.succeeds_describeTo_of_rebindTo` — what can be rebound can be described, and so can the copy
-/

namespace Conformance

/-- **A rule as the builders make it**: steps are positive, and string rules are those of their own
character set and lengths. -/
def Leaf.WellFormed : Leaf → Prop
  | number b => b.steps.all Num.isPositive = true
  | stringOf rule =>
    rule.charset ≠ "" ∧ CharsetRule.make rule.charset rule.least rule.most = .ok rule
  | _ => True

/-- What can be read back is well formed. -/
theorem Leaf.Recoverable.wellFormed {rule : Leaf} (h : rule.Recoverable) : rule.WellFormed := by
  cases rule with
  | number b => exact h
  | stringOf rule => exact h
  | _ => trivial

namespace Validator

/-- **A validator as the library makes it**, what lies below it left out: the rules are well formed, the
keys of an object pattern are read from their written forms, and the host has no part in it. -/
def WellFormed : Validator → Prop
  | leaf rule => rule.WellFormed
  | object ps => ∀ p ∈ ps, Key.ofWritten p.key.written = .ok p.key
  | external _ => False
  | _ => True

/-- **A validator of the library**: well formed all the way down its tree and behind live delegates. -/
def OfLibrary (slot : Nat → Slot) (v : Validator) : Prop :=
  ∀ w, Relation.ReflTransGen (Linked slot) v w → w.WellFormed

variable {slot : Nat → Slot} {n : Nat} {v w : Validator}

/-! ## Validators and their parts -/

/-- What is well formed, and has validators of the library directly below it, is one itself. -/
theorem ofLibrary_iff :
    v.OfLibrary slot ↔ v.WellFormed ∧ ∀ w, v.Linked slot w → w.OfLibrary slot := by
  constructor
  · exact fun h => ⟨h v .refl, fun w hw u hu => h u (.head hw hu)⟩
  · rintro ⟨hv, hbelow⟩ u hu
    rcases Relation.ReflTransGen.cases_head_iff.mp hu with rfl | ⟨w, hw, hu⟩
    · exact hv
    · exact hbelow w hw u hu

namespace OfLibrary

theorem wellFormed (h : v.OfLibrary slot) : v.WellFormed := h v .refl

theorem linked (h : v.OfLibrary slot) (hw : v.Linked slot w) : w.OfLibrary slot :=
  (ofLibrary_iff.mp h).2 w hw

theorem part (h : v.OfLibrary slot) (hw : v.Part w) : w.OfLibrary slot := h.linked (.part hw)

theorem leaf {rule : Leaf} (h : rule.WellFormed) : (Validator.leaf rule).OfLibrary slot := by
  refine ofLibrary_iff.mpr ⟨h, ?_⟩
  rintro w ⟨⟨⟩⟩

theorem delegate {t : Target} (h : ∀ handle, slot t.id = .validator handle →
    handle.validator.OfLibrary slot) : (Validator.delegate t).OfLibrary slot := by
  refine ofLibrary_iff.mpr ⟨trivial, ?_⟩
  rintro w (⟨⟨⟩⟩ | hslot)
  exact h _ hslot

theorem delegateTo (t : Target) (h : v.OfLibrary slot) :
    (Validator.delegateTo t v).OfLibrary slot := by
  refine ofLibrary_iff.mpr ⟨trivial, ?_⟩
  rintro w ⟨⟨⟩⟩
  exact h

theorem anyOf {vs : List Validator} (h : ∀ v ∈ vs, v.OfLibrary slot) :
    (Validator.anyOf vs).OfLibrary slot := by
  refine ofLibrary_iff.mpr ⟨trivial, ?_⟩
  rintro w ⟨_ | hw⟩
  exact h w hw

theorem object {ps : List (Property Validator)}
    (h : ∀ p ∈ ps, Key.ofWritten p.key.written = .ok p.key ∧ p.rule.OfLibrary slot) :
    (Validator.object ps).OfLibrary slot := by
  refine ofLibrary_iff.mpr ⟨fun p hp => (h p hp).1, ?_⟩
  rintro w ⟨_ | _ | hp⟩
  exact (h _ hp).2

theorem arrayOf (least : Nat) (most : Option Nat) (h : v.OfLibrary slot) :
    (Validator.arrayOf v least most).OfLibrary slot := by
  refine ofLibrary_iff.mpr ⟨trivial, ?_⟩
  rintro w ⟨⟨⟩⟩
  exact h

theorem selfRef (session : Option Nat) : (Validator.selfRef session).OfLibrary slot := by
  refine ofLibrary_iff.mpr ⟨trivial, ?_⟩
  rintro w ⟨⟨⟩⟩

end OfLibrary

/-- What is made of well-formed rules is a validator of the library. -/
theorem MadeOf.ofLibrary {good : Leaf → Prop} {kept : Key → Validator → Prop} (h : v.MadeOf good kept)
    (hgood : ∀ rule, good rule → rule.WellFormed) : v.OfLibrary slot := by
  induction h with
  | leaf hrule => exact .leaf (hgood _ hrule)
  | anyOf _ _ ih => exact .anyOf ih
  | object hkeys _ _ ih => exact .object fun p hp => ⟨(hkeys p hp).1, ih p hp⟩
  | arrayOf least most _ ih => exact .arrayOf least most ih
  | selfRef => exact .selfRef none

/-- What can be told in full is a validator of the library. -/
theorem Portable.ofLibrary (h : v.Portable) : v.OfLibrary slot :=
  h.madeOf.ofLibrary fun _ hrule => hrule.recoverable.wellFormed

/-- Which session references belong to, and which identities parts keep, is of no account. -/
theorem ofLibrary_adopt (session : Option Nat) :
    (v.adopt session).OfLibrary slot ↔ v.OfLibrary slot := by
  induction v using treeInduction with
  | leaf rule => rw [adopt]
  | delegate t => rw [adopt]
  | delegateTo t copy ih =>
    rw [adopt]
    constructor
    · exact fun h => .delegateTo t (ih.mp (h.part (.copy t _)))
    · exact fun h => .delegateTo t (ih.mpr (h.part (.copy t copy)))
  | anyOf vs ih =>
    rw [adopt, adoptEach_eq_map]
    constructor
    · exact fun h => .anyOf fun v hv =>
        (ih v hv).mp (h.part (.alternative (List.mem_map_of_mem hv)))
    · exact fun h => .anyOf (List.forall_mem_map.mpr fun v hv =>
        (ih v hv).mpr (h.part (.alternative hv)))
  | object ps ih =>
    rw [adopt, adoptProperties_eq_map]
    constructor
    · intro h
      refine .object fun p hp => ?_
      have hp' : (p.map (Validator.adopt session)).bare ∈
          ps.map fun p => (p.map (Validator.adopt session)).bare := List.mem_map_of_mem hp
      have hkey := h.wellFormed _ hp'
      exact ⟨hkey, (ih p hp).mp (h.part (.property hp'))⟩
    · exact fun h => .object (List.forall_mem_map.mpr fun p hp =>
        ⟨h.wellFormed p hp, (ih p hp).mpr (h.part (.property hp))⟩)
  | arrayOf items least most ih =>
    rw [adopt]
    constructor
    · exact fun h => .arrayOf least most (ih.mp (h.part (.element _ least most)))
    · exact fun h => .arrayOf least most (ih.mpr (h.part (.element items least most)))
  | selfRef own => cases own <;> exact iff_of_true (.selfRef _) (.selfRef _)
  | external e => rw [adopt]

/-! ## Rebinding -/

section Freeze

variable {follow : Validator → Except Fault (Rebound Validator)}

/-- Freezing the delegates of a validator of the library makes another one, as long as this is so for
what they stand for. -/
theorem OfLibrary.freeze
    (hfollow : ∀ v r, follow v = .ok r → v.OfLibrary slot → (r.result v).OfLibrary slot)
    (hv : v.OfLibrary slot) (h : freeze slot follow v = .ok w) : w.OfLibrary slot := by
  induction v using treeInduction generalizing w with
  | leaf rule =>
    cases h
    exact hv
  | delegate t =>
    rw [Validator.freeze] at h
    cases hslot : slot t.id with
    | validator handle =>
      simp only [hslot, Except.bind_eq_ok_iff, Except.pure_eq_ok_iff] at h
      obtain ⟨r, hr, rfl⟩ := h
      have hresult := hfollow handle.validator r hr (hv.linked (.live hslot))
      cases hcopy : r.copy with
      | none => exact hv
      | some copy =>
        rw [Rebound.result, hcopy, Option.getD_some] at hresult
        exact .delegateTo t ((ofLibrary_adopt none).mpr hresult)
    | _ =>
      rw [hslot] at h
      cases h
      exact hv
  | delegateTo t copy ih =>
    simp only [Validator.freeze, Except.bind_eq_ok_iff, Except.pure_eq_ok_iff] at h
    obtain ⟨w, hw, rfl⟩ := h
    exact .delegateTo t (ih (hv.part (.copy t copy)) hw)
  | anyOf vs ih =>
    simp only [Validator.freeze, Except.bind_eq_ok_iff, Except.pure_eq_ok_iff] at h
    obtain ⟨ws, hws, rfl⟩ := h
    refine .anyOf fun w hw => ?_
    obtain ⟨v, hmem, hfrozen⟩ := (freezeEach_eq_ok_iff.mp hws).exists_left hw
    exact ih v hmem (hv.part (.alternative hmem)) hfrozen
  | object ps ih =>
    simp only [Validator.freeze, Except.bind_eq_ok_iff, Except.pure_eq_ok_iff] at h
    obtain ⟨qs, hqs, rfl⟩ := h
    refine .object fun q hq => ?_
    obtain ⟨p, hmem, hkey, -, hfrozen⟩ := (freezeProperties_eq_ok_iff.mp hqs).exists_left hq
    rw [hkey]
    exact ⟨hv.wellFormed p hmem, ih p hmem (hv.part (.property hmem)) hfrozen⟩
  | arrayOf items least most ih =>
    simp only [Validator.freeze, Except.bind_eq_ok_iff, Except.pure_eq_ok_iff] at h
    obtain ⟨w, hw, rfl⟩ := h
    exact .arrayOf least most (ih (hv.part (.element items least most)) hw)
  | selfRef own =>
    cases h
    exact hv
  | external e =>
    cases h
    exact hv

end Freeze

/-- What rebinding makes of a validator, without identities, is what freezing makes of it. -/
theorem freeze_of_rebindTo {depth : Nat} {label : Option Label} {r : Rebound Validator}
    (h : rebindTo slot n (depth + 1) label v = .ok r) :
    freeze slot (rebindTo slot n depth none) (v.adopt (some n)) = .ok ((r.result v).adopt none) := by
  rw [← rebind_map_adopt label v, show rebind slot n (rebindTo slot n depth none) label v = .ok r from h]
  rfl

/-- **A session that takes a validator of the library in works on another one.** -/
theorem OfLibrary.rebindTo {depth : Nat} {label : Option Label} {r : Rebound Validator}
    (hv : v.OfLibrary slot) (h : rebindTo slot n depth label v = .ok r) :
    (r.result v).OfLibrary slot := by
  induction depth generalizing label v r with
  | zero => cases h
  | succ depth ih =>
    refine (ofLibrary_adopt none).mp ?_
    exact .freeze (fun _ _ hr hu => ih hu hr) ((ofLibrary_adopt (some n)).mpr hv)
      (freeze_of_rebindTo h)

end Validator

/-! ## Descriptors of what can be rebound -/

/-- A walk ends with a result. -/
def Walk.Succeeds {α : Type} (w : Walk α) : Prop := ∃ a, w.outcome = .ok a

namespace Walk.Succeeds

variable {α β : Type}

theorem bind {w : Walk α} {f : α → Walk β} (hw : w.Succeeds) (hf : ∀ a, (f a).Succeeds) :
    (w >>= f).Succeeds := by
  obtain ⟨a, ha⟩ := hw
  obtain ⟨b, hb⟩ := hf a
  exact ⟨b, by rw [outcome_bind_of_ok ha, hb]⟩

theorem pure (a : α) : (Pure.pure a : Walk α).Succeeds := ⟨a, rfl⟩

end Walk.Succeeds

namespace Validator

variable {env : Env} {absent : Key → Validator → Walk Bool} {follow : Validator → Walk Value}

/-- Alternatives are described if each is. -/
theorem succeeds_describeEach {vs : List Validator}
    (h : ∀ v ∈ vs, (v.describe env absent follow).Succeeds) :
    (describeEach env absent follow vs).Succeeds := by
  obtain ⟨nodes, hnodes⟩ := List.Forall₂.exists_of_forall h
  exact ⟨nodes, describeEach_eq_ok_iff.mpr hnodes⟩

/-- Keys are described if what stands under each is, and there is always an answer about absence. -/
theorem succeeds_describeProperties (habsent : ∀ k u, (absent k u).Succeeds)
    {ps : List (Property Validator)} (h : ∀ p ∈ ps, (p.rule.describe env absent follow).Succeeds) :
    (describeProperties env absent follow ps).Succeeds := by
  have hds : ∀ p ∈ ps, ∃ d, p.DescribedBy env absent follow d := by
    intro p hp
    obtain ⟨node, hnode⟩ := h p hp
    exact ⟨_, p.describedBy hnode⟩
  obtain ⟨ds, hds⟩ := List.Forall₂.exists_of_forall hds
  exact ⟨ds, (describeProperties_eq_ok_iff habsent).mpr hds⟩

/-- **Where freezing comes to an end, so does describing**, of what is frozen and of what is left, as long
as this is so behind the delegates. -/
theorem succeeds_describe_of_freeze {follow' : Validator → Except Fault (Rebound Validator)} {n : Nat}
    (habsent : ∀ k u, (absent k u).Succeeds)
    (hfollow : ∀ u r, follow' u = .ok r →
      (follow u).Succeeds ∧ (((r.result u).adopt none).describe env absent follow).Succeeds)
    {v w : Validator} (h : freeze env.slot follow' (v.adopt (some n)) = .ok w) :
    (v.describe env absent follow).Succeeds ∧ (w.describe env absent follow).Succeeds := by
  induction v using treeInduction generalizing w with
  | leaf rule =>
    cases h
    exact ⟨.pure _, .pure _⟩
  | delegate t =>
    rw [adopt, freeze] at h
    cases hslot : env.slot t.id with
    | validator handle =>
      simp only [hslot, Except.bind_eq_ok_iff, Except.pure_eq_ok_iff] at h
      obtain ⟨r, hr, rfl⟩ := h
      obtain ⟨hlive, hcopied⟩ := hfollow handle.validator r hr
      have hdelegate : ((delegate t).describe env absent follow).Succeeds := by
        rw [describe, hslot]
        exact hlive
      cases hcopy : r.copy with
      | none => exact ⟨hdelegate, hdelegate⟩
      | some copy =>
        rw [Rebound.result, hcopy, Option.getD_some] at hcopied
        exact ⟨hdelegate, hcopied⟩
    | _ =>
      rw [hslot] at h
      cases h
      rw [describe, hslot]
      exact ⟨.pure _, .pure _⟩
  | delegateTo t copy ih =>
    simp only [adopt, freeze, Except.bind_eq_ok_iff, Except.pure_eq_ok_iff] at h
    obtain ⟨w, hw, rfl⟩ := h
    exact ih (w := w) hw
  | anyOf vs ih =>
    simp only [adopt, freeze, Except.bind_eq_ok_iff, Except.pure_eq_ok_iff] at h
    obtain ⟨ws, hws, rfl⟩ := h
    have hall := freezeEach_eq_ok_iff.mp hws
    rw [adoptEach_eq_map, List.forall₂_map_left_iff] at hall
    constructor
    · refine (succeeds_describeEach fun v hv => ?_).bind fun _ => .pure _
      obtain ⟨w, -, hw⟩ := hall.exists_right hv
      exact (ih v hv hw).1
    · refine (succeeds_describeEach fun w hw => ?_).bind fun _ => .pure _
      obtain ⟨v, hv, hw⟩ := hall.exists_left hw
      exact (ih v hv hw).2
  | object ps ih =>
    simp only [adopt, freeze, Except.bind_eq_ok_iff, Except.pure_eq_ok_iff] at h
    obtain ⟨qs, hqs, rfl⟩ := h
    have hall := freezeProperties_eq_ok_iff.mp hqs
    rw [adoptProperties_eq_map, List.forall₂_map_left_iff] at hall
    constructor
    · refine (succeeds_describeProperties habsent fun p hp => ?_).bind fun _ => .pure _
      obtain ⟨q, -, -, -, hq⟩ := hall.exists_right hp
      exact (ih p hp hq).1
    · refine (succeeds_describeProperties habsent fun q hq => ?_).bind fun _ => .pure _
      obtain ⟨p, hp, -, -, hq⟩ := hall.exists_left hq
      exact (ih p hp hq).2
  | arrayOf items least most ih =>
    simp only [adopt, freeze, Except.bind_eq_ok_iff, Except.pure_eq_ok_iff] at h
    obtain ⟨w, hw, rfl⟩ := h
    obtain ⟨hitems, hfrozen⟩ := ih hw
    exact ⟨hitems.bind fun _ => .pure _, hfrozen.bind fun _ => .pure _⟩
  | selfRef own => cases own <;> cases h <;> exact ⟨.pure _, .pure _⟩
  | external e =>
    cases h
    exact ⟨.pure _, .pure _⟩

end Validator

namespace Env

variable {env : Env}

/-- **What can be rebound can be described**, and so can what rebinding makes of it, also where more
delegates may lead to one another. -/
theorem succeeds_describeTo_of_rebindTo {n depth : Nat} {label : Option Label} {v : Validator}
    {r : Rebound Validator} (h : Validator.rebindTo env.slot n depth label v = .ok r) {limit : Nat}
    (hlimit : depth ≤ limit) :
    (env.describeTo limit v).Succeeds ∧ (env.describeTo limit (r.result v)).Succeeds := by
  induction depth generalizing label v r limit with
  | zero => cases h
  | succ depth ih =>
    obtain ⟨limit, rfl⟩ : ∃ m, limit = m + 1 := ⟨limit - 1, by omega⟩
    rw [← describeTo_adopt_none (limit + 1) (r.result v)]
    refine Validator.succeeds_describe_of_freeze (exists_admitsAbsence env) (fun u r hr => ?_)
      (Validator.freeze_of_rebindTo h)
    refine ⟨(ih hr (Nat.le_of_succ_le_succ hlimit)).1, ?_⟩
    -- what was copied stands in the tree now, where one delegate less leads to it
    have hcopied := (ih hr (Nat.le_trans (Nat.le_of_succ_le_succ hlimit) (Nat.le_succ limit))).2
    rwa [← describeTo_adopt_none] at hcopied

end Env

end Conformance
