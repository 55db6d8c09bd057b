import Conformance.Proofs.Pattern.Recoverable
import Conformance.Proofs.Validator.Flagless

/-!
# Patterns whose regexes have no flags

## Main Definitions

* `Pattern.flagless` — a pattern whose regexes are read again without flags

## Main statements

* `Pattern.compile_flagless` — it is compiled to the validator of the pattern, without flags
* `Pattern.MadeOf.flagless_eq` — nothing changes if no regex was compiled with flags
-/

namespace Conformance

/-- A value that is a regex read again without flags, if it is one. -/
def Value.flagless : Value → Value
  | regex r => regex r.flagless
  | v => v

theorem Value.flagless_of_ne {v : Value} (h : ∀ r, v ≠ regex r) : v.flagless = v := by
  cases v with
  | regex r => exact absurd rfl (h r)
  | _ => rfl

namespace Pattern

mutual

/-- **A pattern whose regexes are read again without flags.**  A list of one item directly inside a list of
alternatives is a literal, and stays as it is. -/
def flagless (inOr : Bool) : Pattern → Pattern
  | value v => value v.flagless
  | seq form tag items =>
    seq form tag (if inOr = true ∧ items.length = 1 then items else flaglessEach items)
  | mapping form tag entries => mapping form tag (flaglessUnder entries)
  | validator h => validator ⟨h.label, h.validator.mapRules Leaf.flagless⟩

/-- `flagless` on every alternative. -/
def flaglessEach : List Pattern → List Pattern
  | [] => []
  | p :: ps => flagless true p :: flaglessEach ps

/-- `flagless` under every key. -/
def flaglessUnder : List (Value × Pattern) → List (Value × Pattern)
  | [] => []
  | (written, p) :: es => (written, flagless false p) :: flaglessUnder es

end

theorem flaglessEach_eq_map (ps : List Pattern) : flaglessEach ps = ps.map (flagless true) := by
  induction ps with
  | nil => rfl
  | cons p ps ih => rw [flaglessEach, ih, List.map_cons]

theorem flaglessUnder_eq_map (es : List (Value × Pattern)) :
    flaglessUnder es = es.map fun e => (e.1, e.2.flagless false) := by
  induction es with
  | nil => rfl
  | cons e es ih =>
    rw [flaglessUnder, ih, List.map_cons]

/-! ## Compiling -/

variable {slot : Nat → Slot} {session : Option Nat} {inOr : Bool}

/-- Values that are no regexes are compiled to something that has no flags. -/
theorem mapRules_of_compileValue {v : Value} {u : Validator} (hv : ∀ r, v ≠ .regex r)
    (h : compileValue slot session inOr v = .ok u) : u.mapRules Leaf.flagless = u := by
  unfold compileValue at h
  split at h
  · split at h <;> cases h
    rfl
  · cases h
    rfl
  · cases h
    rfl
  · cases h
    rfl
  · cases h
    rfl
  · exact absurd rfl (hv _)
  · cases h
    rfl
  · cases h
    rfl
  · cases h
    rfl
  · cases h

/-- A value is compiled to a rule without flags. -/
theorem compileValue_flagless {v : Value} {u : Validator}
    (h : compileValue slot session inOr v = .ok u) :
    compileValue slot session inOr v.flagless = .ok (u.mapRules Leaf.flagless) := by
  by_cases hregex : ∃ r, v = .regex r
  · obtain ⟨r, rfl⟩ := hregex
    cases h
    rfl
  · have hv : ∀ r, v ≠ .regex r := fun r hr => hregex ⟨r, hr⟩
    rw [mapRules_of_compileValue hv h, Value.flagless_of_ne hv, h]

/-- What stands under the keys is compiled one by one. -/
theorem compileEntries_flagless {es : List (Value × Pattern)} {qs : List (Property Validator)}
    (ih : ∀ e ∈ es, ∀ u, compile slot session false e.2 = .ok u →
      compile slot session false (e.2.flagless false) = .ok (u.mapRules Leaf.flagless))
    (h : compileEntries slot session es = .ok qs) :
    compileEntries slot session (flaglessUnder es) =
      .ok (qs.map (Property.map (Validator.mapRules Leaf.flagless))) := by
  induction es generalizing qs with
  | nil =>
    cases h
    rfl
  | cons e es ihes =>
    obtain ⟨written, p⟩ := e
    obtain ⟨hp, hes⟩ := List.forall_mem_cons.mp ih
    have hlabel : (p.flagless false).label? = p.label? := by cases p <;> rfl
    simp only [compileEntries, Except.bind_eq_ok_iff, Except.pure_eq_ok_iff] at h
    obtain ⟨⟨quantifier, source⟩, hsplit, u, hu, key, hkey, rest, hrest, rfl⟩ := h
    dsimp only at hkey
    simp only [flaglessUnder, compileEntries, hsplit, hp u hu, hkey, ihes hes hrest, hlabel,
      Except.ok_bind]
    rfl

/-- **A pattern without flags is compiled to the validator of the pattern, without flags.** -/
theorem compile_flagless {p : Pattern} {u : Validator} (h : p.compile slot session inOr = .ok u) :
    (p.flagless inOr).compile slot session inOr = .ok (u.mapRules Leaf.flagless) := by
  induction p using treeInduction generalizing u inOr with
  | value v =>
    rw [compile, Except.mapError_eq_ok_iff] at h
    rw [flagless, compile, compileValue_flagless h]
    rfl
  | seq form tag items ih =>
    by_cases hliteral : inOr = true ∧ items.length = 1
    · rw [flagless, if_pos hliteral]
      obtain ⟨rfl, hlength⟩ := hliteral
      obtain ⟨item, rfl⟩ := List.length_eq_one_iff.mp hlength
      rw [compile_seq_singleton] at h ⊢
      cases h
      rfl
    · have hliteral' : ¬ (inOr = true ∧ (flaglessEach items).length = 1) := by
        rwa [flaglessEach_eq_map, List.length_map]
      rw [compile_seq hliteral, Except.map_eq_ok_iff] at h
      obtain ⟨us, hus, rfl⟩ := h
      have heach : compileEach slot session (flaglessEach items) =
          .ok (us.map (Validator.mapRules Leaf.flagless)) := by
        rw [flaglessEach_eq_map, compileEach_eq_ok_iff]
        refine List.forall₂_map_left_iff.mpr (List.forall₂_map_right_iff.mpr ?_)
        refine ((List.forall₂_and_left _ _).mpr ⟨ih, compileEach_eq_ok_iff.mp hus⟩).imp ?_
        rintro p u ⟨ihp, hu⟩
        exact ihp hu
      rw [flagless, if_neg hliteral, compile_seq hliteral', heach, Validator.mapRules,
        Validator.mapRulesEach_eq_map]
      rfl
  | mapping form tag entries ih =>
    simp only [compile, Except.bind_eq_ok_iff, Except.pure_eq_ok_iff] at h
    obtain ⟨qs, hqs, rfl⟩ := h
    rw [flagless, compile, compileEntries_flagless (fun e he u => ih e he) hqs, Except.ok_bind,
      Validator.mapRules, Validator.mapRulesUnder_eq_map]
    rfl
  | validator g =>
    cases h
    rfl

/-! ## Patterns without flags -/

/-- **Nothing changes** if no regex was compiled with flags. -/
theorem MadeOf.flagless_eq {p : Pattern} (h : p.MadeOf (fun rule => rule.flagless = rule) inOr) :
    p.flagless inOr = p := by
  induction h with
  | @value inOr v hv =>
    cases v with
    | regex r =>
      have hr : r.flagless = r := Leaf.regex.inj hv
      rw [flagless, Value.flagless, hr]
    | _ => rfl
  | literal form tag item =>
    rw [flagless, if_pos ⟨rfl, rfl⟩]
  | @seq inOr form tag items _ hplace _ ih =>
    rw [flagless, if_neg hplace, flaglessEach_eq_map]
    exact congrArg (Pattern.seq form tag) ((List.map_congr_left ih).trans (List.map_id items))
  | @mapping inOr form tag entries keys _ _ _ _ ih =>
    have hsame : ∀ e ∈ entries, (e.1, e.2.flagless false) = id e :=
      fun e he => congrArg (Prod.mk e.1) (ih e he)
    rw [flagless, flaglessUnder_eq_map, List.map_congr_left hsame, List.map_id]
  | validator hv => rw [flagless, hv.mapRules_eq]

end Pattern

end Conformance
