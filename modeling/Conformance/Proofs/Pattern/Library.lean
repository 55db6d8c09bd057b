import Conformance.Builder.Call
import Conformance.Proofs.Pattern.Portable
import Conformance.Proofs.Pattern.Structure
import Conformance.Proofs.Validator.Library

/-!
# Patterns that bring validators of the library with them

## Main statements

* `Pattern.ofLibrary_compile` — compiling makes validators of the library, if the pattern brings no
  others with it
* `Builder.ofLibrary_call` — so do the builders
-/

namespace Conformance

variable {slot : Nat → Slot} {session : Option Nat} {inOr : Bool}

/-! ## Compiling -/

namespace Pattern

/-- The rules that patterns without parts become are well formed. -/
theorem wellFormed_of_compileValue {v : Value} {rule : Leaf}
    (h : compileValue slot session inOr v = .ok (.leaf rule)) : rule.WellFormed := by
  unfold compileValue at h
  split at h
  · split at h <;> cases h
  all_goals first
    | cases h
      exact trivial
    | cases h

/-- **Compiling makes validators of the library**, if those that the pattern brings with it are. -/
theorem ofLibrary_compile {p : Pattern} (hp : ∀ w, p.Embeds slot w → w.OfLibrary slot) {v : Validator}
    (h : compile slot session inOr p = .ok v) : v.OfLibrary slot := by
  induction p using treeInduction generalizing v inOr with
  | value x =>
    rw [compile, Except.mapError_eq_ok_iff] at h
    rcases compileValue_eq_ok h with ⟨t, ht, rfl⟩ | rfl | ⟨rule, rfl⟩
    · exact .delegate fun handle hslot => hp _ (.target ht hslot)
    · exact .selfRef session
    · exact .leaf (wellFormed_of_compileValue h)
  | seq form tag items ih =>
    by_cases hliteral : inOr = true ∧ items.length = 1
    · obtain ⟨rfl, hlength⟩ := hliteral
      obtain ⟨item, rfl⟩ := List.length_eq_one_iff.mp hlength
      rw [compile_seq_singleton] at h
      cases h
      exact .leaf trivial
    · rw [compile_seq hliteral, Except.map_eq_ok_iff] at h
      obtain ⟨vs, hvs, rfl⟩ := h
      refine .anyOf fun w hw => ?_
      obtain ⟨item, hitem, hcompile⟩ := (compileEach_eq_ok_iff.mp hvs).exists_left hw
      exact ih item hitem (fun u hu => hp u (.item hitem hu)) hcompile
  | mapping form tag entries ih =>
    simp only [compile, Except.bind_eq_ok_iff, Except.pure_eq_ok_iff] at h
    obtain ⟨ps, hps, rfl⟩ := h
    refine .object fun q hq => ?_
    obtain ⟨e, he, hentry⟩ := (forall₂_of_compileEntries hps).exists_left hq
    exact ⟨hentry.key, ih e he (fun u hu => hp u (.entry he hu)) hentry.rule⟩
  | validator handle =>
    cases h
    exact hp _ (.validator handle)

end Pattern

/-! ## Builders -/

namespace Builder

/-- An array of what brings validators of the library with it is one. -/
theorem ofLibrary_array {args : List Pattern} {w : Validator}
    (hargs : ∀ p ∈ args.getLast?, ∀ u, p.Embeds slot u → u.OfLibrary slot)
    (h : array slot args = .ok w) : w.OfLibrary slot := by
  unfold array at h
  split at h
  · cases h
  · next p hlast =>
    by_cases hmany : 3 < args.length
    · rw [if_pos hmany] at h
      cases h
    · rw [if_neg hmany] at h
      simp only [Except.bind_eq_ok_iff, Except.pure_eq_ok_iff] at h
      obtain ⟨⟨least, most⟩, -, v, hv, rfl⟩ := h
      exact .arrayOf least most (Pattern.ofLibrary_compile (hargs p hlast) hv)

/-- **The builders make validators of the library**, from validators and patterns that are such. -/
theorem ofLibrary_call {settings : Settings} {v w : Validator} {name : String} {args : List Pattern}
    (hv : v.OfLibrary slot) (hargs : ∀ p ∈ args.getLast?, ∀ u, p.Embeds slot u → u.OfLibrary slot)
    (h : call slot settings v name args = .ok w) : w.OfLibrary slot := by
  have hlike : ∀ {x : Value}, sequenceLike x = .ok w → w.OfLibrary slot := by
    intro x hx
    unfold sequenceLike at hx
    split at hx <;> cases hx
    exact .leaf trivial
  unfold call at h
  split at h
  · split at h
    · obtain ⟨x, hx⟩ := exists_of_unary h
      obtain ⟨b, rfl, hpositive⟩ := exists_of_callNumber hv.wellFormed hx
      exact .leaf hpositive
    · cases h
  · simp only [Except.bind_eq_ok_iff, Except.pure_eq_ok_iff] at h
    obtain ⟨rule, hrule, rfl⟩ := h
    exact .leaf (portable_ofArguments hrule)
  · cases h
  · exact ofLibrary_array hargs h
  · cases h
  · obtain ⟨x, hx⟩ := exists_of_unary h
    exact hlike hx
  · obtain ⟨x, hx⟩ := exists_of_unary h
    exact hlike hx
  · obtain ⟨x, hx⟩ := exists_of_unary h
    cases hx
    exact .leaf trivial
  · obtain ⟨x, hx⟩ := exists_of_unary h
    unfold mappingLike at hx
    split at hx <;> cases hx
    exact .leaf trivial
  · obtain ⟨x, hx⟩ := exists_of_unary h
    unfold callableReference at hx
    split at hx <;> cases hx
    exact .leaf trivial
  · cases h

end Builder

end Conformance
