import Conformance.Value.Ordering
import Conformance.Proofs.Except

/-!
# Values that cannot be sorted

## Main statements

* `Value.exists_unordered_of_sort?` — sorting fails only where two of the values have no order
* `Value.exists_sort?_of_texts` — texts can always be sorted
-/

namespace Conformance.Value

theorem mem_of_mem_insertSorted {v : Value} {ws us : List Value} (h : insertSorted v ws = .ok us) :
    ∀ u ∈ us, u = v ∨ u ∈ ws := by
  induction ws generalizing us with
  | nil =>
    cases h
    simp
  | cons w ws ih =>
    rw [insertSorted] at h
    split at h
    · simp only [Except.bind_eq_ok_iff, Except.pure_eq_ok_iff] at h
      obtain ⟨us, hus, rfl⟩ := h
      refine List.forall_mem_cons.mpr ⟨.inr List.mem_cons_self, fun u hu => ?_⟩
      exact (ih hus u hu).imp_right (List.mem_cons_of_mem w)
    · cases h
      exact fun u hu => List.mem_cons.mp hu
    · cases h

/-- Sorting keeps to the values that are there. -/
theorem mem_of_mem_sort? {vs us : List Value} (h : sort? vs = .ok us) : ∀ u ∈ us, u ∈ vs := by
  induction vs generalizing us with
  | nil =>
    cases h
    exact fun u hu => hu
  | cons v vs ih =>
    obtain ⟨ws, hws, hus⟩ := Except.bind_eq_ok_iff.mp h
    intro u hu
    rcases mem_of_mem_insertSorted hus u hu with rfl | hu
    · exact List.mem_cons_self
    · exact List.mem_cons_of_mem v (ih hws u hu)

theorem exists_unordered_of_insertSorted {v : Value} {ws : List Value} {f : Fault}
    (h : insertSorted v ws = .error f) : f = .unordered ∧ ∃ w ∈ ws, order? w v = none := by
  induction ws with
  | nil => cases h
  | cons w ws ih =>
    rw [insertSorted] at h
    split at h
    · cases hrest : insertSorted v ws with
      | ok us =>
        rw [hrest] at h
        cases h
      | error f' =>
        rw [hrest] at h
        cases h
        obtain ⟨hf, u, hu, hnone⟩ := ih hrest
        exact ⟨hf, u, List.mem_cons_of_mem w hu, hnone⟩
    · cases h
    · next hnone =>
      cases h
      exact ⟨rfl, w, List.mem_cons_self, hnone⟩

/-- **Sorting fails** only where two of the values have no order. -/
theorem exists_unordered_of_sort? {vs : List Value} {f : Fault} (h : sort? vs = .error f) :
    f = .unordered ∧ ∃ v ∈ vs, ∃ w ∈ vs, order? v w = none := by
  induction vs with
  | nil => cases h
  | cons v vs ih =>
    rw [sort?] at h
    cases hrest : sort? vs with
    | error f' =>
      rw [hrest] at h
      cases h
      obtain ⟨hf, u, hu, w, hw, hnone⟩ := ih hrest
      exact ⟨hf, u, List.mem_cons_of_mem v hu, w, List.mem_cons_of_mem v hw, hnone⟩
    | ok us =>
      rw [hrest] at h
      obtain ⟨hf, u, hu, hnone⟩ := exists_unordered_of_insertSorted h
      exact ⟨hf, u, List.mem_cons_of_mem v (mem_of_mem_sort? hrest u hu), v, List.mem_cons_self, hnone⟩

/-- Texts can be sorted. -/
theorem exists_sort?_of_texts {vs : List Value} (h : ∀ v ∈ vs, ∃ s, v = .text s) :
    ∃ us, sort? vs = .ok us := by
  cases hsort : sort? vs with
  | ok us => exact ⟨us, rfl⟩
  | error f =>
    obtain ⟨-, v, hv, w, hw, hnone⟩ := exists_unordered_of_sort? hsort
    obtain ⟨s, rfl⟩ := h v hv
    obtain ⟨t, rfl⟩ := h w hw
    cases hnone

end Conformance.Value
