import Conformance.Regex.Compiled
import Mathlib.Data.List.TakeWhile

/-!
# Attempts that capture nothing

A tree without groups sets no bounds.  Then nothing that a failed attempt leaves behind matters for
the next one, an attempt is told by the verdict it ends with, and no match has a group that is crossed.

## Main Definitions

* `Regex.Attempt.Gives` — an attempt ends with a verdict and captures nothing

## Main statements

* `Regex.matchesAll?_of_gives` — matching a whole text, from the verdict of the attempt at its start
* `Regex.matchesAll?_set` — any number of characters of a set are the texts of these characters
-/

namespace Conformance.Regex

/-! ## Verdicts -/

/-- **An attempt ends with a verdict and captures nothing**, where nothing was captured before. -/
def Attempt.Gives (a : Attempt) (verdict : Bool) : Prop :=
  ∀ t : Trail, t.bounds = [] → ∃ t' : Trail, a.run t = (verdict, t') ∧ t'.bounds = []

/-- An attempt goes on from the trail that the part before it has left. -/
theorem run_bind_of_run {α : Type} {m : StateM Trail α} {f : α → Attempt} {t t' : Trail} {a : α}
    (h : m.run t = (a, t')) : (m >>= f).run t = (f a).run t' := by
  rw [StateT.run_bind, h]
  rfl

namespace Attempt.Gives

theorem pure (verdict : Bool) : Gives (Pure.pure verdict) verdict := fun t ht => ⟨t, rfl, ht⟩

theorem finish (p : Nat) : Gives (Attempt.finish p) true := fun t ht => ⟨t.note p, rfl, ht⟩

/-- An attempt that succeeds at some positions. -/
theorem atEnds (ends : Nat → Bool) (p : Nat) :
    Gives (if ends p then Attempt.finish p else Pure.pure false) (ends p) := by
  cases hends : ends p with
  | true => exact finish p
  | false => exact pure false

end Attempt.Gives

/-- **Matching a whole text** ends as the attempt at its start does.  Where there is less room than the
tree needs, nothing is tried and there is no match. -/
theorem matchesAll?_of_gives {r : Regex} {text : String} {verdict : Bool}
    (hroom : text.toList.length < r.tree.width.least → verdict = false)
    (h : (r.tree.run text.toList.toArray false .other 0 fun q =>
      if decide (q = text.toList.toArray.size) then Attempt.finish q else return false).Gives verdict) :
    r.matchesAll? text = .ok verdict := by
  obtain ⟨t, hrun, ht⟩ := h (.start 0) rfl
  unfold matchesAll? Node.matchWhole Node.matchAt
  dsimp only
  split
  · next hless =>
    rw [hroom (by simpa using hless)]
    rfl
  · rw [hrun]
    cases verdict with
    | false => rfl
    | true =>
      have hcrossed : t.isCrossed = false := by simp [Trail.isCrossed, ht]
      simp only [Regex.verdict, hcrossed, Bool.false_eq_true, if_false]

/-- Where matching does not end in a fault, it is told by whether there is a match. -/
theorem matchesAll_of_matchesAll? {r : Regex} {text : String} {matched : Bool}
    (h : r.matchesAll? text = .ok matched) : r.matchesAll text = matched := by
  unfold matchesAll? verdict at h
  unfold matchesAll
  cases hmatch : r.tree.matchWhole text with
  | none =>
    rw [hmatch] at h
    cases h
    rfl
  | some t =>
    rw [hmatch] at h
    dsimp only at h
    split at h
    · cases h
    · cases h
      rfl

/-! ## Any number of characters of a set -/

namespace Matcher

variable {text : Array Char} {inLoop : Bool} {set : CharSet} {k : Nat → Attempt} {ends : Nat → Bool}

/-- The characters of a set that stand one after another are the longest row of them. -/
theorem runLength_eq (limit p : Nat) : runLength text set limit p =
    (((text.toList.drop p).take limit).takeWhile set.contains).length := by
  induction limit generalizing p with
  | zero => rw [runLength, List.take_zero, List.takeWhile_nil, List.length_nil]
  | succ limit ih =>
    rw [runLength, ih]
    by_cases hp : p < text.size
    · have hdrop : text.toList.drop p = text[p] :: text.toList.drop (p + 1) := by
        rw [List.drop_eq_getElem_cons (by simpa using hp), Array.getElem_toList]
      rw [hdrop, List.take_succ_cons, List.takeWhile_cons, Array.getElem?_eq_getElem hp, Option.any_some]
      cases set.contains text[p] <;> simp
    · have hdrop : text.toList.drop p = [] := List.drop_eq_nil_of_le (by simpa using hp)
      rw [hdrop, Array.getElem?_eq_none (Nat.le_of_not_lt hp)]
      simp

/-- A try that fails leaves nothing behind. -/
theorem gives_tryAt {p : Nat} {verdict : Bool} (h : (k p).Gives verdict) :
    (tryAt text inLoop .other k p).Gives verdict := by
  intro t ht
  obtain ⟨t', hrun, ht'⟩ := h (t.note p) ht
  have hstep : (tryAt text inLoop .other k p).run t =
      if verdict then (true, t') else (false, t'.restore inLoop t.bounds) := by
    show (k p >>= fun done => if done then pure true else do
      modify (Trail.restore inLoop t.bounds)
      return false : Attempt).run (t.note p) = _
    rw [run_bind_of_run hrun]
    cases verdict <;> rfl
  cases verdict with
  | true => exact ⟨t', hstep, ht'⟩
  | false =>
    refine ⟨_, hstep, ?_⟩
    simpa [ht] using Trail.length_bounds_restore_le inLoop [] t'

/-- Positions are tried until one of them succeeds. -/
theorem gives_fewer (hk : ∀ q, (k q).Gives (ends q)) (p n : Nat) :
    (fewer text inLoop .other k p n).Gives ((List.range (n + 1)).any fun i => ends (p + i)) := by
  induction n with
  | zero => simpa [fewer] using gives_tryAt (hk p)
  | succ n ih =>
    have hlast : (tryAt text inLoop .other k (p + (n + 1))).Gives (ends (p + (n + 1))) :=
      gives_tryAt (hk (p + (n + 1)))
    intro t ht
    obtain ⟨t', hrun, ht'⟩ := hlast t ht
    rw [fewer, run_bind_of_run hrun, List.range_succ, List.any_append, List.any_cons, List.any_nil,
      Bool.or_false]
    cases ends (p + (n + 1)) with
    | true => exact ⟨t', by rw [Bool.or_true]; rfl, ht'⟩
    | false =>
      rw [Bool.or_false]
      exact ih t' ht'

/-- **As many characters of a set as there are, or fewer**: one of the positions within the row of them
succeeds. -/
theorem gives_greedyRun (hk : ∀ q, (k q).Gives (ends q)) {p : Nat} (hp : p ≤ text.size) :
    (greedyRun text inLoop .other set 0 none p k).Gives
      ((List.range ((text.toList.drop p).takeWhile set.contains).length.succ).any fun i =>
        ends (p + i)) := by
  intro t ht
  have hlength : runLength text set (text.size - p) p =
      ((text.toList.drop p).takeWhile set.contains).length := by
    rw [runLength_eq, List.take_of_length_le (by simp)]
  have hcount : (countRun text set (min (text.size - p) (text.size - p)) p).run t =
      (((text.toList.drop p).takeWhile set.contains).length,
        t.note (if set.folds then p + ((text.toList.drop p).takeWhile set.contains).length else p)) := by
    rw [Nat.min_self, ← hlength]
    rfl
  have hroom : ¬ text.size < p + 0 := by omega
  rw [greedyRun, if_neg hroom]
  dsimp only
  rw [Option.getD_none, run_bind_of_run hcount, if_neg (Nat.not_lt_zero _)]
  exact gives_fewer hk p _ _ ht

end Matcher

/-- The longest row of characters of a set reaches the end exactly if there are no other ones. -/
theorem any_end_eq_all (cs : List Char) (test : Char → Bool) :
    ((List.range (cs.takeWhile test).length.succ).any fun i => decide (0 + i = cs.length)) =
      cs.all test := by
  have hreach : (cs.takeWhile test).length = cs.length ↔ ∀ c ∈ cs, test c = true := by
    rw [← List.takeWhile_eq_self_iff]
    exact ⟨(List.takeWhile_prefix test).eq_of_length, congrArg List.length⟩
  have hle : (cs.takeWhile test).length ≤ cs.length := (List.takeWhile_prefix test).length_le
  rw [Bool.eq_iff_iff, List.all_eq_true, ← hreach, List.any_eq_true]
  constructor
  · rintro ⟨i, hi, hend⟩
    rw [List.mem_range] at hi
    rw [decide_eq_true_eq] at hend
    omega
  · intro hend
    exact ⟨cs.length, List.mem_range.mpr (by omega), by simp⟩

/-- **Any number of characters of a set**: the texts that hold no other ones. -/
theorem matchesAll?_set {r : Regex} {set : CharSet} (h : r.tree = .loop .greedy 0 none (.char set))
    (text : String) : r.matchesAll? text = .ok (text.toList.all set.contains) := by
  apply matchesAll?_of_gives
  · intro hless
    have hzero : r.tree.width.least = 0 := by simp [h, Node.width, Width.repeated, Width.capped]
    omega
  · rw [h, ← any_end_eq_all]
    exact Matcher.gives_greedyRun (Attempt.Gives.atEnds _) (Nat.zero_le _)

end Conformance.Regex
