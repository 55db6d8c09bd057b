import Conformance.Mismatch

/-!
# Paths, groups and messages

A finding lies at a path, and the findings of the alternatives of a failed choice lie at its path or
deeper.

## Main Definitions

* `Path.Extends`, `Path.Deeper` — paths that go on from a path
* `Mismatch.Within` — a mismatch at any depth in the groups of another
* `Mismatch.reason` — a mismatch as one of the reasons of a failed choice

## Main statements

* `Path.Extends.ne_iff` — a path that goes on from another is deeper unless it is the same
* `Mismatch.render_of_alternatives` — a failed choice gives the reasons of each alternative
-/

namespace Conformance

namespace Path

/-- **A path goes on from a path** by members and indices. -/
inductive Extends (path : String) : String → Prop where
  | self : Extends path path
  | member {p : String} (name : String) : Extends path p → Extends path (member p name)
  | index {p : String} (i : Nat) : Extends path p → Extends path (index p i)

/-- The path of a part, at least one member or index further on. -/
inductive Deeper (path : String) : String → Prop where
  | member {p : String} (name : String) : Extends path p → Deeper path (member p name)
  | index {p : String} (i : Nat) : Extends path p → Deeper path (index p i)

variable {p q r : String}

theorem Extends.trans (h : Extends p q) (h' : Extends q r) : Extends p r := by
  induction h' with
  | self => exact h
  | member name _ ih => exact .member name ih
  | index i _ ih => exact .index i ih

theorem length_lt_member (p name : String) : p.length < (member p name).length := by
  have hdot : ".".length = 1 := rfl
  simp only [member, String.length_append, hdot]
  omega

theorem length_lt_index (p : String) (i : Nat) : p.length < (index p i).length := by
  have hopening : "[".length = 1 := rfl
  simp only [index, String.length_append, hopening]
  omega

theorem Extends.length_le (h : Extends p q) : p.length ≤ q.length := by
  induction h with
  | self => exact Nat.le_refl _
  | member name _ ih => exact Nat.le_trans ih (Nat.le_of_lt (length_lt_member _ name))
  | index i _ ih => exact Nat.le_trans ih (Nat.le_of_lt (length_lt_index _ i))

/-- The path of a part is longer. -/
theorem Deeper.length_lt (h : Deeper p q) : p.length < q.length := by
  cases h with
  | member name h => exact Nat.lt_of_le_of_lt h.length_le (length_lt_member _ name)
  | index i h => exact Nat.lt_of_le_of_lt h.length_le (length_lt_index _ i)

/-- **A path that goes on from another is deeper** unless it is the same. -/
theorem Extends.ne_iff (h : Extends p q) : q ≠ p ↔ Deeper p q := by
  constructor
  · intro hne
    cases h with
    | self => exact absurd rfl hne
    | member name h => exact .member name h
    | index i h => exact .index i h
  · rintro hdeeper rfl
    exact Nat.lt_irrefl _ hdeeper.length_lt

end Path

namespace Mismatch

/-- **A mismatch at any depth of another**: it is the other, or within a group of it. -/
inductive Within (k : Mismatch) : Mismatch → Prop where
  | self : Within k k
  | group {m j : Mismatch} {group : List Mismatch} :
    group ∈ m.alternatives → j ∈ group → Within k j → Within k m

/-- A mismatch as one of the reasons of a choice that failed at a path. -/
def reason (path : String) (m : Mismatch) : String :=
  if m.path = path then m.render else m.path ++ ": " ++ m.render

theorem renderGroup_eq_map (path : String) (group : List Mismatch) :
    renderGroup path group = group.map (reason path) := by
  induction group with
  | nil => rfl
  | cons m group ih => rw [renderGroup, ih, List.map_cons, reason]

theorem renderGroups_eq_map (path : String) (groups : List (List Mismatch)) :
    renderGroups path groups =
      groups.map fun group => "(" ++ String.intercalate "; " (group.map (reason path)) ++ ")" := by
  induction groups with
  | nil => rfl
  | cons group groups ih => rw [renderGroups, ih, List.map_cons, renderGroup_eq_map]

/-- **A failed choice gives the reasons of each alternative**, in parentheses. -/
theorem render_of_alternatives {m : Mismatch} (h : m.alternatives ≠ []) :
    m.render = "none of the alternatives matched: " ++ String.intercalate " AND "
      (m.alternatives.map fun group =>
        "(" ++ String.intercalate "; " (group.map (reason m.path)) ++ ")") := by
  obtain ⟨path, rule, expected, actual, groups⟩ := m
  cases groups with
  | nil => exact absurd rfl h
  | cons group groups =>
    rw [render, renderGroups_eq_map]
    exact List.cons_ne_nil group groups

/-- Reasons begin with their path exactly where it is deeper than that of the choice. -/
theorem reason_of_extends {path : String} {m : Mismatch} (h : Path.Extends path m.path) :
    (m.path = path ∧ m.reason path = m.render) ∨
      (Path.Deeper path m.path ∧ m.reason path = m.path ++ ": " ++ m.render) := by
  by_cases heq : m.path = path
  · exact .inl ⟨heq, if_pos heq⟩
  · exact .inr ⟨h.ne_iff.mp heq, if_neg heq⟩

end Mismatch

end Conformance
