import Conformance.Proofs.Validator.Places

/-!
# Reports are well formed at every depth

Every mismatch lies at the path where the walk began or further on.  A failed choice holds one group for
each of its alternatives, which is what the alternative notes on its own at the place of the choice, so
that the same is true of the mismatches in its groups.

## Main Definitions

* `Env.ReportsChoice` — a mismatch that reports a failed choice with all its alternatives

## Main statements

* `Explain.groups_eq` — the groups of a failed choice are what its alternatives note
* `Env.Noted.reportsChoice` — the mismatch of a choice reports it with all its alternatives
* `Env.explain_wellFormed` — this holds at every depth of every report
-/

namespace Conformance

open Walk

/-- **The groups of a failed choice** are what its alternatives note, none of which accepts. -/
theorem Explain.groups_eq {vs : List Validator} {named : Validator → Named} {x : Value} {path : String}
    {groups : List (List Mismatch)} (htells : ∀ w ∈ vs, ((named w).check x path).Tells)
    (h : (Explain.groups x path (vs.map named)).outcome = .ok (some groups)) :
    groups = vs.map (fun w => ((named w).check x path).found) ∧
      ∀ w ∈ vs, ((named w).check x path).outcome = .ok false := by
  induction vs generalizing groups with
  | nil =>
    cases h
    exact ⟨rfl, by simp⟩
  | cons w vs ih =>
    obtain ⟨hw, hvs⟩ := List.forall_mem_cons.mp htells
    obtain ⟨⟨accepted, found⟩, haside, hrest⟩ := bind_eq_ok_iff.mp h
    obtain ⟨hfirst, rfl⟩ := aside_eq_ok_iff.mp haside
    cases accepted with
    | true => cases hrest
    | false =>
      obtain ⟨r, hr, hgroups⟩ := bind_eq_ok_iff.mp hrest
      cases r with
      | none => cases hgroups
      | some rest =>
        obtain ⟨rfl, hfailed⟩ := ih hvs hr
        refine ⟨?_, List.forall_mem_cons.mpr ⟨hfirst, hfailed⟩⟩
        -- no group is empty, so none is replaced by the name of its alternative
        have hfound : ((named w).check x path).found.isEmpty = false := by
          simpa using hw.refused hfirst
        rw [hfound] at hgroups
        exact (Option.some.inj (Except.ok.inj hgroups)).symm

namespace Env

variable {env : Env} {a b : Place} {m k : Mismatch}

/-- **A mismatch reports a failed choice** at a place, with one group for each alternative. -/
structure ReportsChoice (env : Env) (a : Place) (vs : List Validator) (k : Mismatch) : Prop where
  validator : a.validator = .anyOf vs
  path : k.path = a.path
  rule : k.rule = "any_of"
  expected : k.expected = (Validator.anyOf vs).name
  actual : k.actual = a.value.represent
  /-- The groups are what the alternatives note, in their order. -/
  groups : k.alternatives = vs.map fun w => (env.explain a.depth w a.value a.path).found
  /-- Every alternative fails. -/
  failed : ∀ w ∈ vs, (env.explain a.depth w a.value a.path).outcome = .ok false
  nonempty : ∀ group ∈ k.alternatives, group ≠ []
  paths : ∀ group ∈ k.alternatives, ∀ j ∈ group, Path.Extends k.path j.path

/-- The message of a failed choice gives a reason for each alternative. -/
theorem ReportsChoice.render {vs : List Validator} (h : env.ReportsChoice a vs k) (hne : vs ≠ []) :
    k.render = "none of the alternatives matched: " ++ String.intercalate " AND " (vs.map fun w =>
      "(" ++ String.intercalate "; "
        ((env.explain a.depth w a.value a.path).found.map (Mismatch.reason k.path)) ++ ")") := by
  have halternatives : k.alternatives ≠ [] := by
    rw [h.groups]
    simpa using hne
  rw [Mismatch.render_of_alternatives halternatives, h.groups, List.map_map]
  rfl

/-- **One step**: what is noted at a place itself reports a failed choice, or has no groups. -/
theorem Noted.reportsChoice (hfree : env.HostFree a.validator) (h : env.Noted a m) :
    (∃ vs, env.ReportsChoice a vs m) ∨ (m.rule ≠ "any_of" ∧ m.alternatives = []) := by
  cases h with
  | failure hpath hrule halternatives => exact .inr ⟨hrule, halternatives⟩
  | @choice vs groups hv hgroups =>
    have htells : ∀ w ∈ vs, (env.explain a.depth w a.value a.path).Tells := by
      intro w hw
      rw [hv] at hfree
      exact env.explain_tells a.depth (hfree.part (.alternative hw)) a.value a.path
    obtain ⟨rfl, hfailed⟩ := Explain.groups_eq htells hgroups
    left
    refine ⟨vs, hv, rfl, rfl, rfl, rfl, rfl, hfailed, ?_, ?_⟩
    · intro group hgroup
      obtain ⟨w, hw, rfl⟩ := List.mem_map.mp hgroup
      exact (htells w hw).refused (hfailed w hw)
    · intro group hgroup j hj
      obtain ⟨w, hw, rfl⟩ := List.mem_map.mp hgroup
      exact extends_of_mem_found (a := ⟨a.depth, w, a.value, a.path⟩) hj

theorem HostFree.visits (hfree : env.HostFree a.validator) (h : env.Visits a b) :
    env.HostFree b.validator := by
  induction h with
  | refl => exact hfree
  | tail _ hstep ih => exact ih.next (hstep.elim Enters.next Tries.next)

/-- **All steps, at every depth of the report.** -/
theorem reported_within (hfree : env.HostFree a.validator) (hm : m ∈ (env.walk a).found)
    (hk : k.Within m) :
    ∃ b, env.Visits a b ∧ env.Noted b k := by
  induction a using placeInduction env generalizing m with
  | step a ihenters ihtries =>
    rcases (env.walk_accounts a).noted m hm with hnoted | ⟨b, hstep, hm⟩
    · cases hk with
      | self => exact ⟨a, .refl, hnoted⟩
      | @group _ j group hgroup hj hk =>
        rcases hnoted.reportsChoice hfree with ⟨vs, hchoice⟩ | ⟨-, hnone⟩
        · obtain ⟨hv, -, -, -, -, hgroups, -⟩ := hchoice
          rw [hgroups] at hgroup
          obtain ⟨w, hw, rfl⟩ := List.mem_map.mp hgroup
          obtain ⟨depth, _, x, path⟩ := a
          obtain rfl : _ = Validator.anyOf vs := hv
          obtain ⟨b, hvisits, hnoted⟩ :=
            ihtries _ (.alternative hw) (hfree.part (.alternative hw)) hj hk
          exact ⟨b, .head (.inr (.alternative hw)) hvisits, hnoted⟩
        · rw [hnone] at hgroup
          cases hgroup
    · obtain ⟨c, hvisits, hnoted⟩ := ihenters b hstep (hfree.next hstep.next) hm hk
      exact ⟨c, .head (.inl hstep) hvisits, hnoted⟩

/-- **Reports are well formed at every depth.**  Whatever a walk notes, the mismatch and all that stand
in its groups lie at the path where the walk began or further on.  Those of choices report a choice
that the walk has come to and that has failed, with one group for each alternative, in their order,
none of which is empty; the mismatches in these groups lie at the path of the choice or further on, and
all other mismatches have no groups.  The message of a choice gives a reason for each alternative, in
which exactly the mismatches further on begin with their path.  Validators of the host are left out:
they refuse without noting anything, and a group then holds the name of the alternative instead. -/
theorem explain_wellFormed (env : Env) {depth : Nat} {v : Validator} (hfree : env.HostFree v)
    (x : Value) (path : String) {m : Mismatch} (hm : m ∈ (env.explain depth v x path).found) :
    Path.Extends path m.path ∧ ∀ k, k.Within m →
      Path.Extends path k.path ∧
      (k.rule ≠ "any_of" → k.alternatives = []) ∧
      (k.rule = "any_of" → ∃ a vs, env.Visits ⟨depth, v, x, path⟩ a ∧ env.ReportsChoice a vs k ∧
        (vs ≠ [] → k.render = "none of the alternatives matched: " ++
          String.intercalate " AND " (vs.map fun w => "(" ++ String.intercalate "; "
            ((env.explain a.depth w a.value a.path).found.map (Mismatch.reason k.path)) ++ ")")) ∧
        ∀ group ∈ k.alternatives, ∀ j ∈ group,
          (j.path = k.path ∧ j.reason k.path = j.render) ∨
            (Path.Deeper k.path j.path ∧ j.reason k.path = j.path ++ ": " ++ j.render)) := by
  refine ⟨extends_of_mem_found (a := ⟨depth, v, x, path⟩) hm, fun k hk => ?_⟩
  obtain ⟨a, hvisits, hnoted⟩ := reported_within (a := ⟨depth, v, x, path⟩) hfree hm hk
  refine ⟨hvisits.extends.trans hnoted.extends, ?_⟩
  rcases hnoted.reportsChoice (HostFree.visits hfree hvisits) with ⟨vs, hchoice⟩ | ⟨hrule, hnone⟩
  · refine ⟨fun hrule => absurd hchoice.rule hrule, fun _ => ?_⟩
    refine ⟨a, vs, hvisits, hchoice, hchoice.render, fun group hgroup j hj => ?_⟩
    exact Mismatch.reason_of_extends (hchoice.paths group hgroup j hj)
  · exact ⟨fun _ => hnone, fun h => absurd h hrule⟩

/-- Texts, or lists of numbers and nulls.  The second alternative fails at an element, with a choice
that fails there in its turn. -/
theorem explain_wellFormed_of_nested_choice :
    let element : Validator := .anyOf [.leaf (.number .unbounded), .leaf .null]
    let v : Validator := .anyOf [.leaf .string, .arrayOf element 0 none]
    let x : Value := .list [.int 1, .text "a"]
    let env : Env := ⟨fun _ => none, fun _ => .absent, .zero false⟩
    ∃ m ∈ (env.explain depthLimit v x "$").found, ∃ group ∈ m.alternatives, ∃ k ∈ group,
      m.path = "$" ∧ k.rule = "any_of" ∧ k.path = "$[1]" ∧ k.alternatives.length = 2 ∧
        ∃ a vs, env.Visits ⟨depthLimit, v, x, "$"⟩ a ∧ env.ReportsChoice a vs k := by
  intro element v x env
  have hfree : env.HostFree v := by
    refine hostFree_of_closed (P := fun w => w = v ∨ w = .arrayOf element 0 none ∨ w = element ∨
      ∃ rule, w = .leaf rule) ?_ (by simp [v, element]) (.inl rfl)
    rintro w w' (rfl | rfl | rfl | ⟨rule, rfl⟩) hnext
    · change env.Next (.anyOf [.leaf .string, .arrayOf element 0 none]) w' at hnext
      rcases hnext with ⟨⟨_ | hmem⟩⟩
      rcases List.mem_pair.mp hmem with rfl | rfl
      · exact .inr (.inr (.inr ⟨_, rfl⟩))
      · exact .inr (.inl rfl)
    · rcases hnext with ⟨⟨⟨⟩⟩⟩
      exact .inr (.inr (.inl rfl))
    · change env.Next (.anyOf [.leaf (.number .unbounded), .leaf .null]) w' at hnext
      rcases hnext with ⟨⟨_ | hmem⟩⟩
      rcases List.mem_pair.mp hmem with rfl | rfl
      · exact .inr (.inr (.inr ⟨_, rfl⟩))
      · exact .inr (.inr (.inr ⟨_, rfl⟩))
    · rcases hnext with ⟨⟨⟨⟩⟩⟩
  have hreport : ((env.explain depthLimit v x "$").found.any fun m => m.alternatives.any fun group =>
      group.any fun k => m.path = "$" && k.rule = "any_of" && k.path = "$[1]" &&
        k.alternatives.length = 2) = true := by decide +kernel
  simp only [List.any_eq_true, Bool.and_eq_true, decide_eq_true_eq] at hreport
  obtain ⟨m, hm, group, hgroup, k, hk, ⟨⟨hpath, hrule⟩, hplace⟩, hlength⟩ := hreport
  obtain ⟨-, hwithin⟩ := env.explain_wellFormed hfree x "$" hm
  obtain ⟨-, -, hchoice⟩ := hwithin k (.group hgroup hk .self)
  obtain ⟨a, vs, hvisits, hreports, -⟩ := hchoice hrule
  exact ⟨m, hm, group, hgroup, k, hk, hpath, hrule, hplace, hlength, a, vs, hvisits, hreports⟩

end Env

end Conformance
