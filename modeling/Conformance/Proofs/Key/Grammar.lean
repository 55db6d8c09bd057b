import Conformance.Key
import Mathlib.Logic.Basic
import Mathlib.Data.List.Basic

/-!
# The grammar of keys

A key is a star alone, a sign with a name behind it, or a name.  Two texts are none of these: the signs
that ask for a name, with none behind them.

## Main Definitions

* `Key.Grammar` — a written key and the source of its name
* `Key.lacksName`, `Key.sourceIn` — what is wrong with a text that is no key, and the source in one that is

## Main statements

* `Key.grammar_iff` — the keys are the texts that do not lack a name
* `Key.split_eq` — a text is split as the grammar says, and refused if it lacks a name
-/

namespace Conformance.Key

/-- The characters that are quantifiers at the front of a key. -/
def signs : List Char := ['?', '+', '*']

/-- **The grammar of keys**, with the source of the name: a star alone has none, behind a sign there is a
name, and anything else is a name. -/
inductive Grammar : String → Option String → Prop where
  | rest : Grammar "*" none
  | signed {sign : Char} {name : List Char} : sign ∈ signs → name ≠ [] →
    Grammar (String.ofList (sign :: name)) (some (String.ofList name))
  | plain {written : String} : (∀ c ∈ written.toList.head?, c ∉ signs) → Grammar written (some written)

/-- Two texts are no keys: a sign that asks for a name and has none. -/
def lacksName (written : String) : Bool := ["?", "+"].contains written

/-- The source of the name in a key. -/
def sourceIn (written : String) : Option String :=
  if written = "*" then none
  else
    match written.toList with
    | c :: name => if c ∈ signs then some (String.ofList name) else some written
    | [] => some written

/-- A sign stands for a quantifier. -/
theorem mem_signs_iff (c : Char) : c ∈ signs ↔ ∃ q, Quantifier.ofSign? c = some q := by
  rw [← Option.isSome_iff_exists]
  unfold Quantifier.ofSign?
  split <;> simp_all [signs]

/-- The two texts that lack a name, by their characters. -/
theorem lacksName_ofList (cs : List Char) :
    lacksName (String.ofList cs) = true ↔ cs = ['?'] ∨ cs = ['+'] := by
  have hone : ∀ c : Char, String.ofList cs = String.ofList [c] ↔ cs = [c] := fun c => String.ofList_inj
  show ["?", "+"].contains (String.ofList cs) = true ↔ _
  rw [List.contains_iff_mem, List.mem_pair]
  exact or_congr (hone '?') (hone '+')

/-- A sign lacks a name where there is none behind it, unless it is a star. -/
theorem lacksName_cons {c : Char} (hc : c ∈ signs) {name : List Char} (hstar : c :: name ≠ ['*']) :
    lacksName (String.ofList (c :: name)) = true ↔ name = [] := by
  rw [lacksName_ofList]
  constructor
  · rintro (h | h) <;> cases h <;> rfl
  · rintro rfl
    have hne : c ≠ '*' := fun h => hstar (by rw [h])
    simpa [signs, hne] using hc

/-- Behind a sign stands the source. -/
theorem sourceIn_cons {c : Char} (hc : c ∈ signs) {name : List Char} (hstar : c :: name ≠ ['*']) :
    sourceIn (String.ofList (c :: name)) = some (String.ofList name) := by
  rw [sourceIn, if_neg (mt String.ofList_inj.mp hstar), String.toList_ofList]
  exact if_pos hc

/-- Without a sign in front the whole key is the source. -/
theorem sourceIn_plain {written : String} (h : ∀ c ∈ written.toList.head?, c ∉ signs) :
    sourceIn written = some written := by
  have hstar : written ≠ "*" := by
    rintro rfl
    exact h '*' (by decide) (by decide)
  rw [sourceIn, if_neg hstar]
  split
  · next c name heq => exact if_neg (h c (by rw [heq]; rfl))
  · rfl

/-- A text without a sign in front lacks no name. -/
theorem lacksName_plain {written : String} (h : ∀ c ∈ written.toList.head?, c ∉ signs) :
    lacksName written = false := by
  rw [← Bool.not_eq_true, lacksName, List.contains_iff_mem, List.mem_pair]
  rintro (rfl | rfl)
  · exact h '?' (by decide) (by decide)
  · exact h '+' (by decide) (by decide)

/-- A text is the catch-all key, has a sign in front that is not all of it, or has none. -/
theorem written_cases (written : String) : written = "*" ∨
    (∃ c name, written = String.ofList (c :: name) ∧ c ∈ signs ∧ c :: name ≠ ['*']) ∨
    ∀ c ∈ written.toList.head?, c ∉ signs := by
  obtain ⟨cs, rfl⟩ : ∃ cs, written = String.ofList cs := ⟨written.toList, (String.ofList_toList).symm⟩
  rw [String.toList_ofList]
  cases cs with
  | nil => exact .inr (.inr nofun)
  | cons c name =>
    by_cases hstar : c :: name = ['*']
    · exact .inl (congrArg String.ofList hstar)
    · by_cases hc : c ∈ signs
      · exact .inr (.inl ⟨c, name, rfl, hc, hstar⟩)
      · exact .inr (.inr fun d hd => Option.some.inj hd ▸ hc)

/-- **The keys of the grammar** are the texts that do not lack a name. -/
theorem grammar_iff {written : String} {source : Option String} :
    Grammar written source ↔ lacksName written = false ∧ source = sourceIn written := by
  constructor
  · intro h
    cases h with
    | rest => exact ⟨by decide, rfl⟩
    | @signed sign name hsign hname =>
      have hstar : sign :: name ≠ ['*'] := fun h => hname (List.cons.inj h).2
      have hlacks := mt (lacksName_cons hsign hstar).mp hname
      exact ⟨by simpa using hlacks, (sourceIn_cons hsign hstar).symm⟩
    | plain hplain => exact ⟨lacksName_plain hplain, (sourceIn_plain hplain).symm⟩
  · rintro ⟨hlacks, rfl⟩
    rcases written_cases written with rfl | ⟨c, name, rfl, hc, hstar⟩ | hplain
    · exact .rest
    · rw [sourceIn_cons hc hstar]
      refine .signed hc fun hname => ?_
      rw [(lacksName_cons hc hstar).mpr hname] at hlacks
      cases hlacks
    · rw [sourceIn_plain hplain]
      exact .plain hplain

/-- **What a key is split into**: the source of its name, unless it lacks one. -/
theorem split_eq (written : String) :
    lacksName written = true ∧ split written = .error (.keyWithoutName written) ∨
    lacksName written = false ∧ ∃ q, split written = .ok (q, sourceIn written) := by
  rcases written_cases written with rfl | ⟨c, name, rfl, hc, hstar⟩ | hplain
  · exact .inr ⟨by decide, .catchAll, rfl⟩
  · obtain ⟨q, hq⟩ := (mem_signs_iff c).mp hc
    rw [split, if_neg (mt String.ofList_inj.mp hstar), String.toList_ofList, sourceIn_cons hc hstar]
    dsimp only
    rw [hq]
    cases name with
    | nil => exact .inl ⟨(lacksName_cons hc hstar).mpr rfl, rfl⟩
    | cons d name =>
      have hlacks := mt (lacksName_cons hc hstar).mp (List.cons_ne_nil d name)
      exact .inr ⟨by simpa using hlacks, q, rfl⟩
  · have hstar : written ≠ "*" := by
      rintro rfl
      exact hplain '*' (by decide) (by decide)
    refine .inr ⟨lacksName_plain hplain, .exact, ?_⟩
    rw [split, if_neg hstar, sourceIn_plain hplain]
    split
    · next c name heq =>
      have hnone : Quantifier.ofSign? c = none := by
        rw [← Option.not_isSome_iff_eq_none, Option.isSome_iff_exists]
        exact mt (mem_signs_iff c).mpr (hplain c (by rw [heq]; rfl))
      rw [hnone]
    · rfl

end Conformance.Key
