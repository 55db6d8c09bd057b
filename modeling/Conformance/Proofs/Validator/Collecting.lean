import Conformance.Proofs.Validator.AgreeingChecks
import Conformance.Proofs.Validator.Places

/-!
# Reports are put together from reports

The walk that explains never stops early.  What it notes of a mapping is what it notes of every
property, by every key that is about it, and then what is wrong with the numbers of properties; of a
sequence it notes the length and then every element.  Outside of alternatives nothing that is noted at a
place is lost.

## Main Definitions

* `Env.missed` — what is noted of the number of properties that a key is about

## Main statements

* `Env.found_object`, `Env.found_arrayOf` — the report of a mapping and of a sequence
* `Env.Collects.found_infix` — the report of a place is a part of the report of the whole
* `Env.exists_silent_of_refused` — only a validator of the host can refuse without a mismatch
* `Env.explain_composes` — the three together
-/

/-- What a function makes of a member is a part of what it makes of the list. -/
theorem List.infix_flatMap {α β : Type} {a : α} {as : List α} (h : a ∈ as) (f : α → List β) :
    f a <:+: as.flatMap f :=
  infix_of_mem_flatten (mem_map_of_mem h)

namespace Conformance

open Walk

namespace Env

variable {env : Env} {a b : Place} {depth : Nat} {path : String}

/-! ## Mappings and sequences -/

/-- **What is noted of the number of properties that a key is about**: a number that the quantifier does
not allow, or the absence of a literal name whose pattern does not admit absence. -/
def missed (env : Env) (depth : Nat) (path : String) (names : List String) (p : Property Validator) :
    List Mismatch :=
  let n := p.key.count names
  match p.key.quantifier with
  | .optional =>
    if 1 < n then [countMismatch path s!"at most one property matching /{p.key.sourceText}/" n] else []
  | .atLeastOne =>
    if n = 0 then [countMismatch path s!"at least one property matching /{p.key.sourceText}/" n] else []
  | .exact =>
    if p.key.isLiteral = true ∧ n = 0 ∧ (env.absence depth p.key p.rule).outcome ≠ .ok true then
      [requiredMismatch path p.key p.rule.name]
    else []
  | .any | .catchAll => []

/-- Counting the properties of a key notes what the key has missed. -/
theorem found_count (names : List String) (p : Property Validator) :
    (Explain.count (fun p => env.absence depth p.key p.rule) path names p).found =
      env.missed depth path names p := by
  cases hq : p.key.quantifier with
  | optional =>
    simp only [Explain.count, missed, Key.judge, hq]
    by_cases hn : 1 < p.key.count names
    · rw [if_pos hn, if_pos hn]
      rfl
    · rw [if_neg hn, if_neg hn]
      rfl
  | atLeastOne =>
    simp only [Explain.count, missed, Key.judge, hq]
    by_cases hn : p.key.count names = 0
    · rw [if_pos hn, if_pos hn]
      rfl
    · rw [if_neg hn, if_neg hn]
      rfl
  | exact =>
    simp only [Explain.count, missed, Key.judge, hq, Bool.and_eq_true, decide_eq_true_eq]
    obtain ⟨admitted, hadmitted, -⟩ := outcome_guarded
      (fun f => .absenceCheckCrashed p.key.written f.message f.kind)
      (env.check depth p.rule .missing "")
    have habsent : (env.absence depth p.key p.rule).outcome = .ok admitted := hadmitted
    by_cases hn : p.key.isLiteral = true ∧ p.key.count names = 0
    · rw [if_pos hn, habsent]
      show (env.absence depth p.key p.rule >>= _).found = _
      rw [found_bind_of_ok habsent, absence, absenceWalk, found_guarded]
      cases admitted with
      | true => exact (if_neg fun h => h.2.2 rfl).symm
      | false => exact (if_pos ⟨hn.1, hn.2, by decide⟩).symm
    · rw [if_neg hn, if_neg fun h => hn ⟨h.1, h.2.1⟩]
      rfl
  | any | catchAll =>
    simp only [Explain.count, missed, Key.judge, hq]
    rfl

variable {ps : List (Property Validator)} {form : MapForm} {tag : Nat} {es : List (Value × Value)}

/-- **The report of a mapping**: that of every property by every key that is about it, and what all keys
have missed.  Where it is complete, so is each of these. -/
theorem found_object {r : Bool}
    (h : (env.explain depth (.object ps) (.mapping form tag es) path).outcome = .ok r) :
    (env.explain depth (.object ps) (.mapping form tag es) path).found =
      (es.flatMap fun e => (claimants ps e.1.nameText).flatMap fun p =>
        (env.explain depth p.rule e.2 (Path.member path e.1.nameText)).found) ++
      (specific ps).flatMap (env.missed depth path (propertyNames es)) ∧
    ∀ e ∈ es, ∀ p ∈ claimants ps e.1.nameText, ∃ r',
      (env.explain depth p.rule e.2 (Path.member path e.1.nameText)).outcome = .ok r' := by
  cases depth with
  | zero => cases h
  | succ depth =>
    rw [explain_object] at h ⊢
    obtain ⟨conform, counted, hconform, hcounted, -, hfound⟩ := both_eq_ok h
    obtain ⟨hentries, hclaims⟩ := found_every hconform
    have hclaim : ∀ e ∈ es, _ := fun e he => found_every (hclaims e he).choose_spec
    refine ⟨?_, fun e he => (hclaim e he).2⟩
    rw [hfound, hentries, (found_every hcounted).1]
    refine congrArg₂ (· ++ ·) (List.flatMap_congr fun e he => (hclaim e he).1) ?_
    exact List.flatMap_congr fun p _ => found_count _ p

/-- **The report of a sequence**: its length and then every element. -/
theorem found_arrayOf {item : Validator} {least : Nat} {most : Option Nat} {form : SeqForm}
    {items : List Value} {r : Bool}
    (h : (env.explain depth (.arrayOf item least most) (.seq form tag items) path).outcome = .ok r) :
    (env.explain depth (.arrayOf item least most) (.seq form tag items) path).found =
      (if withinLengths least most items.length then []
        else [lengthMismatch path least most items.length]) ++
      (items.zipIdx.flatMap fun e => (env.explain depth item e.1 (Path.index path e.2)).found) ∧
    ∀ e ∈ items.zipIdx, ∃ r', (env.explain depth item e.1 (Path.index path e.2)).outcome = .ok r' := by
  cases depth with
  | zero => cases h
  | succ depth =>
    rw [explain_arrayOf] at h ⊢
    obtain ⟨fits, conform, -, hconform, -, hfound⟩ := both_eq_ok h
    obtain ⟨hitems, hitem⟩ := found_every hconform
    refine ⟨?_, hitem⟩
    rw [hfound, hitems]
    cases withinLengths least most items.length <;> rfl

/-! ## The reports of all places -/

/-- **One step**: the report of a place that is entered is a part of the report of the place itself, and
complete if that is. -/
theorem Enters.found_infix {r : Bool} (h : env.Enters a b) (ha : (env.walk a).outcome = .ok r) :
    (∃ r', (env.walk b).outcome = .ok r') ∧ (env.walk b).found <:+: (env.walk a).found := by
  have hsame : env.walk a = env.walk b →
      (∃ r', (env.walk b).outcome = .ok r') ∧ (env.walk b).found <:+: (env.walk a).found :=
    fun heq => ⟨⟨r, heq ▸ ha⟩, heq ▸ List.infix_refl _⟩
  cases h with
  | copy => exact hsame (explain_delegateTo)
  | live hslot => exact hsame (explain_delegate hslot)
  | root hroot => exact hsame (explain_selfRef hroot)
  | @property depth ps form tag es path e p he hp =>
    obtain ⟨hfound, hparts⟩ := found_object ha
    refine ⟨hparts e he p hp, ?_⟩
    have hclaim := List.infix_flatMap hp fun p =>
      (env.explain depth p.rule e.2 (Path.member path e.1.nameText)).found
    have hentry := List.infix_flatMap he fun e => (claimants ps e.1.nameText).flatMap fun p =>
      (env.explain depth p.rule e.2 (Path.member path e.1.nameText)).found
    rw [walk, walk, hfound]
    exact (hclaim.trans hentry).trans (List.prefix_append _ _).isInfix
  | @element depth item least most form tag items path e he =>
    obtain ⟨hfound, hparts⟩ := found_arrayOf ha
    refine ⟨hparts e he, ?_⟩
    have hitem := List.infix_flatMap he fun e =>
      (env.explain depth item e.1 (Path.index path e.2)).found
    rw [walk, walk, hfound]
    exact hitem.trans (List.suffix_append _ _).isInfix

/-- **All steps**: outside of alternatives, the report of every place is a part of the whole report. -/
theorem Collects.found_infix {r : Bool} (h : env.Collects a b) (ha : (env.walk a).outcome = .ok r) :
    (∃ r', (env.walk b).outcome = .ok r') ∧ (env.walk b).found <:+: (env.walk a).found := by
  induction h with
  | refl => exact ⟨⟨r, ha⟩, List.infix_refl _⟩
  | tail _ hstep ih =>
    obtain ⟨⟨r', hr'⟩, hinfix⟩ := ih
    obtain ⟨hok, hinfix'⟩ := hstep.found_infix hr'
    exact ⟨hok, hinfix'.trans hinfix⟩

/-! ## Refusals -/

/-- **All steps**: a refusal is noted, unless it is that of a validator of the host. -/
theorem exists_silent_of_refused (h : (env.walk a).outcome = .ok false) :
    (env.walk a).found ≠ [] ∨ ∃ b e, env.Collects a b ∧ b.validator = .external e ∧
      e.verdict b.value = .ok false := by
  induction a using placeInduction env with
  | step a ih _ =>
    rcases (env.walk_accounts a).refused h with hfound | ⟨b, hstep, hb⟩ | ⟨e, hv, he⟩
    · exact .inl hfound
    · rcases ih b hstep hb with hfound | ⟨c, e, hcollects, hv, he⟩
      · refine .inl fun hnil => hfound ?_
        exact List.eq_nil_of_infix_nil (hnil ▸ (hstep.found_infix h).2)
      · exact .inr ⟨c, e, .head hstep hcollects, hv, he⟩
    · exact .inr ⟨a, e, .refl, hv, he⟩

/-- **Reports are put together from reports, and nothing is lost.**  Where explaining ends with an
answer, the report of a mapping holds, in the order of the properties and then of the keys that are
about them, what each of these keys says of the property on its own, followed by what the keys have
missed, in their order; and that of a sequence holds its length, if that is wrong, and then what is
said of each element on its own. The report of every place outside of alternatives is a part of the
whole, however much has been noted before, and it is about that place.  It has something to say where
the place is refused, unless the refusal is that of a validator of the host, which notes nothing.
Without a choice on the way no place is inside of an alternative. -/
theorem explain_composes (env : Env) {depth : Nat} {v : Validator} {x : Value} {path : String}
    {r : Bool} (h : (env.explain depth v x path).outcome = .ok r) :
    (∀ ps form tag es, v = .object ps → x = .mapping form tag es →
      (env.explain depth v x path).found =
        (es.flatMap fun e => (claimants ps e.1.nameText).flatMap fun p =>
          (env.explain depth p.rule e.2 (Path.member path e.1.nameText)).found) ++
        (specific ps).flatMap (env.missed depth path (propertyNames es))) ∧
    (∀ item least most form tag items, v = .arrayOf item least most → x = .seq form tag items →
      (env.explain depth v x path).found =
        (if withinLengths least most items.length then []
          else [lengthMismatch path least most items.length]) ++
        items.zipIdx.flatMap fun e => (env.explain depth item e.1 (Path.index path e.2)).found) ∧
    (∀ a, env.Collects ⟨depth, v, x, path⟩ a →
      (∃ r', (env.walk a).outcome = .ok r') ∧
      (env.walk a).found <:+: (env.explain depth v x path).found ∧
      (∀ m ∈ (env.walk a).found, Path.Extends a.path m.path) ∧
      ((env.walk a).outcome = .ok false → (env.walk a).found ≠ [] ∨
        ∃ b e, env.Collects a b ∧ b.validator = .external e ∧ e.verdict b.value = .ok false)) ∧
    (env.ChoiceFree v →
      ∀ a, env.Visits ⟨depth, v, x, path⟩ a → env.Collects ⟨depth, v, x, path⟩ a) := by
  refine ⟨?_, ?_, fun a ha => ?_, fun hfree a ha => collects_of_visits hfree ha⟩
  · rintro ps form tag es rfl rfl
    exact (found_object h).1
  · rintro item least most form tag items rfl rfl
    exact (found_arrayOf h).1
  · obtain ⟨hok, hinfix⟩ := ha.found_infix h
    exact ⟨hok, hinfix, fun _ => extends_of_mem_found, exists_silent_of_refused⟩

/-- A wrong number, a wrong element of a list and a name that is missing.  The element is reported
behind the number as it is on its own. -/
theorem explain_composes_of_record :
    let number : Validator := .leaf (.number .unbounded)
    let a : Key := ⟨"a", .exact, (Regex.ofSource "a" .none).toOption⟩
    let b : Key := ⟨"b", .exact, (Regex.ofSource "b" .none).toOption⟩
    let c : Key := ⟨"c", .exact, (Regex.ofSource "c" .none).toOption⟩
    let ps : List (Property Validator) :=
      [⟨a, none, number⟩, ⟨b, none, .arrayOf (.selfRef (some 0)) 0 none⟩, ⟨c, none, number⟩]
    let es : List (Value × Value) :=
      [(.text "a", .text "x"), (.text "b", .list [.int 1, .text "y"])]
    let env : Env := ⟨fun _ => some number, fun _ => .absent, .zero false⟩
    let report := (env.explain depthLimit (.object ps) (.dict es) "$").found
    let element : Place :=
      ⟨depthLimit - 1, number, .text "y", Path.index (Path.member "$" "b") 1⟩
    (env.explain depthLimit (.object ps) (.dict es) "$").outcome = .ok false ∧
      report.map (·.path) = ["$.a", "$.b[1]", "$.c"] ∧
      report = (es.flatMap fun e => (claimants ps e.1.nameText).flatMap fun p =>
        (env.explain depthLimit p.rule e.2 (Path.member "$" e.1.nameText)).found) ++
        (specific ps).flatMap (env.missed depthLimit "$" ["a", "b"]) ∧
      (env.walk element).found <:+: report ∧ (env.walk element).found ≠ [] := by
  intro number a b c ps es env report element
  have h : (env.explain depthLimit (.object ps) (.dict es) "$").outcome = .ok false := by decide +kernel
  have hb : (⟨b, none, .arrayOf (.selfRef (some 0)) 0 none⟩ : Property Validator) ∈
      claimants ps "b" := by
    refine Check.mem_claimants_iff.mpr (.inl ⟨?_, by decide +kernel⟩)
    simp [specific, ps, Key.isCatchAll, a, b, c]
  have hcollects : env.Collects ⟨depthLimit, .object ps, .dict es, "$"⟩ element :=
    .head (.property (List.mem_cons_of_mem _ List.mem_cons_self) hb)
      (.head (.element (List.mem_cons_of_mem _ List.mem_cons_self)) (.single (.root rfl)))
  obtain ⟨hobject, -, hplaces, -⟩ := env.explain_composes h
  obtain ⟨-, hinfix, -, hrefused⟩ := hplaces element hcollects
  refine ⟨h, by decide +kernel, hobject ps .dict 0 es rfl rfl, hinfix, ?_⟩
  rcases hrefused (by decide +kernel) with hfound | ⟨place, e, hplace, he, -⟩
  · exact hfound
  · -- nothing is entered from a rule
    change env.Collects ⟨depthLimit - 1, .leaf (.number .unbounded), _, _⟩ place at hplace
    rcases Relation.ReflTransGen.cases_head hplace with rfl | ⟨_, ⟨⟩, -⟩
    cases he

/-- A validator of the host that refuses an element says nothing of it, here in a list that is too
short: the element is refused and goes unreported. -/
theorem silent_element_unreported :
    let silent : Validator :=
      .external ⟨"Silent", "silent", fun _ => .ok false, .record [("x-silent", .bool true)]⟩
    let v : Validator := .arrayOf silent 2 none
    let x : Value := .list [.int 1]
    let env : Env := ⟨fun _ => none, fun _ => .absent, .zero false⟩
    let element : Place := ⟨depthLimit, silent, .int 1, Path.index "$" 0⟩
    env.ChoiceFree v ∧ (env.explain depthLimit v x "$").outcome = .ok false ∧
      env.Visits ⟨depthLimit, v, x, "$"⟩ element ∧
      (env.walk element).outcome = .ok false ∧
      ∀ m ∈ (env.explain depthLimit v x "$").found, ¬ Path.Extends element.path m.path := by
  intro silent v x env element
  have hfree : env.ChoiceFree v := by
    intro vs hreach
    change env.Reaches (.arrayOf (.external _) 2 none) (.anyOf vs) at hreach
    rcases Relation.ReflTransGen.cases_head hreach with h | ⟨w, hnext, hrest⟩
    · cases h
    · obtain ⟨⟨⟨⟩⟩⟩ := hnext
      rcases Relation.ReflTransGen.cases_head hrest with h | ⟨_, ⟨⟨⟨⟩⟩⟩, -⟩
      cases h
  have hstep : env.Enters ⟨depthLimit, .arrayOf silent 2 none, .list [.int 1], "$"⟩ element :=
    .element (e := (.int 1, 0)) List.mem_cons_self
  refine ⟨hfree, rfl, .single (.inl hstep), rfl, fun m hm hextends => ?_⟩
  obtain rfl := List.mem_singleton.mp hm
  exact absurd hextends.length_le (by decide)

end Env

end Conformance
