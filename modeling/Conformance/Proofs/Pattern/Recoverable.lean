import Conformance.Builder.Call
import Conformance.Proofs.Pattern.Adoption
import Conformance.Proofs.Validator.Recoverable

/-!
# Patterns that are read back

## Main Definitions

* `Value.StandsFor` — the values that stand for a rule of some kind
* `Pattern.MadeOf` — the patterns that are put together from such values, from validators that are made
  of such rules, and from keys that are written to different members
* `Pattern.Recoverable` — the patterns whose descriptors can be read back

## Main statements

* `Pattern.MadeOf.compile` — such a pattern compiles, and to a validator that is made of such rules
* `Builder.madeOf_call` — and so are the validators that the builders give
-/

namespace Conformance

/-- **A value stands for a rule**: a primitive, null, the ellipsis or the marker of references, or a
built-in class or a regex whose rule is `good`. -/
def Value.StandsFor (good : Leaf → Prop) : Value → Prop
  | null | bool _ | number _ | text _ | ellipsis | selfMarker => True
  | cls (.builtin b) => good (.instanceOf (.builtin b))
  | regex r => good (.regex r)
  | _ => False

namespace Pattern

/-- **Patterns that are made of `good` rules**, `inOr` telling whether a pattern stands directly inside a
list of alternatives: there a list of one item is a literal, whatever the item is.  Lists of alternatives
are not empty; object patterns have no empty key, and no two keys that are written to the same member;
and validators that are compiled already are made of `good` rules. -/
inductive MadeOf (good : Leaf → Prop) : Bool → Pattern → Prop where
  | value {inOr : Bool} {v : Value} : v.StandsFor good → MadeOf good inOr (value v)
  | literal (form : SeqForm) (tag : Nat) (item : Pattern) : MadeOf good true (seq form tag [item])
  | seq {inOr : Bool} {form : SeqForm} {tag : Nat} {items : List Pattern} : items ≠ [] →
    ¬ (inOr = true ∧ items.length = 1) → (∀ p ∈ items, MadeOf good true p) →
    MadeOf good inOr (seq form tag items)
  | mapping {inOr : Bool} {form : MapForm} {tag : Nat} {entries : List (Value × Pattern)}
    {keys : List Key} : entries.map Prod.fst = keys.map (fun k => .text k.written) →
    (∀ k ∈ keys, Key.ofWritten k.written = .ok k ∧ k.written ≠ "") →
    keys.Pairwise (fun k l => k.member ≠ l.member) → (∀ e ∈ entries, MadeOf good false e.2) →
    MadeOf good inOr (mapping form tag entries)
  | validator {inOr : Bool} {h : Handle} :
    h.validator.MadeOf good (fun k _ => k.written ≠ "") → MadeOf good inOr (validator h)

/-- **The patterns that can be read back** from their descriptors: with any class that JSON has a type
for. -/
def Recoverable (inOr : Bool) (p : Pattern) : Prop := p.MadeOf Leaf.Recoverable inOr

variable {slot : Nat → Slot} {inOr : Bool} {good : Leaf → Prop}

theorem MadeOf.mono {good' : Leaf → Prop} {p : Pattern} (h : p.MadeOf good inOr)
    (hgood : ∀ rule, good rule → good' rule) : p.MadeOf good' inOr := by
  induction h with
  | @value inOr v hv =>
    refine .value ?_
    cases v with
    | cls c =>
      cases c with
      | builtin b => exact hgood _ hv
      | host c => exact hv
    | regex r => exact hgood _ hv
    | _ => exact hv
  | literal form tag item => exact .literal form tag item
  | seq hne hplace _ ih => exact .seq hne hplace ih
  | mapping hwritten hkeys hmembers _ ih => exact .mapping hwritten hkeys hmembers ih
  | validator hv => exact .validator (hv.mono hgood fun _ _ => id)

/-- **A mapping whose keys are texts**: each is read as a key and none is empty, and no two of these keys
are written to the same member. -/
theorem madeOf_mapping {form : MapForm} {tag : Nat} {entries : List (String × Pattern)}
    (hread : ∀ e ∈ entries, (Key.ofWritten e.1).toOption.isSome = true ∧ e.1 ≠ "")
    (hmembers : (entries.map fun e => (Key.ofWritten e.1).toOption.map Key.member).Nodup)
    (h : ∀ e ∈ entries, e.2.MadeOf good false) :
    MadeOf good inOr (mapping form tag (entries.map fun e => (.text e.1, e.2))) := by
  have hkeys : ∃ keys, List.Forall₂ (fun e k => Key.ofWritten e.1 = .ok k ∧ e.1 ≠ "") entries keys :=
    List.Forall₂.exists_of_forall fun e he => by
      obtain ⟨k, hk⟩ := Except.exists_eq_ok (hread e he).1
      exact ⟨k, hk, (hread e he).2⟩
  obtain ⟨keys, hkeys⟩ := hkeys
  have hwritten : entries.map (fun e => Value.text e.1) = keys.map fun k => .text k.written :=
    hkeys.map_eq_map fun e k hk => by rw [Key.written_of_ofWritten hk.1]
  refine @MadeOf.mapping good inOr form tag _ keys ?_ (fun k hk => ?_) ?_ (List.forall_mem_map.mpr h)
  · rw [List.map_map]
    exact hwritten
  · obtain ⟨e, -, he, hne⟩ := hkeys.exists_left hk
    rw [Key.written_of_ofWritten he]
    exact ⟨he, hne⟩
  · have hmap : entries.map (fun e => (Key.ofWritten e.1).toOption.map Key.member) =
        keys.map fun k => some k.member := hkeys.map_eq_map fun e k hk => by rw [hk.1]; rfl
    rw [hmap] at hmembers
    exact (List.pairwise_map.mp hmembers).imp fun hne heq => hne (congrArg some heq)

/-! ## Compiling -/

/-- What a value stands for is made of `good` rules. -/
theorem exists_compileValue (hgood : ∀ rule : Leaf, rule.Portable → good rule)
    {kept : Key → Validator → Prop} {v : Value} (h : v.StandsFor good) :
    ∃ w, compileValue slot none inOr v = .ok w ∧ w.MadeOf good kept := by
  cases v with
  | null => exact ⟨_, rfl, .leaf (hgood _ trivial)⟩
  | bool b => exact ⟨_, rfl, .leaf (hgood _ trivial)⟩
  | number n => exact ⟨_, rfl, .leaf (hgood _ trivial)⟩
  | text s => exact ⟨_, rfl, .leaf (hgood _ trivial)⟩
  | selfMarker => exact ⟨_, rfl, .selfRef⟩
  | ellipsis =>
    cases inOr with
    | true => exact ⟨_, rfl, .selfRef⟩
    | false => exact ⟨_, rfl, .leaf (hgood _ trivial)⟩
  | cls c =>
    cases c with
    | builtin b => exact ⟨_, rfl, .leaf h⟩
    | host c => exact absurd h id
  | regex r => exact ⟨_, rfl, .leaf h⟩
  | _ => exact absurd h id

/-- Alternatives compile one by one. -/
theorem exists_compileEach {P : Validator → Prop} {items : List Pattern}
    (h : ∀ p ∈ items, ∃ v, compile slot none true p = .ok v ∧ P v) :
    ∃ vs, compileEach slot none items = .ok vs ∧ vs.length = items.length ∧ ∀ v ∈ vs, P v := by
  induction items with
  | nil => exact ⟨[], rfl, rfl, fun v hv => absurd hv List.not_mem_nil⟩
  | cons p items ih =>
    obtain ⟨⟨v, hv, hP⟩, hitems⟩ := List.forall_mem_cons.mp h
    obtain ⟨vs, hvs, hlength, hall⟩ := ih hitems
    refine ⟨v :: vs, ?_, congrArg Nat.succ hlength, List.forall_mem_cons.mpr ⟨hP, hall⟩⟩
    rw [compileEach, hv, Except.ok_bind, hvs]
    rfl

/-- Entries compile one by one. -/
theorem exists_compileEntries {P : Validator → Prop} {entries : List (Value × Pattern)} {keys : List Key}
    (hwritten : entries.map Prod.fst = keys.map fun k => .text k.written)
    (hkeys : ∀ k ∈ keys, Key.ofWritten k.written = .ok k ∧ k.written ≠ "")
    (h : ∀ e ∈ entries, ∃ v, compile slot none false e.2 = .ok v ∧ P v) :
    ∃ ps, compileEntries slot none entries = .ok ps ∧ ps.map (·.key) = keys ∧
      ∀ p ∈ ps, P p.rule := by
  induction entries generalizing keys with
  | nil =>
    cases keys with
    | nil => exact ⟨[], rfl, rfl, fun p hp => absurd hp List.not_mem_nil⟩
    | cons k keys => cases hwritten
  | cons e entries ih =>
    obtain ⟨written, p⟩ := e
    cases keys with
    | nil => cases hwritten
    | cons k keys =>
      obtain ⟨hfirst, hrest⟩ := List.cons.inj hwritten
      obtain ⟨hk, hks⟩ := List.forall_mem_cons.mp hkeys
      obtain ⟨⟨v, hv, hP⟩, hentries⟩ := List.forall_mem_cons.mp h
      obtain ⟨ps, hps, hmap, hall⟩ := ih hrest hks hentries
      have hname : written = .text k.written := hfirst
      refine ⟨⟨k, p.label?, v⟩ :: ps, ?_, congrArg (List.cons k) hmap,
        List.forall_mem_cons.mpr ⟨hP, hall⟩⟩
      rw [hname]
      exact compileEntries_cons hk.1 hv hps

/-- **A pattern that is made of `good` rules compiles**, and to a validator that is. -/
theorem MadeOf.compile (hgood : ∀ rule : Leaf, rule.Portable → good rule) {p : Pattern}
    (h : p.MadeOf good inOr) :
    ∃ v, p.compile slot none inOr = .ok v ∧ v.MadeOf good fun k _ => k.written ≠ "" := by
  induction h with
  | @value inOr v hv =>
    obtain ⟨w, hw, hmade⟩ := exists_compileValue hgood hv
    refine ⟨w, ?_, hmade⟩
    rw [Pattern.compile, hw]
    rfl
  | literal form tag item => exact ⟨_, compile_seq_singleton form tag item, .leaf (hgood _ trivial)⟩
  | @seq inOr form tag items hne hplace _ ih =>
    obtain ⟨vs, hvs, hlength, hall⟩ := exists_compileEach ih
    refine ⟨.anyOf vs, ?_, .anyOf (fun hnil => hne ?_) hall⟩
    · rw [compile_seq hplace, hvs]
      rfl
    · rw [hnil, List.length_nil] at hlength
      exact List.length_eq_zero_iff.mp hlength.symm
  | mapping hwritten hkeys hmembers _ ih =>
    obtain ⟨ps, hps, hmap, hall⟩ := exists_compileEntries hwritten hkeys ih
    refine ⟨.object ps, ?_, .object (fun p hp => hkeys p.key ?_) ?_ hall⟩
    · rw [Pattern.compile, hps]
      rfl
    · rw [← hmap]
      exact List.mem_map_of_mem hp
    · rw [← hmap, List.pairwise_map] at hmembers
      exact hmembers
  | validator hmade => exact ⟨_, rfl, hmade⟩

end Pattern

/-! ## Builders -/

namespace Builder

variable {slot : Nat → Slot} {good : Leaf → Prop}

/-- A call on a number leaves its steps positive. -/
theorem exists_of_callNumber {b : Bounds} (hb : b.steps.all Num.isPositive = true) {name : String}
    {arg : Value} {w : Validator} (h : callNumber b name arg = .ok w) :
    ∃ b', w = .leaf (.number b') ∧ b'.steps.all Num.isPositive = true := by
  unfold callNumber at h
  rw [Except.bind_eq_ok_iff] at h
  obtain ⟨refined, hrefined, h⟩ := h
  cases h
  rw [liftBuilder, Except.mapError_eq_ok_iff] at hrefined
  refine ⟨refined, rfl, ?_⟩
  split at hrefined
  · simp only [Bounds.atLeast, Except.bind_eq_ok_iff, Except.pure_eq_ok_iff] at hrefined
    obtain ⟨n, -, rfl⟩ := hrefined
    exact hb
  · simp only [Bounds.atMost, Except.bind_eq_ok_iff, Except.pure_eq_ok_iff] at hrefined
    obtain ⟨n, -, rfl⟩ := hrefined
    exact hb
  · simp only [Bounds.above, Except.bind_eq_ok_iff, Except.pure_eq_ok_iff] at hrefined
    obtain ⟨n, -, rfl⟩ := hrefined
    exact hb
  · simp only [Bounds.below, Except.bind_eq_ok_iff, Except.pure_eq_ok_iff] at hrefined
    obtain ⟨n, -, rfl⟩ := hrefined
    exact hb
  · simp only [Bounds.multipleOf, Except.bind_eq_ok_iff] at hrefined
    obtain ⟨n, -, hrefined⟩ := hrefined
    split at hrefined
    · next hpositive =>
      cases hrefined
      simp [hb, hpositive]
    · cases hrefined

/-- **The rule of a call's arguments** is made of the character set and the lengths among them, and the
character set is not empty. -/
theorem make_of_ofArguments {defaultCharset : String} {args : List Value} {rule : CharsetRule}
    (h : CharsetRule.ofArguments defaultCharset args = .ok rule) :
    rule.charset = (CharsetRule.splitArguments defaultCharset args).1 ∧ rule.charset ≠ "" ∧
      CharsetRule.lengths args.length (CharsetRule.splitArguments defaultCharset args).2 =
        .ok (rule.least, rule.most) ∧
      CharsetRule.make rule.charset rule.least rule.most = .ok rule := by
  unfold CharsetRule.ofArguments at h
  dsimp only at h
  by_cases hempty : (CharsetRule.splitArguments defaultCharset args).1.isEmpty = true
  · rw [if_pos hempty] at h
    cases h
  · rw [if_neg hempty] at h
    simp only [Except.bind_eq_ok_iff] at h
    obtain ⟨⟨least, most⟩, hlengths, hmake⟩ := h
    obtain ⟨hcharset, rfl, rfl⟩ := CharsetRule.eq_of_make hmake
    refine ⟨hcharset, ?_, Except.mapError_eq_ok_iff.mp hlengths, hcharset ▸ hmake⟩
    rw [hcharset]
    intro hnone
    exact hempty (by rw [hnone]; rfl)

/-- The rule of a call's arguments has a character set, and is the rule of its own lengths. -/
theorem portable_ofArguments {defaultCharset : String} {args : List Value} {rule : CharsetRule}
    (h : CharsetRule.ofArguments defaultCharset args = .ok rule) : (Leaf.stringOf rule).Portable := by
  obtain ⟨-, hne, -, hmake⟩ := make_of_ofArguments h
  exact ⟨hne, hmake⟩

/-- A call that takes one argument gives what the argument gives. -/
theorem exists_of_unary {name : String} {args : List Pattern} {f : Value → Except Refusal Validator}
    {w : Validator} (h : unary name args f = .ok w) : ∃ x, f x = .ok w := by
  unfold unary at h
  split at h
  · exact ⟨_, h⟩
  · cases h

section MadeOf

variable (hgood : ∀ rule : Leaf, rule.Portable → good rule)
include hgood

/-- An array of a pattern that is made of `good` rules. -/
theorem madeOf_array {args : List Pattern} {w : Validator}
    (hargs : ∀ p ∈ args.getLast?, p.MadeOf good false) (h : array slot args = .ok w) :
    w.MadeOf good fun k _ => k.written ≠ "" := by
  unfold array at h
  split at h
  · cases h
  · next p hlast =>
    by_cases hmany : 3 < args.length
    · rw [if_pos hmany] at h
      cases h
    · rw [if_neg hmany] at h
      simp only [Except.bind_eq_ok_iff, Except.pure_eq_ok_iff] at h
      obtain ⟨⟨least, most⟩, -, v, hv, rfl⟩ := h
      have hmade : ∃ u, p.compile slot none false = .ok u ∧ u.MadeOf good fun k _ => k.written ≠ "" :=
        (hargs p hlast).compile hgood
      obtain ⟨u, hu, hmade⟩ := hmade
      rw [hu] at hv
      cases hv
      exact .arrayOf least most hmade

/-- **The builders give validators that are made of `good` rules**, apart from those for the very same
object. -/
theorem madeOf_call (hsteps : ∀ b, good (.number b) → b.steps.all Num.isPositive = true)
    {settings : Settings} {v w : Validator} {name : String} {args : List Pattern}
    (hv : v.MadeOf good fun k _ => k.written ≠ "") (hname : name ≠ "reference")
    (hargs : ∀ p ∈ args.getLast?, p.MadeOf good false) (h : call slot settings v name args = .ok w) :
    w.MadeOf good fun k _ => k.written ≠ "" := by
  have hlike : ∀ {x : Value}, sequenceLike x = .ok w → w.MadeOf good fun k _ => k.written ≠ "" := by
    intro x hx
    unfold sequenceLike at hx
    split at hx
    · cases hx
      exact .leaf (hgood _ trivial)
    · cases hx
  unfold call at h
  split at h
  · split at h
    · obtain ⟨x, hx⟩ := exists_of_unary h
      cases hv with
      | leaf hrule =>
      obtain ⟨b, rfl, hpositive⟩ := exists_of_callNumber (hsteps _ hrule) hx
      exact .leaf (hgood _ hpositive)
    · cases h
  · simp only [Except.bind_eq_ok_iff, Except.pure_eq_ok_iff] at h
    obtain ⟨rule, hrule, rfl⟩ := h
    exact .leaf (hgood _ (portable_ofArguments hrule))
  · cases h
  · exact madeOf_array hgood hargs h
  · cases h
  · obtain ⟨x, hx⟩ := exists_of_unary h
    exact hlike hx
  · obtain ⟨x, hx⟩ := exists_of_unary h
    exact hlike hx
  · exact absurd rfl hname
  · obtain ⟨x, hx⟩ := exists_of_unary h
    unfold mappingLike at hx
    split at hx
    · cases hx
      exact .leaf (hgood _ trivial)
    · cases hx
  · exact absurd rfl hname
  · cases h

end MadeOf

end Builder

end Conformance
