import Conformance.Proofs.Pattern.Recoverable

/-!
# Patterns that descriptors can tell in full

## Main Definitions

* `Value.StandsForRule` — the values that stand for a rule that can be told in full
* `Pattern.Portable` — the patterns that are put together from these, from portable validators and from
  keys that are written to different members

## Main statements

* `Pattern.Portable.compile` — a portable pattern compiles, and to a portable validator
* `Pattern.compile_session` — what compiles for no session compiles for any
* `Builder.portable_call` — the builders give portable validators
-/

namespace Conformance

/-- **A value stands for a rule that can be told in full**: a primitive, null, the ellipsis or the
marker of references, a class that JSON has a type for, or a regex without switches that nobody takes
for a string rule. -/
def Value.StandsForRule : Value → Prop
  | null | bool _ | number _ | text _ | ellipsis | selfMarker => True
  | cls c => (Leaf.instanceOf c).Portable
  | regex r => (Leaf.regex r).Portable
  | _ => False

namespace Pattern

/-- **The patterns that can be told in full**, `inOr` telling whether a pattern stands directly inside
a list of alternatives: there a list of one item is a literal, whatever the item is.  Lists of
alternatives are not empty; object patterns have no empty key, and no two keys that are written to the
same member; and validators that are compiled already are portable. -/
inductive Portable : Bool → Pattern → Prop where
  | value {inOr : Bool} {v : Value} : v.StandsForRule → Portable inOr (value v)
  | literal (form : SeqForm) (tag : Nat) (item : Pattern) : Portable true (seq form tag [item])
  | seq {inOr : Bool} {form : SeqForm} {tag : Nat} {items : List Pattern} : items ≠ [] →
    ¬ (inOr = true ∧ items.length = 1) → (∀ p ∈ items, Portable true p) →
    Portable inOr (seq form tag items)
  | mapping {inOr : Bool} {form : MapForm} {tag : Nat} {entries : List (Value × Pattern)}
    {keys : List Key} : entries.map Prod.fst = keys.map (fun k => .text k.written) →
    (∀ k ∈ keys, Key.ofWritten k.written = .ok k ∧ k.written ≠ "") →
    keys.Pairwise (fun k l => k.member ≠ l.member) → (∀ e ∈ entries, Portable false e.2) →
    Portable inOr (mapping form tag entries)
  | validator {inOr : Bool} {h : Handle} : h.validator.Portable → Portable inOr (validator h)

variable {slot : Nat → Slot} {inOr : Bool}

/-! ## Compiling portable patterns -/

/-- What stands for a rule that can be told in full is made of such rules. -/
theorem standsFor_of_standsForRule {v : Value} (h : v.StandsForRule) : v.StandsFor Leaf.Portable := by
  cases v with
  | cls c => rcases h with rfl | rfl | rfl <;> simp [Value.StandsFor, Leaf.Portable]
  | _ => exact h

/-- A portable pattern is made of rules that can be told in full. -/
theorem Portable.madeOf {p : Pattern} (h : p.Portable inOr) : p.MadeOf Leaf.Portable inOr := by
  induction h with
  | value hv => exact .value (standsFor_of_standsForRule hv)
  | literal form tag item => exact .literal form tag item
  | seq hne hplace _ ih => exact .seq hne hplace ih
  | mapping hwritten hkeys hmembers _ ih => exact .mapping hwritten hkeys hmembers ih
  | validator hv => exact .validator hv.madeOf

/-- A portable pattern can be read back. -/
theorem Portable.recoverable {p : Pattern} (h : p.Portable inOr) : p.Recoverable inOr :=
  h.madeOf.mono fun _ => Leaf.Portable.recoverable

/-- **A portable pattern compiles, and to a portable validator.** -/
theorem Portable.compile {p : Pattern} (h : p.Portable inOr) :
    ∃ v, p.compile slot none inOr = .ok v ∧ v.Portable := by
  have hmade : ∃ v, p.compile slot none inOr = .ok v ∧
      v.MadeOf Leaf.Portable fun k _ => k.written ≠ "" := h.madeOf.compile fun _ => id
  obtain ⟨v, hv, hmade⟩ := hmade
  exact ⟨v, hv, hmade.portable⟩

/-- What a portable pattern compiles to is portable. -/
theorem Portable.of_compile {p : Pattern} {v : Validator} (h : p.Portable inOr)
    (hv : p.compile slot none inOr = .ok v) : v.Portable := by
  have hmade : ∃ w, p.compile slot none inOr = .ok w ∧ w.Portable := h.compile
  obtain ⟨w, hw, hportable⟩ := hmade
  cases hw.symm.trans hv
  exact hportable

/-- **What compiles for no session compiles for any**, to what becomes the same once the references are
the session's own. -/
theorem compile_session {p : Pattern} {u : Validator} (hu : p.compile slot none inOr = .ok u)
    (n : Nat) :
    ∃ v, p.compile slot (some n) inOr = .ok v ∧ v.adopt (some n) = u.adopt (some n) := by
  have halike : Validator.adopt (some n) <$> p.compile slot (some n) inOr =
      .ok (u.adopt (some n)) := by
    have hsame := compileAlike_session slot n inOr p
    rw [CompileAlike, hu] at hsame
    exact hsame
  exact Except.map_eq_ok_iff.mp halike

end Pattern

/-- **The builders give portable validators**, apart from those for the very same object. -/
theorem Builder.portable_call {slot : Nat → Slot} {settings : Settings} {v w : Validator} {name : String}
    {args : List Pattern} (hv : v.Portable) (hname : name ≠ "reference")
    (hargs : ∀ p ∈ args.getLast?, p.Portable false) (h : call slot settings v name args = .ok w) :
    w.Portable :=
  (madeOf_call (fun _ => id) (fun _ => id) hv.madeOf hname (fun p hp => (hargs p hp).madeOf) h).portable

end Conformance
