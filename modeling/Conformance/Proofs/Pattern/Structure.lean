import Conformance.Pattern.Compiling
import Conformance.Proofs.Key
import Conformance.Proofs.Validator.References

/-!
# The structure of patterns

## Main Definitions

* `Pattern.Embeds` — a validator that a pattern brings with it, compiled before the pattern is
* `Pattern.IsProperty` — the property that an entry of a mapping is compiled to

## Main statements

* `Pattern.treeInduction` — induction on a pattern
* `Pattern.compileValue_eq_ok` — what a pattern without parts becomes
* `Pattern.compileEach_eq_ok_iff`, `Pattern.forall₂_of_compileEntries` — alternatives and entries are
  compiled one by one
* `Pattern.holds_compile` — the references that compiling makes are the session's own
-/

namespace Conformance.Pattern

/-- **Induction on a pattern.**  Alternatives and entries are the members of lists, and each comes
with its hypothesis. -/
@[elab_as_elim]
theorem treeInduction {P : Pattern → Prop} (value : ∀ v, P (value v))
    (seq : ∀ form tag items, (∀ p ∈ items, P p) → P (seq form tag items))
    (mapping : ∀ form tag (entries : List (Value × Pattern)),
      (∀ e ∈ entries, P e.2) → P (mapping form tag entries))
    (validator : ∀ h, P (validator h)) (p : Pattern) : P p :=
  Pattern.rec (motive_1 := P) (motive_2 := fun ps => ∀ p ∈ ps, P p)
    (motive_3 := fun es => ∀ e ∈ es, P e.2) (motive_4 := fun e => P e.2)
    value seq mapping validator
    (by simp) (fun _ _ hp hps => List.forall_mem_cons.mpr ⟨hp, hps⟩)
    (by simp) (fun _ _ he hes => List.forall_mem_cons.mpr ⟨he, hes⟩)
    (fun _ _ h => h) p

/-- **A validator that a pattern brings with it**: one that stands in the pattern, or the one that
the `schema` of an object in the pattern is. -/
inductive Embeds (slot : Nat → Slot) : Pattern → Validator → Prop where
  | validator (h : Handle) : Embeds slot (.validator h) h.validator
  | target {v : Value} {t : Target} {h : Handle} :
    target? v = some t → slot t.id = .validator h → Embeds slot (.value v) h.validator
  | item {form : SeqForm} {tag : Nat} {items : List Pattern} {p : Pattern} {v : Validator} :
    p ∈ items → Embeds slot p v → Embeds slot (.seq form tag items) v
  | entry {form : MapForm} {tag : Nat} {entries : List (Value × Pattern)} {e : Value × Pattern}
    {v : Validator} : e ∈ entries → Embeds slot e.2 v → Embeds slot (.mapping form tag entries) v

variable {slot : Nat → Slot} {session : Option Nat} {inOr : Bool}

/-- **What a pattern without parts becomes**: a delegate, a reference of the session, or a rule. -/
theorem compileValue_eq_ok {v : Value} {w : Validator}
    (h : compileValue slot session inOr v = .ok w) :
    (∃ t, target? v = some t ∧ w = .delegate t) ∨ w = .selfRef session ∨ ∃ rule, w = .leaf rule := by
  unfold compileValue at h
  split at h
  · split at h
    · next t ht =>
      cases h
      exact .inl ⟨t, ht, rfl⟩
    · cases h
  · cases h
    exact .inr (.inl rfl)
  all_goals first
    | cases h
      exact .inr (.inr ⟨_, rfl⟩)
    | cases h

/-- A sequence that is not a literal is a choice of its items. -/
theorem compile_seq {form : SeqForm} {tag : Nat} {items : List Pattern}
    (h : ¬ (inOr = true ∧ items.length = 1)) :
    compile slot session inOr (.seq form tag items) =
      Validator.anyOf <$> compileEach slot session items := by
  match items with
  | [] => rfl
  | [item] =>
    have hinOr : inOr = false := by simpa using h
    rw [compile, hinOr, if_neg Bool.false_ne_true, compileEach, compileEach]
    cases compile slot session true item <;> rfl
  | item :: item' :: rest => simp [compile]

/-- Directly inside a list of alternatives a sequence of one item is a literal. -/
theorem compile_seq_singleton (form : SeqForm) (tag : Nat) (item : Pattern) :
    compile slot session true (.seq form tag [item]) = .ok (.leaf (.literal item.toValue)) := by
  rw [compile, if_pos rfl]

/-- Alternatives are compiled one by one. -/
theorem compileEach_eq_ok_iff {ps : List Pattern} {vs : List Validator} :
    compileEach slot session ps = .ok vs ↔
      List.Forall₂ (fun p v => compile slot session true p = .ok v) ps vs := by
  induction ps generalizing vs with
  | nil => rw [List.forall₂_nil_left_iff, compileEach, Except.ok.injEq, eq_comm]
  | cons p ps ih =>
    rw [List.forall₂_cons_left_iff]
    simp only [compileEach, Except.bind_eq_ok_iff, Except.pure_eq_ok_iff, ih]
    constructor
    · rintro ⟨v, hv, vs', hvs, rfl⟩
      exact ⟨v, vs', hv, hvs, rfl⟩
    · rintro ⟨v, vs', hv, hvs, rfl⟩
      exact ⟨v, hv, vs', hvs, rfl⟩

/-- **What an entry of a mapping is compiled to**: its key is a text, read as a key, and what stands
under it is compiled as if it stood alone. -/
structure IsProperty (slot : Nat → Slot) (session : Option Nat) (e : Value × Pattern)
    (q : Property Validator) : Prop where
  written : e.1 = .text q.key.written
  key : Key.ofWritten q.key.written = .ok q.key
  rule : compile slot session false e.2 = .ok q.rule

/-- A name that was split is read as a key. -/
theorem ofWritten_of_split {written : Value} {quantifier : Quantifier} {source : Option String}
    {key : Key} (hsplit : Key.splitValue written = .ok (quantifier, source))
    (hkey : Key.ofParts written.nameText quantifier source = .ok key) :
    written = .text key.written ∧ Key.ofWritten key.written = .ok key := by
  cases written with
  | text s =>
    have hwhole : Key.ofWritten s = .ok key := by
      rw [Key.ofWritten, show Key.split s = .ok (quantifier, source) from hsplit]
      exact hkey
    have hs : key.written = s := Key.written_of_ofWritten hwhole
    exact ⟨congrArg Value.text hs.symm, by rw [hs, hwhole]⟩
  | _ => cases hsplit

/-- A key and what stands under it compile to a property. -/
theorem compileEntries_cons {k : Key} {p : Pattern} {v : Validator}
    {entries : List (Value × Pattern)} {ps : List (Property Validator)}
    (hk : Key.ofWritten k.written = .ok k) (hv : compile slot session false p = .ok v)
    (hps : compileEntries slot session entries = .ok ps) :
    compileEntries slot session ((.text k.written, p) :: entries) = .ok (⟨k, p.label?, v⟩ :: ps) := by
  -- a key is split before what stands under it is compiled, and its name is read afterwards
  unfold Key.ofWritten at hk
  cases hsplit : Key.split k.written with
  | error e =>
    rw [hsplit] at hk
    cases hk
  | ok parts =>
    obtain ⟨quantifier, source⟩ := parts
    rw [hsplit] at hk
    have hparts : Key.ofParts (Value.text k.written).nameText quantifier source = .ok k := hk
    rw [compileEntries, Key.splitValue, hsplit]
    simp only [Except.mapError, Except.ok_bind, hv, hparts, hps]
    rfl

/-- Entries are compiled one by one. -/
theorem forall₂_of_compileEntries {entries : List (Value × Pattern)} {qs : List (Property Validator)}
    (h : compileEntries slot session entries = .ok qs) :
    List.Forall₂ (IsProperty slot session) entries qs := by
  induction entries generalizing qs with
  | nil =>
    cases h
    exact .nil
  | cons e entries ih =>
    obtain ⟨written, p⟩ := e
    simp only [compileEntries, Except.bind_eq_ok_iff, Except.pure_eq_ok_iff,
      Except.mapError_eq_ok_iff] at h
    obtain ⟨⟨quantifier, source⟩, hsplit, v, hv, key, hkey, tail, htail, rfl⟩ := h
    obtain ⟨hwritten, hread⟩ := ofWritten_of_split hsplit hkey
    exact .cons ⟨hwritten, hread, hv⟩ (ih htail)

/-- A mapping with one name is compiled to an object pattern with one key. -/
theorem exists_of_compile_single {form : MapForm} {tag : Nat} {name : String} {p : Pattern} {v : Validator}
    (h : compile slot session inOr (mapping form tag [(.text name, p)]) = .ok v) :
    ∃ q, v = .object [q] ∧ Key.ofWritten name = .ok q.key ∧ compile slot session false p = .ok q.rule := by
  simp only [compile, Except.bind_eq_ok_iff, Except.pure_eq_ok_iff] at h
  obtain ⟨ps, hps, rfl⟩ := h
  have hone := forall₂_of_compileEntries hps
  rw [List.forall₂_cons_left_iff] at hone
  obtain ⟨q, rest, hq, hnil, rfl⟩ := hone
  rw [List.forall₂_nil_left_iff] at hnil
  subst hnil
  have hwritten : name = q.key.written := Value.text.inj hq.written
  exact ⟨q, rfl, hwritten ▸ hq.key, hq.rule⟩

/-- **Compiling makes references of its own session only.**  Any other reference in the result was
there before, in a validator that the pattern brought with it. -/
theorem holds_compile {p : Pattern} {v : Validator} (h : compile slot session inOr p = .ok v)
    {own : Option Nat} (hown : v.Holds slot own) :
    own = session ∨ ∃ w, p.Embeds slot w ∧ w.Holds slot own := by
  induction p using treeInduction generalizing v inOr with
  | value x =>
    rw [compile, Except.mapError_eq_ok_iff] at h
    rcases compileValue_eq_ok h with ⟨t, ht, rfl⟩ | rfl | ⟨rule, rfl⟩
    · obtain ⟨handle, hslot, hhandle⟩ := (Validator.holds_delegate t).mp hown
      exact .inr ⟨handle.validator, .target ht hslot, hhandle⟩
    · exact .inl ((Validator.holds_selfRef session).mp hown).symm
    · exact absurd hown (Validator.not_holds_leaf rule)
  | seq form tag items ih =>
    by_cases hliteral : inOr = true ∧ items.length = 1
    · obtain ⟨rfl, hlength⟩ := hliteral
      obtain ⟨item, rfl⟩ := List.length_eq_one_iff.mp hlength
      rw [compile_seq_singleton] at h
      cases h
      exact absurd hown (Validator.not_holds_leaf _)
    · rw [compile_seq hliteral, Except.map_eq_ok_iff] at h
      obtain ⟨vs, hvs, rfl⟩ := h
      obtain ⟨w, hw, hholds⟩ := (Validator.holds_anyOf vs).mp hown
      obtain ⟨p, hp, hcompile⟩ := (compileEach_eq_ok_iff.mp hvs).exists_left hw
      rcases ih p hp hcompile hholds with rfl | ⟨u, hembed, hu⟩
      · exact .inl rfl
      · exact .inr ⟨u, .item hp hembed, hu⟩
  | mapping form tag entries ih =>
    simp only [compile, Except.bind_eq_ok_iff, Except.pure_eq_ok_iff] at h
    obtain ⟨ps, hps, rfl⟩ := h
    obtain ⟨q, hq, hholds⟩ := (Validator.holds_object ps).mp hown
    obtain ⟨e, he, hentry⟩ := (forall₂_of_compileEntries hps).exists_left hq
    rcases ih e he hentry.rule hholds with rfl | ⟨u, hembed, hu⟩
    · exact .inl rfl
    · exact .inr ⟨u, .entry he hembed, hu⟩
  | validator handle =>
    cases h
    exact .inr ⟨handle.validator, .validator handle, hown⟩

end Conformance.Pattern
