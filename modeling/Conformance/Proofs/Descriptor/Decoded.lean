import Conformance.Proofs.Descriptor.Faults
import Conformance.Proofs.Validator.Library

/-!
# What descriptors are read as

A descriptor is read as a validator that can be read back from a descriptor of its own.  The only thing
in the way are choices without alternatives, and those come from empty lists of types.

## Main Definitions

* `Descriptor.HasEmptyType` — a descriptor with an empty list of types in one of its nodes
* `Validator.Decoded` — the validators that descriptors are read as
* `Validator.KeysDiffer` — a validator in which no two keys are written to the same member

## Main statements

* `Descriptor.decoded_decode` — a descriptor that is read is read as one of them
* `Descriptor.selfContained_decode` — decoding makes no delegates, and all references that it makes are
  the session's own
* `Descriptor.ofLibrary_decode` — decoding makes validators of the library
* `Validator.Decoded.madeOf_release` — what was read is made of rules that come back with the same
  meaning
-/

namespace Conformance

/-- **A descriptor with an empty list of types** in one of its nodes, or among the types of one. -/
inductive Descriptor.HasEmptyType : Value → Prop where
  | here {tag tag' : Nat} {ms : Members} : member? "type" ms = some (.seq .list tag' []) →
    HasEmptyType (.mapping .dict tag ms)
  | listed {tag tag' : Nat} {ms : Members} {types : List Value} {type : Value} :
    member? "type" ms = some (.seq .list tag' types) → type ∈ types →
    HasEmptyType (.record [("type", type)]) → HasEmptyType (.mapping .dict tag ms)
  | inside {tag : Nat} {ms : Members} {node : Value} : Subnode ms node → HasEmptyType node →
    HasEmptyType (.mapping .dict tag ms)

/-- **The validators that descriptors are read as** in a session: rules that can be read back and come
back with the same meaning, keys that are read from their written forms, and references of the session,
without delegates.  Choices have alternatives unless `empty` is so. -/
inductive Validator.Decoded (n : Nat) (empty : Prop) : Validator → Prop where
  | leaf {rule : Leaf} : rule.Recoverable → rule.IsExact → Decoded n empty (leaf rule)
  | anyOf {vs : List Validator} : (vs = [] → empty) → (∀ v ∈ vs, Decoded n empty v) →
    Decoded n empty (anyOf vs)
  | object {ps : List (Property Validator)} :
    (∀ p ∈ ps, Key.ofWritten p.key.written = .ok p.key) → (∀ p ∈ ps, Decoded n empty p.rule) →
    Decoded n empty (object ps)
  | arrayOf {items : Validator} (least : Nat) (most : Option Nat) :
    Decoded n empty items → Decoded n empty (arrayOf items least most)
  | selfRef : Decoded n empty (selfRef (some n))

/-- **No two keys are written to the same member**, in any object pattern that stands in a validator. -/
def Validator.KeysDiffer (v : Validator) : Prop :=
  ∀ ps, Relation.ReflTransGen Validator.Part v (.object ps) → (ps.map (·.key.member)).Nodup

/-- The key of a property is read from its written form, and so is what stands under it. -/
structure Property.Decoded (n : Nat) (empty : Prop) (p : Property Validator) : Prop where
  key : Key.ofWritten p.key.written = .ok p.key
  rule : p.rule.Decoded n empty

namespace Validator.Decoded

variable {n : Nat} {empty : Prop} {v : Validator}

/-- A rule that is no class. -/
theorem rule {rule : Leaf} (h : rule.Recoverable) (hclass : ∀ c, rule ≠ .instanceOf c) :
    (Validator.leaf rule).Decoded n empty :=
  .leaf h fun c hc => absurd hc (hclass c)

theorem mono (h : v.Decoded n empty) {empty' : Prop} (himp : empty → empty') :
    v.Decoded n empty' := by
  induction h with
  | leaf hrule hexact => exact .leaf hrule hexact
  | anyOf hne _ ih => exact .anyOf (fun hnil => himp (hne hnil)) ih
  | object hkeys _ ih => exact .object hkeys ih
  | arrayOf least most _ ih => exact .arrayOf least most ih
  | selfRef => exact .selfRef

/-- What stands in something that was read was read. -/
theorem part {w : Validator} (h : v.Decoded n empty) (hpart : v.Part w) : w.Decoded n empty := by
  cases hpart with
  | copy t => cases h
  | alternative hmem => cases h with | anyOf _ h => exact h _ hmem
  | property hmem => cases h with | object _ h => exact h _ hmem
  | element => cases h with | arrayOf _ _ h => exact h

theorem reaches {w : Validator} (h : v.Decoded n empty)
    (hreaches : Relation.ReflTransGen Part v w) : w.Decoded n empty := by
  induction hreaches with
  | refl => exact h
  | tail _ hpart ih => exact ih.part hpart

theorem selfContained (h : v.Decoded n empty) : v.SelfContained (some n) := by
  induction h with
  | leaf _ _ => exact .leaf _
  | anyOf _ _ ih => exact .anyOf ih
  | object _ _ ih => exact .object ih
  | arrayOf least most _ ih => exact .arrayOf least most ih
  | selfRef => exact .selfRef

theorem ofLibrary {slot : Nat → Slot} (h : v.Decoded n empty) : v.OfLibrary slot := by
  induction h with
  | leaf hrule _ => exact .leaf hrule.wellFormed
  | anyOf _ _ ih => exact .anyOf ih
  | object hkeys _ ih => exact .object fun p hp => ⟨hkeys p hp, ih p hp⟩
  | arrayOf least most _ ih => exact .arrayOf least most ih
  | selfRef => exact .selfRef (some n)

/-- What was read, without its session, is made of rules that come back with the same meaning, if no choice
is without alternatives and no two keys of an object pattern are written to the same member. -/
theorem madeOf_release {kept : Key → Validator → Prop} (h : v.Decoded n empty) (hempty : ¬ empty)
    (hkeys : v.KeysDiffer) (hkept : ∀ ps, Relation.ReflTransGen Part v (.object ps) →
      ∀ p ∈ ps, kept p.key p.rule.release) :
    v.release.MadeOf (fun rule => rule.Recoverable ∧ rule.IsExact) kept := by
  induction h with
  | leaf hrule hexact => exact .leaf ⟨hrule, hexact⟩
  | @anyOf vs hne _ ih =>
    rw [release, releaseEach_eq_map]
    refine .anyOf (fun hnil => hempty (hne (List.map_eq_nil_iff.mp hnil)))
      (List.forall_mem_map.mpr fun w hw => ?_)
    exact ih w hw (fun ps hps => hkeys ps (.head (.alternative hw) hps)) fun ps hps =>
      hkept ps (.head (.alternative hw) hps)
  | @object ps hread _ ih =>
    rw [release, releaseProperties_eq_map]
    refine .object (List.forall_mem_map.mpr fun p hp => ⟨hread p hp, hkept ps .refl p hp⟩)
      (List.pairwise_map.mpr (List.pairwise_map.mp (hkeys ps .refl)))
      (List.forall_mem_map.mpr fun p hp => ?_)
    exact ih p hp (fun qs hqs => hkeys qs (.head (.property hp) hqs)) fun qs hqs =>
      hkept qs (.head (.property hp) hqs)
  | @arrayOf items least most _ ih =>
    refine .arrayOf least most (ih (fun ps hps => hkeys ps (.head (.element items least most) hps)) ?_)
    exact fun ps hps => hkept ps (.head (.element items least most) hps)
  | selfRef => exact .selfRef

end Validator.Decoded

namespace Descriptor

variable {n : Nat} {empty : Prop} {decode : NodeReader} {pointer : String} {ms : Members}
  {v : Validator}

/-! ## Leaves -/

theorem decoded_decodeConst (x : Value) : (decodeConst x).Decoded n empty := by
  unfold decodeConst
  split <;> exact .rule trivial (by simp)

theorem decoded_decodeEnum {values : Value} (h : decodeEnum pointer ms values = .ok v) :
    v.Decoded n empty := by
  simp only [decodeEnum, Except.bind_eq_ok_iff] at h
  obtain ⟨_, -, h⟩ := h
  split at h
  · split at h
    · split at h
      · cases h
        exact .rule trivial (by simp)
      · cases h
        refine .anyOf (by simp) fun w hw => ?_
        obtain ⟨x, -, rfl⟩ := List.mem_map.mp hw
        exact .rule trivial (by simp)
    · split at h
      · cases h
      · split at h
        · cases h
          exact .rule trivial (by simp)
        · split at h
          · cases h
            exact .rule trivial (by simp)
          · cases h
  · cases h

/-- A text that is not read as a string rule is read as a regex of its own. -/
theorem decoded_decodeRegex {source : String} (hshape : NoStringRule source)
    (h : decodeRegex pointer source = .ok v) : v.Decoded n empty := by
  unfold decodeRegex at h
  split at h
  · next r hr =>
    cases h
    obtain rfl : r.source = source := Key.source_of_ofSource hr
    exact .rule ⟨hr, hshape⟩ (by simp)
  · cases h
  · cases h

theorem decoded_decodeString (h : decodeString pointer ms = .ok v) : v.Decoded n empty := by
  simp only [decodeString, Except.bind_eq_ok_iff] at h
  obtain ⟨_, -, h⟩ := h
  split at h
  · cases h
    exact .rule trivial (by simp)
  · split at h
    · next hsplit => exact decoded_decodeRegex (noStringRule_of_shape hsplit) h
    · next charset counts hsplit =>
      obtain ⟨⟨least, most⟩, hlengths, h⟩ := Except.bind_eq_ok_iff.mp h
      split at h
      · next hmake =>
        cases h
        obtain ⟨hcharset, hself⟩ := CharsetRule.make_self hmake
        refine .rule ⟨?_, hself⟩ (by simp)
        rw [hcharset]
        exact StringRule.charset_of_split? hsplit
      · next e hmake =>
        refine decoded_decodeRegex (fun charset' counts' hsplit' => ?_) h
        cases hsplit.symm.trans hsplit'
        exact ⟨least, most, e, Except.mapError_eq_ok_iff.mp hlengths, hmake⟩
      · cases h
  · cases h

theorem decoded_decodeNumber (h : decodeNumber pointer ms = .ok v) : v.Decoded n empty := by
  simp only [decodeNumber, Except.bind_eq_ok_iff] at h
  obtain ⟨_, -, _, -, _, -, _, -, _, -, _, -, _, -, h⟩ := h
  split at h
  · next hpositive =>
    cases h
    exact .rule hpositive (by simp)
  · cases h

theorem decoded_decodeSimple {rule : Leaf} (h : decodeSimple pointer ms rule = .ok v)
    (hrule : (Validator.leaf rule).Decoded n empty) : v.Decoded n empty := by
  simp only [decodeSimple, Except.bind_eq_ok_iff] at h
  obtain ⟨_, -, h⟩ := h
  cases h
  exact hrule

/-! ## Nodes with nodes inside -/

/-- A reader gives what descriptors are read as, for a node. -/
def ReadsDecoded (n : Nat) (empty : Prop) (decode : NodeReader) (node : Value) : Prop :=
  ∀ ⦃pointer v⦄, decode node pointer = .ok v → v.Decoded n empty

theorem decoded_decodeEach {i : Nat} {nodes : List Value}
    (hdecode : ∀ node ∈ nodes, ReadsDecoded n empty decode node) {vs : List Validator}
    (h : decodeEach decode pointer i nodes = .ok vs) :
    (vs = [] → nodes = []) ∧ ∀ w ∈ vs, w.Decoded n empty := by
  induction nodes generalizing i vs with
  | nil =>
    cases h
    exact ⟨fun _ => rfl, fun w hw => nomatch hw⟩
  | cons node nodes ih =>
    obtain ⟨hnode, hnodes⟩ := List.forall_mem_cons.mp hdecode
    simp only [decodeEach, Except.bind_eq_ok_iff, Except.pure_eq_ok_iff] at h
    obtain ⟨d, hd, rest, hrest, rfl⟩ := h
    exact ⟨by simp, List.forall_mem_cons.mpr ⟨hnode hd, (ih hnodes hrest).2⟩⟩

/-- A property is what was read under its key. -/
theorem rule_of_property {written : String} {rule : Validator} {p : Property Validator}
    (h : property pointer written rule = .ok p) : p.rule = rule := by
  unfold property at h
  split at h <;> cases h
  rfl

/-- The key of a property is read from its written form. -/
theorem decoded_property {written : String} {rule : Validator} {p : Property Validator}
    (hrule : rule.Decoded n empty) (h : property pointer written rule = .ok p) :
    p.Decoded n empty := by
  unfold property at h
  split at h
  · next key hkey =>
    cases h
    exact ⟨by rwa [Key.written_of_ofWritten hkey], hrule⟩
  · cases h
  · cases h

theorem decoded_decodeProperty {required : List Value} {name node : Value}
    (hdecode : ReadsDecoded n empty decode node) {p : Property Validator}
    (h : decodeProperty decode pointer required name node = .ok p) : p.Decoded n empty := by
  simp only [decodeProperty, Except.bind_eq_ok_iff] at h
  obtain ⟨rule, hrule, h⟩ := h
  split at h
  · split at h
    · split at h
      · cases h
      · exact decoded_property (hdecode hrule) h
    · split at h <;> exact decoded_property (hdecode hrule) h
  · cases h

theorem decoded_decodePatternProperty {quantifiers : Members} {source node : Value}
    (hdecode : ReadsDecoded n empty decode node) {p : Property Validator}
    (h : decodePatternProperty decode pointer quantifiers source node = .ok p) :
    p.Decoded n empty := by
  simp only [decodePatternProperty, Except.bind_eq_ok_iff] at h
  obtain ⟨rule, hrule, _, -, h⟩ := h
  split at h
  · obtain ⟨_, -, h⟩ := Except.bind_eq_ok_iff.mp h
    exact decoded_property (hdecode hrule) h
  · cases h
  · cases h

theorem decoded_decodeMembers {read : Value → Value → Except Refusal (Property Validator)}
    (hread : ∀ e ∈ ms, ∀ p, read e.1 e.2 = .ok p → p.Decoded n empty)
    {ps : List (Property Validator)} (h : decodeMembers read ms = .ok ps) :
    ∀ p ∈ ps, p.Decoded n empty := by
  induction ms generalizing ps with
  | nil =>
    cases h
    exact fun p hp => nomatch hp
  | cons m ms ih =>
    obtain ⟨hm, hms⟩ := List.forall_mem_cons.mp hread
    simp only [decodeMembers, Except.bind_eq_ok_iff, Except.pure_eq_ok_iff] at h
    obtain ⟨p, hp, rest, hrest, rfl⟩ := h
    exact List.forall_mem_cons.mpr ⟨hm p hp, ih hms hrest⟩

section Inside

variable (hinside : ∀ node, Subnode ms node → ReadsDecoded n empty decode node)
include hinside

theorem decoded_decodeArray (h : decodeArray decode pointer ms = .ok v) : v.Decoded n empty := by
  simp only [decodeArray, Except.bind_eq_ok_iff] at h
  obtain ⟨_, -, h⟩ := h
  split at h
  · split at h <;> cases h
    exact .rule trivial (by simp)
  · next items hitems =>
    have hdecode := hinside items (.items hitems)
    simp only [Except.bind_eq_ok_iff] at h
    obtain ⟨least, -, h⟩ := h
    split at h
    · simp only [Except.bind_eq_ok_iff, Except.pure_eq_ok_iff] at h
      obtain ⟨_, -, items, hitems, rfl⟩ := h
      exact .arrayOf _ _ (hdecode hitems)
    · simp only [Except.bind_eq_ok_iff, Except.pure_eq_ok_iff] at h
      obtain ⟨_, -, items, hitems, rfl⟩ := h
      exact .arrayOf _ _ (hdecode hitems)

theorem decoded_decodeAdditional {ps : List (Property Validator)}
    (h : decodeAdditional decode pointer ms = .ok ps) : ∀ p ∈ ps, p.Decoded n empty := by
  unfold decodeAdditional at h
  split at h
  · next hvalue =>
    have hdecode := hinside _ (.additional (member?_of_getD hvalue (by simp)))
    simp only [Except.bind_eq_ok_iff, Except.pure_eq_ok_iff] at h
    obtain ⟨rule, hrule, p, hp, rfl⟩ := h
    exact List.forall_mem_singleton.mpr (decoded_property (hdecode hrule) hp)
  · cases h
    exact List.forall_mem_nil _
  · cases h

theorem decoded_decodeObject (h : decodeObject decode pointer ms = .ok v) : v.Decoded n empty := by
  simp only [decodeObject, Except.bind_eq_ok_iff] at h
  obtain ⟨_, -, h⟩ := h
  split at h
  · next properties patterns _ hproperties hpatterns _ =>
    simp only [Except.bind_eq_ok_iff, Except.pure_eq_ok_iff] at h
    obtain ⟨required, -, named, hnamed, matched, hmatched, additional, hadditional, rfl⟩ := h
    have hnamed := decoded_decodeMembers (fun e he _ => decoded_decodeProperty
      (hinside e.2 (.member (.inl rfl) hproperties he))) hnamed
    have hmatched := decoded_decodeMembers (fun e he _ => decoded_decodePatternProperty
      (hinside e.2 (.member (.inr rfl) hpatterns he))) hmatched
    have hadditional := decoded_decodeAdditional hinside hadditional
    have hall : ∀ p ∈ named ++ matched ++ additional, p.Decoded n empty :=
      List.forall_mem_append.mpr ⟨List.forall_mem_append.mpr ⟨hnamed, hmatched⟩, hadditional⟩
    exact .object (fun p hp => (hall p hp).key) fun p hp => (hall p hp).rule
  · cases h

theorem decoded_decodeTyped {type : String} (h : decodeTyped decode pointer ms type = .ok v) :
    v.Decoded n empty := by
  have hclass : ∀ {b : BuiltinClass}, b = .bool ∨ b = .int →
      (Validator.leaf (.instanceOf (.builtin b))).Decoded n empty := by
    rintro b (rfl | rfl)
    · exact .leaf rfl fun c hc => by cases hc; decide
    · exact .leaf rfl fun c hc => by cases hc; decide
  unfold decodeTyped at h
  split at h
  · exact decoded_decodeSimple h (.rule trivial (by simp))
  · exact decoded_decodeSimple h (hclass (.inl rfl))
  · exact decoded_decodeSimple h (hclass (.inr rfl))
  · exact decoded_decodeString h
  · exact decoded_decodeNumber h
  · exact decoded_decodeArray hinside h
  · exact decoded_decodeObject hinside h
  · cases h

end Inside

/-- **One node** is read as a validator of the session, as long as the nodes inside it are, and those of
its types. -/
theorem decoded_decodeMembersOf
    (hinside : ∀ node, Subnode ms node → ReadsDecoded n empty decode node)
    (htypes : ∀ tag types, member? "type" ms = some (.seq .list tag types) →
      (types = [] → empty) ∧ ∀ t ∈ types, ReadsDecoded n empty decode (.record [("type", t)]))
    (h : decodeMembersOf n decode pointer ms = .ok v) : v.Decoded n empty := by
  unfold decodeMembersOf at h
  dsimp only at h
  split at h
  · cases h
    exact .rule trivial (by simp)
  split at h
  · cases h
  split at h
  · -- a reference
    simp only [Except.bind_eq_ok_iff] at h
    obtain ⟨_, -, h⟩ := h
    split at h <;> cases h
    exact .selfRef
  split at h
  · -- a choice
    next hbranches =>
    simp only [Except.bind_eq_ok_iff] at h
    obtain ⟨_, -, h⟩ := h
    split at h
    · simp only [Except.bind_eq_ok_iff, Except.pure_eq_ok_iff] at h
      obtain ⟨vs, hvs, rfl⟩ := h
      obtain ⟨hne, hall⟩ := decoded_decodeEach
        (fun node hnode => hinside node (.alternative hbranches hnode)) hvs
      exact .anyOf (fun hnil => by cases hne hnil) hall
    · cases h
  split at h
  · -- a constant
    simp only [Except.bind_eq_ok_iff, Except.pure_eq_ok_iff] at h
    obtain ⟨_, -, rfl⟩ := h
    exact decoded_decodeConst _
  split at h
  · exact decoded_decodeEnum h
  split at h
  · simp only [Except.bind_eq_ok_iff] at h
    obtain ⟨_, -, h⟩ := h
    cases h
  · -- a choice of types
    next hlist =>
    simp only [Except.bind_eq_ok_iff, Except.pure_eq_ok_iff] at h
    obtain ⟨_, -, vs, hvs, rfl⟩ := h
    obtain ⟨hempty, hread⟩ := htypes _ _ hlist
    obtain ⟨hne, hall⟩ := decoded_decodeEach (List.forall_mem_map.mpr hread) hvs
    exact .anyOf (fun hnil => hempty (List.map_eq_nil_iff.mp (hne hnil))) hall
  · exact decoded_decodeTyped hinside h
  · cases h

theorem readsDecoded_decodeTo (n depth : Nat) (node : Value) :
    ReadsDecoded n (HasEmptyType node) (decodeTo n depth) node := by
  induction depth generalizing node with
  | zero => exact fun pointer v h => nomatch h
  | succ depth ih =>
    intro pointer v h
    unfold decodeTo decodeNode at h
    split at h
    · -- an empty list of types in a node inside is one in the whole
      refine decoded_decodeMembersOf (fun node hsub _ _ hread => ?_) (fun tag types htypes => ?_) h
      · exact (ih node hread).mono (.inside hsub)
      · refine ⟨?_, fun t ht _ _ hread => (ih _ hread).mono (.listed htypes ht)⟩
        rintro rfl
        exact .here htypes
    · cases h

/-- **What a descriptor is read as.** -/
theorem decoded_decode {descriptor : Value} (h : Descriptor.decode n descriptor = .ok v) :
    v.Decoded n (HasEmptyType descriptor) :=
  readsDecoded_decodeTo n _ descriptor h

/-- **Decoding makes no delegates**, and all references that it makes are the session's own. -/
theorem selfContained_decode {descriptor : Value} (h : Descriptor.decode n descriptor = .ok v) :
    v.SelfContained (some n) :=
  (decoded_decode h).selfContained

/-- **Decoding makes validators of the library.** -/
theorem ofLibrary_decode {slot : Nat → Slot} {descriptor : Value}
    (h : Descriptor.decode n descriptor = .ok v) : v.OfLibrary slot :=
  (decoded_decode h).ofLibrary

end Descriptor

end Conformance
