import Conformance.Descriptor.Decoding
import Conformance.Proofs.Validator.Portable
import Mathlib.Data.List.Forall2
import Mathlib.Data.List.Induction
import Mathlib.Data.List.Nodup

/-!
# The members of descriptors

A descriptor is a dictionary with texts as keys.  What stands under a name is looked up in a list of
texts, and the descriptor of an object pattern whose keys are written to different members is put
together without anything being written over.

## Main Definitions

* `Entries.ofTexts` — entries with texts as keys
* `Key.byPart` — keys in the order of the parts of an object's descriptor
* `Described.inPart` — the keys that are written to a part of an object's descriptor
* `ObjectParts.ofKeys` — the parts of an object's descriptor, all at once

## Main statements

* `Entries.find?_ofTexts` — looking up a name
* `describeObject_eq` — the descriptor of an object pattern, member by member
-/

namespace Conformance

/-! ## Entries with texts as keys -/

namespace Entries

variable {α : Type}

/-- Entries with texts as keys. -/
def ofTexts (fs : List (String × α)) : List (Value × α) := fs.map fun f => (.text f.1, f.2)

theorem keyEq_text (s t : String) : Value.keyEq (.text s) (.text t) = (s == t) := by
  rw [Value.keyEq]

/-- What is equal to a text as a key is the text. -/
theorem eq_text_of_keyEq {v : Value} {name : String} (h : Value.keyEq v (.text name) = true) :
    v = .text name := by
  unfold Value.keyEq at h
  split at h <;> simp_all

/-- A text is equal, as a key, to itself only. -/
theorem keyEq_text_iff {v : Value} {name : String} :
    Value.keyEq (.text name) v = true ↔ v = .text name := by
  constructor
  · intro h
    unfold Value.keyEq at h
    split at h <;> simp_all
  · rintro rfl
    rw [keyEq_text, beq_self_eq_true]

/-- A text is found in a list exactly if it stands there. -/
theorem any_keyEq_text_iff {name : String} {vs : List Value} :
    vs.any (Value.keyEq (.text name)) = true ↔ .text name ∈ vs := by
  simp only [List.any_eq_true, keyEq_text_iff, exists_eq_right]

/-- What stands under a name is what stands in the list of texts. -/
theorem find?_ofTexts (name : String) (fs : List (String × α)) :
    find? (.text name) (ofTexts fs) = fs.lookup name := by
  induction fs with
  | nil => rfl
  | cons f fs ih =>
    obtain ⟨k, a⟩ := f
    have hswap : (k == name) = (name == k) := Bool.beq_comm
    rw [ofTexts, List.map_cons, find?, keyEq_text, hswap, ← ofTexts, ih, List.lookup_cons]
    cases name == k <;> rfl

/-- A new name goes to the end. -/
theorem insert_ofTexts {name : String} (a : α) {fs : List (String × α)}
    (hnew : ∀ f ∈ fs, f.1 ≠ name) :
    insert (.text name) a (ofTexts fs) = ofTexts (fs ++ [(name, a)]) := by
  induction fs with
  | nil => rfl
  | cons f fs ih =>
    obtain ⟨hf, hfs⟩ := List.forall_mem_cons.mp hnew
    have hdiffer : (f.1 == name) = false := beq_eq_false_iff_ne.mpr hf
    rw [ofTexts, List.map_cons, insert, keyEq_text, hdiffer, ← ofTexts, ih hfs]
    rfl

theorem isEmpty_ofTexts (fs : List (String × α)) : (ofTexts fs).isEmpty = fs.isEmpty := by
  cases fs <;> rfl

end Entries

theorem Value.record_eq (fs : List (String × Value)) : Value.record fs = .dict (Entries.ofTexts fs) :=
  rfl

/-! ## The parts of an object's descriptor -/

namespace Key

variable {k : Key}

/-- Every key is written to one of three parts. -/
theorem member_cases (k : Key) :
    (k.isCatchAll = true ∧ k.member = ("additionalProperties", "")) ∨
      (k.isCatchAll = false ∧ k.isProperty = true ∧ k.member = ("properties", k.sourceText)) ∨
      (k.isCatchAll = false ∧ k.isProperty = false ∧
        k.member = ("patternProperties", anchored k.sourceText)) := by
  unfold member
  cases k.isCatchAll <;> cases k.isProperty <;> simp

/-- The catch-all key is written to the additional properties. -/
theorem of_member_additional (h : k.member.1 = "additionalProperties") :
    k.isCatchAll = true ∧ k.member.2 = "" := by
  rcases member_cases k with ⟨hcatch, hmember⟩ | ⟨-, -, hmember⟩ | ⟨-, -, hmember⟩ <;>
    simp_all

/-- A literal name that is required or optional is written to the properties. -/
theorem of_member_properties (h : k.member.1 = "properties") :
    k.isCatchAll = false ∧ k.isProperty = true ∧ k.member.2 = k.sourceText := by
  rcases member_cases k with ⟨-, hmember⟩ | ⟨hcatch, hproperty, hmember⟩ | ⟨-, -, hmember⟩ <;>
    simp_all

/-- Every other name is written to the pattern properties. -/
theorem of_member_patterns (h : k.member.1 = "patternProperties") :
    k.isCatchAll = false ∧ k.isProperty = false ∧ k.member.2 = anchored k.sourceText := by
  rcases member_cases k with ⟨-, hmember⟩ | ⟨-, -, hmember⟩ | ⟨hcatch, hproperty, hmember⟩ <;>
    simp_all

variable {α β : Type}

/-- **Keys in the order of the parts** of an object's descriptor: first those that are written to the
properties, then those that are written to the pattern properties, and the catch-all key last. -/
def byPart (key : α → Key) (as : List α) : List α :=
  as.filter (fun a => (key a).member.1 = "properties") ++
    as.filter (fun a => (key a).member.1 = "patternProperties") ++
    as.filter fun a => (key a).member.1 = "additionalProperties"

/-- Each key is in one part. -/
theorem perm_byPart (key : α → Key) (as : List α) : (byPart key as).Perm as := by
  induction as with
  | nil => exact .refl _
  | cons a as ih =>
    unfold byPart at ih ⊢
    rcases member_cases (key a) with ⟨-, hm⟩ | ⟨-, -, hm⟩ | ⟨-, -, hm⟩
    · simp only [List.filter_cons, hm, decide_true, if_true, String.reduceEq, decide_false,
        Bool.false_eq_true, if_false]
      exact List.perm_middle.trans (ih.cons a)
    · simp only [List.filter_cons, hm, decide_true, if_true, String.reduceEq, decide_false,
        Bool.false_eq_true, if_false]
      exact ih.cons a
    · simp only [List.filter_cons, hm, decide_true, if_true, String.reduceEq, decide_false,
        Bool.false_eq_true, if_false, List.append_assoc, List.cons_append]
      rw [List.append_assoc] at ih
      exact List.perm_middle.trans (ih.cons a)

theorem mem_byPart (key : α → Key) {a : α} {as : List α} : a ∈ byPart key as ↔ a ∈ as :=
  (perm_byPart key as).mem_iff

/-- The parts have nothing to do with what stands beside the keys. -/
theorem byPart_map (key : β → Key) (f : α → β) (as : List α) :
    byPart key (as.map f) = (byPart (fun a => key (f a)) as).map f := by
  simp only [byPart, List.filter_map, List.map_append]
  rfl

/-- What is known of keys is known of them part by part. -/
theorem forall₂_byPart {key : α → Key} {key' : β → Key} {R : α → β → Prop} {as : List α} {bs : List β}
    (hkey : ∀ a b, R a b → key' b = key a) (h : List.Forall₂ R as bs) :
    List.Forall₂ R (byPart key as) (byPart key' bs) := by
  have hfilter : ∀ part : String, List.Forall₂ R
      (as.filter fun a => (key a).member.1 = part) (bs.filter fun b => (key' b).member.1 = part) :=
    fun part => h.filter fun a b hab => by rw [hkey a b hab]
  exact List.rel_append (List.rel_append (hfilter _) (hfilter _)) (hfilter _)

end Key

namespace Described

/-- The keys that are written to a part of an object's descriptor. -/
def inPart (part : String) (ds : List Described) : List Described :=
  ds.filter fun d => d.key.member.1 = part

theorem mem_inPart {part : String} {ds : List Described} {d : Described} :
    d ∈ inPart part ds ↔ d ∈ ds ∧ d.key.member.1 = part := by
  rw [inPart, List.mem_filter, decide_eq_true_eq]

/-- The members that some keys are written to. -/
def entries (ds : List Described) : List (String × Value) :=
  ds.map fun d => (d.key.member.2, d.descriptor)

/-- The key has a sign of its own in a descriptor. -/
def hasSign (d : Described) : Bool := d.key.quantifier = .optional || d.key.quantifier = .atLeastOne

end Described

open Described (inPart)

namespace ObjectParts

/-- An object's descriptor without any key. -/
def start : ObjectParts := ⟨[(.text "type", .text "object")], [], [], [], []⟩

/-- **The parts of an object's descriptor**, all at once. -/
def ofKeys (ds : List Described) : ObjectParts where
  own := Entries.ofTexts (("type", .text "object") ::
    (inPart "additionalProperties" ds).map fun d => ("additionalProperties", d.descriptor))
  properties := Entries.ofTexts (Described.entries (inPart "properties" ds))
  required := ((inPart "properties" ds).filter (·.required)).map fun d => .text d.key.member.2
  patterns := Entries.ofTexts (Described.entries (inPart "patternProperties" ds))
  quantifiers := Entries.ofTexts
    (((inPart "patternProperties" ds).filter (·.hasSign)).map fun d =>
      (d.key.member.2, .text d.key.quantifier.symbol))

/-- No other key was written to the member of a key. -/
theorem fresh_of_nodup {ds : List Described} {d : Described}
    (h : ((ds ++ [d]).map (·.key.member)).Nodup) :
    ∀ d' ∈ inPart d.key.member.1 ds, d'.key.member.2 ≠ d.key.member.2 := by
  intro d' hd' heq
  obtain ⟨hmem, hpart⟩ := Described.mem_inPart.mp hd'
  have hmember : d'.key.member = d.key.member := Prod.ext hpart heq
  rw [List.map_append, List.nodup_append] at h
  exact h.2.2 _ (List.mem_map_of_mem hmem) _ (List.mem_map_of_mem List.mem_cons_self) hmember

theorem inPart_concat (part : String) (ds : List Described) (d : Described) :
    inPart part (ds ++ [d]) = inPart part ds ++ if d.key.member.1 = part then [d] else [] := by
  rw [inPart, List.filter_append, ← inPart]
  by_cases h : d.key.member.1 = part <;> simp [h]

/-- **Taking in one more key**, which is written to a member of its own. -/
theorem add_ofKeys {ds : List Described} {d : Described}
    (h : ((ds ++ [d]).map (·.key.member)).Nodup) : (ofKeys ds).add d = ofKeys (ds ++ [d]) := by
  have hfresh := fresh_of_nodup h
  unfold add
  -- a key is new in the part that it is written to, and the other parts stay as they are
  split
  · next hcatch =>
    have hmember : d.key.member = ("additionalProperties", "") := by rw [Key.member, if_pos hcatch]
    have hnew : ∀ f ∈ ("type", Value.text "object") ::
        (inPart "additionalProperties" ds).map fun d => ("additionalProperties", d.descriptor),
        f.1 ≠ "additionalProperties" := by
      rw [hmember] at hfresh
      refine List.forall_mem_cons.mpr ⟨by decide, List.forall_mem_map.mpr fun d' hd' => ?_⟩
      have hname : d'.key.member.2 = "" :=
        (Key.of_member_additional (Described.mem_inPart.mp hd').2).2
      exact absurd hname (hfresh d' hd')
    simp only [ofKeys, putMember, Entries.insert_ofTexts d.descriptor hnew]
    simp [inPart_concat, hmember]
  · next hcatch =>
    split
    · next hproperty =>
      have hmember : d.key.member = ("properties", d.key.sourceText) := by
        rw [Key.member, if_neg hcatch, if_pos hproperty]
      have hnew : ∀ f ∈ Described.entries (inPart "properties" ds), f.1 ≠ d.key.sourceText := by
        rw [hmember] at hfresh
        exact List.forall_mem_map.mpr hfresh
      simp only [ofKeys, putMember, Entries.insert_ofTexts d.descriptor hnew]
      cases hrequired : d.required <;>
        simp [inPart_concat, hmember, hrequired, Described.entries]
    · next hproperty =>
      have hmember : d.key.member = ("patternProperties", anchored d.key.sourceText) := by
        rw [Key.member, if_neg hcatch, if_neg hproperty]
      have hnew : ∀ f ∈ Described.entries (inPart "patternProperties" ds),
          f.1 ≠ anchored d.key.sourceText := by
        rw [hmember] at hfresh
        exact List.forall_mem_map.mpr hfresh
      have hnew' : ∀ f ∈ ((inPart "patternProperties" ds).filter (·.hasSign)).map fun d =>
          (d.key.member.2, Value.text d.key.quantifier.symbol), f.1 ≠ anchored d.key.sourceText := by
        rw [hmember] at hfresh
        exact List.forall_mem_map.mpr fun d' hd' => hfresh d' (List.mem_of_mem_filter hd')
      have hquantifier : (d.key.quantifier = .optional || d.key.quantifier = .atLeastOne) =
          d.hasSign := rfl
      simp only [ofKeys, putMember, Entries.insert_ofTexts d.descriptor hnew,
        Entries.insert_ofTexts (Value.text d.key.quantifier.symbol) hnew', hquantifier]
      cases hsign : d.hasSign <;>
        simp [inPart_concat, hmember, hsign, Described.entries]

/-- **Keys that are written to different members** are taken in one after another, without anything
being written over. -/
theorem foldl_add {ds : List Described} (h : (ds.map (·.key.member)).Nodup) :
    ds.foldl add start = ofKeys ds := by
  induction ds using List.reverseRecOn with
  | nil => rfl
  | append_singleton ds d ih =>
    have hstarts : (ds.map (·.key.member)).Nodup := by
      rw [List.map_append] at h
      exact h.of_append_left
    rw [List.foldl_append, ih hstarts]
    exact add_ofKeys h

end ObjectParts

/-! ## The descriptor of an object pattern -/

/-- The members of an object's descriptor. -/
def Described.members (ds : List Described) : List (String × Value) :=
  let parts := ObjectParts.ofKeys ds
  ("type", .text "object") ::
    ((inPart "additionalProperties" ds).map fun d => ("additionalProperties", d.descriptor)) ++
    (if parts.properties.isEmpty then [] else [("properties", .dict parts.properties)]) ++
    (if parts.required.isEmpty then [] else [("required", .list parts.required)]) ++
    (if parts.patterns.isEmpty then [] else [("patternProperties", .dict parts.patterns)]) ++
    (if parts.quantifiers.isEmpty then [] else [("x-quantifiers", .dict parts.quantifiers)])

/-- The members of an object's descriptor, from its parts and the nodes for further properties. -/
def ObjectParts.fields (parts : ObjectParts) (additional : List Value) : List (String × Value) :=
  ("type", .text "object") :: (additional.map fun v => ("additionalProperties", v)) ++
    (if parts.properties.isEmpty then [] else [("properties", .dict parts.properties)]) ++
    (if parts.required.isEmpty then [] else [("required", .list parts.required)]) ++
    (if parts.patterns.isEmpty then [] else [("patternProperties", .dict parts.patterns)]) ++
    (if parts.quantifiers.isEmpty then [] else [("x-quantifiers", .dict parts.quantifiers)])

theorem Described.members_eq_fields (ds : List Described) : Described.members ds =
    (ObjectParts.ofKeys ds).fields ((inPart "additionalProperties" ds).map (·.descriptor)) := by
  rw [ObjectParts.fields, List.map_map]
  rfl

/-- The descriptor of an object pattern, member by member. -/
theorem describeObject_eq_fields {ds : List Described} {additional : List Value}
    (hown : (ds.foldl ObjectParts.add ObjectParts.start).own = Entries.ofTexts
      (("type", .text "object") :: additional.map fun v => ("additionalProperties", v))) :
    describeObject ds = .record ((ds.foldl ObjectParts.add ObjectParts.start).fields additional) := by
  have hsegment : ∀ (name : String) (empty : Bool) (v : Value), memberUnlessEmpty name empty v =
      Entries.ofTexts (if empty then [] else [(name, v)]) := by
    intro name empty v
    cases empty <;> rfl
  have happend : ∀ fs gs : List (String × Value), Entries.ofTexts fs ++ Entries.ofTexts gs =
      Entries.ofTexts (fs ++ gs) := fun fs gs => List.map_append.symm
  unfold describeObject
  rw [← ObjectParts.start]
  simp only [hsegment, hown, happend]
  rfl

/-- **The descriptor of an object pattern**, member by member, if its keys are written to different
members. -/
theorem describeObject_eq {ds : List Described} (h : (ds.map (·.key.member)).Nodup) :
    describeObject ds = .record (Described.members ds) := by
  have hparts := ObjectParts.foldl_add h
  rw [Described.members_eq_fields, ← hparts]
  refine describeObject_eq_fields ?_
  rw [hparts, List.map_map]
  rfl

end Conformance
