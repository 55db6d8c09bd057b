import Conformance.Proofs.Descriptor.ObjectNodes

/-!
# Object patterns of a single name

An object pattern whose only key is for the property of a name is told by what stands under the key.
Keys of mappings need not be texts, so several properties of a mapping can have the name: a required
name takes any number of them, and an optional one takes one at most.

## Main statements

* `Env.takes_single_iff` — which mappings such an object pattern accepts
* `Descriptor.describeObject_single`, `Descriptor.reads_single` — a name whose absence is admitted is
  written as a property, and the property is read as an optional name
-/

namespace Conformance

open Descriptor (IsNamed)

/-- The properties that a key is about are those of its name. -/
theorem Descriptor.IsNamed.count_eq {isRequired : Bool} {name : String} {k : Key}
    (h : IsNamed isRequired name k) (names : List String) : k.count names = names.count name := by
  refine List.countP_congr fun text _ => ?_
  rw [h.claims, beq_iff_eq]

/-- **Which mappings an object pattern of a single name accepts**: those of which what stands under the
key accepts each property of the name.  Where there is none, a required name asks for absence to be
accepted, and there must not be two for an optional one. -/
theorem Env.takes_single_iff {env : Env} {isRequired : Bool} {name : String} {q : Property Validator}
    (hkey : IsNamed isRequired name q.key) {form : MapForm} {tag : Nat} {es : List (Value × Value)} :
    env.Takes (.object [q]) (.mapping form tag es) ↔
      (∀ e ∈ es, e.1.nameText = name → env.Takes q.rule e.2) ∧
      (isRequired = true → name ∉ propertyNames es → env.Takes q.rule .missing) ∧
      (isRequired = false → (propertyNames es).count name ≤ 1) := by
  have hmem : q ∈ [q] := List.mem_singleton_self q
  rw [takes_object_iff]
  constructor
  · intro hconforms
    refine ⟨fun e he heq => ?_, fun hrequired habsent => ?_, fun hoptional => ?_⟩
    · exact hconforms.asked q e.2 (.claimed he hmem hkey.specific ((hkey.claims _).mpr heq))
    · obtain ⟨hexact, hliteral⟩ := hkey.required hrequired
      exact hconforms.asked q .missing
        (.absent hmem hexact hliteral (hkey.count_eq_zero_iff.mpr habsent))
    · rw [← hkey.count_eq]
      exact hconforms.optional q hmem (hkey.optional hoptional)
  · rintro ⟨hall, habsent, hmost⟩
    refine ⟨fun p y hasked => ?_, fun p hp hoptional => ?_, fun p hp hatLeast => ?_⟩
    · cases hasked with
      | claimed he hp _ hclaims =>
        cases List.mem_singleton.mp hp
        exact hall _ he ((hkey.claims _).mp hclaims)
      | unclaimed _ _ hfind =>
        cases List.mem_singleton.mp (List.mem_of_find?_eq_some hfind)
        have hcatch := List.find?_some hfind
        rw [hkey.specific] at hcatch
        cases hcatch
      | absent hp hexact _ hzero =>
        cases List.mem_singleton.mp hp
        cases isRequired with
        | true => exact habsent rfl (hkey.count_eq_zero_iff.mp hzero)
        | false => cases hexact.symm.trans (hkey.optional rfl)
    · cases List.mem_singleton.mp hp
      rw [hkey.count_eq]
      cases isRequired with
      | true => cases hoptional.symm.trans (hkey.required rfl).1
      | false => exact hmost rfl
    · cases List.mem_singleton.mp hp
      cases isRequired with
      | true => cases hatLeast.symm.trans (hkey.required rfl).1
      | false => cases hatLeast.symm.trans (hkey.optional rfl)

namespace Descriptor

/-- The descriptor of an object pattern of a single name that is not required. -/
theorem describeObject_single {k : Key} (hexact : k.quantifier = .exact) (hliteral : k.isLiteral = true)
    (node : Value) : describeObject [⟨k, node, false⟩] =
      .record [("type", .text "object"), ("properties", .record [(k.sourceText, node)])] := by
  have hcatch : k.isCatchAll = false := by simp [Key.isCatchAll, hexact]
  have hproperty : k.isProperty = true := by simp [Key.isProperty, hexact, hliteral]
  simp [describeObject, ObjectParts.add, hcatch, hproperty, putMember, Entries.insert,
    memberUnlessEmpty, Value.record]

/-- **A node with a single property** is read as an object pattern of an optional name. -/
theorem reads_single {n : Nat} {name : String} {node : Value} {R : Validator → Prop}
    (hname : isLiteralName name = true) (hne : name ≠ "") (h : Reads n node R) :
    Reads n (.record [("type", .text "object"), ("properties", .record [(name, node)])]) fun w =>
      ∃ q, w = .object [q] ∧ IsNamed false name q.key ∧ R q.rule := by
  refine reads_of_members fun depth pointer hdepth => ?_
  have hnode : node.depth ≤ depth := by
    simp [Value.record, Value.dict, Value.depth, Value.depthUnder] at hdepth
    omega
  obtain ⟨w, hw, hR⟩ := h depth s!"{pointer}/properties/{name}" hnode
  have hr := Regex.ofSource_literal hname
  have hread : decodeProperty (decodeTo n depth) pointer [] (.text name) node =
      property pointer (String.singleton '?' ++ name) w := by
    rw [decodeProperty_text, hw]
    simp [hname]
  rw [property_of_ofWritten (Key.ofWritten_sign rfl hne hr)] at hread
  refine ⟨.object [⟨⟨String.singleton '?' ++ name, .optional, _⟩, none, w⟩], ?_, _, rfl,
    isNamed_of_decodeProperty hread, hR⟩
  -- nothing else is read, and no name is required
  have hobject : decodeMembersOf n (decodeTo n depth) pointer (Entries.ofTexts
      [("type", .text "object"), ("properties", .record [(name, node)])]) = do
        let named ← decodeMembers (decodeProperty (decodeTo n depth) pointer []) [(.text name, node)]
        return .object (named ++ [] ++ []) := rfl
  rw [hobject, decodeMembers, hread]
  rfl

end Descriptor

end Conformance
