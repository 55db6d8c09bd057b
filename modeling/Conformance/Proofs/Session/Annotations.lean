import Conformance.Proofs.Descriptor.Annotations
import Conformance.Proofs.Session.ObjectDescriptors

/-!
# Annotations of documents

What a document says about values does not depend on how it is annotated.  The names of annotations
are annotations only among the keywords of a node: a property of such a name is a property like any
other, and what its node says is asked of it.

## Main Definitions

* `Validator.Asks` — a validator asks another one about the properties of some names

## Main statements

* `Descriptor.exists_readAs_of_named`, `Descriptor.exists_readAs_of_matched` — the node of a property
  is read, and what it is read as is asked of the property
* `Schema.decode_reannotated` — documents that differ in annotations are decoded alike, and properties
  are not ignored whatever their names
-/

namespace Conformance

/-- **A validator asks another one about the properties of some names**: it accepts a mapping only if
the other one accepts all of them. -/
def Validator.Asks (v w : Validator) (about : String → Prop) : Prop :=
  ∀ (env : Env) (form : MapForm) (tag : Nat) (es : List (Value × Value)),
    env.Takes v (.mapping form tag es) → ∀ e ∈ es, about e.1.nameText → env.Takes w e.2

/-- **A validator asks another one about the absence of a property**: it accepts a mapping without the
property only if the other one accepts absence. -/
def Validator.AsksAbsence (v w : Validator) (name : String) : Prop :=
  ∀ (env : Env) (form : MapForm) (tag : Nat) (es : List (Value × Value)),
    env.Takes v (.mapping form tag es) → (∀ e ∈ es, e.1.nameText ≠ name) → env.Takes w .missing

namespace Descriptor

variable {n : Nat} {decode : NodeReader} {pointer : String} {ms : Members} {v : Validator}

/-- A node with properties is read as an object or not at all. -/
theorem decodeObject_of_part {part : String}
    (hpart : part = "properties" ∨ part = "patternProperties") {x : Value}
    (hmember : member? part ms = some x) (h : decodeMembersOf n decode pointer ms = .ok v) :
    decodeObject decode pointer ms = .ok v := by
  have hannotation : part ∉ annotations := by rcases hpart with rfl | rfl <;> decide
  -- no other node is allowed to have them
  have hrefused : ∀ {allowed : List String} {next : Unit → Except Refusal Validator},
      "properties" ∉ allowed ∧ "patternProperties" ∉ allowed →
      (only pointer allowed ms >>= next) ≠ .ok v := by
    rintro allowed next ⟨hproperties, hpatterns⟩ hread
    obtain ⟨u, honly, -⟩ := Except.bind_eq_ok_iff.mp hread
    have hallowed : part ∉ allowed := by rcases hpart with rfl | rfl <;> assumption
    rw [member?_of_only honly hannotation hallowed] at hmember
    cases hmember
  unfold decodeMembersOf at h
  dsimp only at h
  split at h
  · next hempty =>
    have hmem := mem_keywords hannotation hmember
    rw [List.isEmpty_iff.mp hempty] at hmem
    cases hmem
  split at h
  · cases h
  split at h
  · exact absurd h (hrefused (by decide))
  split at h
  · exact absurd h (hrefused (by decide))
  split at h
  · exact absurd h (hrefused (by decide))
  split at h
  · exact absurd h (hrefused (by decide))
  split at h
  · rw [Except.bind_eq_ok_iff] at h
    obtain ⟨_, -, h⟩ := h
    cases h
  · exact absurd h (hrefused (by decide))
  · unfold decodeTyped at h
    split at h
    · exact absurd h (hrefused (by decide))
    · exact absurd h (hrefused (by decide))
    · exact absurd h (hrefused (by decide))
    · exact absurd h (hrefused (by decide))
    · exact absurd h (hrefused (by decide))
    · exact absurd h (hrefused (by decide))
    · exact h
    · cases h
  · cases h

/-- **A node with properties** that is read is read as an object pattern. -/
theorem decodeObject_of_readAs {tag : Nat} (h : ReadAs n (.mapping .dict tag ms) v) {part : String}
    (hpart : part = "properties" ∨ part = "patternProperties") {entries : Members}
    (hentries : part? part ms = some entries) {e : Value × Value} (he : e ∈ entries) :
    ∃ depth pointer, decodeObject (decodeTo n depth) pointer ms = .ok v := by
  obtain ⟨depth, pointer, hread⟩ := h
  cases depth with
  | zero => cases hread
  | succ depth =>
    refine ⟨depth, pointer, ?_⟩
    unfold part? at hentries
    split at hentries
    · cases hentries
      cases he
    · next hmember => exact decodeObject_of_part hpart hmember hread
    · cases hentries

variable {tag : Nat} {entries : Members} {node : Value}

/-- **The node of a property** is read, and what it is read as is asked of each property of that name;
if the name is required, it is asked of absence where there is none. -/
theorem exists_readAs_of_named {name : String} (h : ReadAs n (.mapping .dict tag ms) v)
    (hentries : part? "properties" ms = some entries) (hmem : (.text name, node) ∈ entries) :
    ∃ w, ReadAs n node w ∧ v.Asks w (· = name) ∧
      (.text name ∈ required (.mapping .dict tag ms) → v.AsksAbsence w name) := by
  obtain ⟨depth, pointer, hobject⟩ := decodeObject_of_readAs h (.inl rfl) hentries hmem
  obtain ⟨properties, patterns, quantifiers, names, named, matched, additional, hproperties, -, -,
    hrequired, hnamed, -, -, rfl⟩ := decodeObject_eq_ok hobject
  cases hentries.symm.trans hproperties
  obtain ⟨q, hq, hread⟩ := (forall₂_of_decodeMembers hnamed).exists_right hmem
  have hkey := isNamed_of_decodeProperty hread
  obtain ⟨hnames, -⟩ := requiredNames_eq_ok tag hrequired
  have hmemq : q ∈ named ++ matched ++ additional :=
    List.mem_append_left _ (List.mem_append_left _ hq)
  refine ⟨q.rule, ⟨depth, exists_of_decodeProperty hread⟩, ?_, ?_⟩
  · intro env form tag' es htakes e he heq
    exact (Env.takes_object_iff.mp htakes).asked q e.2
      (.claimed he hmemq hkey.specific ((hkey.claims _).mpr heq))
  · intro hlisted env form tag' es htakes habsent
    have hany : names.any (Value.keyEq (.text name)) = true :=
      Entries.any_keyEq_text_iff.mpr (hnames ▸ hlisted)
    obtain ⟨hexact, hliteral⟩ := hkey.required hany
    refine (Env.takes_object_iff.mp htakes).asked q .missing
      (.absent hmemq hexact hliteral (hkey.count_eq_zero_iff.mpr ?_))
    intro hpresent
    obtain ⟨e, he, heq⟩ := List.mem_map.mp hpresent
    exact habsent e he heq

/-- **The node of a pattern property** is read, and what it is read as is asked of each property whose
whole name the pattern matches. -/
theorem exists_readAs_of_matched {source : String} {r : Regex} (h : ReadAs n (.mapping .dict tag ms) v)
    (hentries : part? "patternProperties" ms = some entries) (hmem : (.text source, node) ∈ entries)
    (hregex : nameRegex? source = some r) :
    ∃ w, ReadAs n node w ∧ v.Asks w (r.matchesAll · = true) := by
  obtain ⟨depth, pointer, hobject⟩ := decodeObject_of_readAs h (.inr rfl) hentries hmem
  obtain ⟨properties, patterns, quantifiers, names, named, matched, additional, -, hpatterns, -, -, -,
    hmatched, -, rfl⟩ := decodeObject_eq_ok hobject
  cases hentries.symm.trans hpatterns
  obtain ⟨q, hq, hread⟩ := (forall₂_of_decodeMembers hmatched).exists_right hmem
  obtain ⟨hnode, hkey⟩ := isMatched_of_decodePatternProperty hread
  refine ⟨q.rule, ⟨depth, hnode⟩, fun env form tag' es htakes e he hmatches => ?_⟩
  have hmemq : q ∈ named ++ matched ++ additional :=
    List.mem_append_left _ (List.mem_append_right _ hq)
  cases hkey with
  | remainder hnone => cases hregex.symm.trans hnone
  | regex hsome hname hspecific _ =>
    cases hregex.symm.trans hsome
    refine (Env.takes_object_iff.mp htakes).asked q e.2 (.claimed he hmemq hspecific ?_)
    rwa [StandsFor.claims_of_regex hname]

end Descriptor

namespace Schema

open Descriptor (ReadAs Reannotated part? nameRegex? required)

/-- Documents of descriptors that differ in annotations are decoded alike. -/
theorem decode_eq_of_reannotated (host : Host) {document document' d d' : Value}
    (hdocument : Descriptor.ofDocument document = .ok d)
    (hdocument' : Descriptor.ofDocument document' = .ok d') (h : Reannotated d d') :
    decode host document = decode host document' := by
  have hpure : ∀ v, Action.ofExcept (.ok v) = (pure v : Action Value) := fun _ => rfl
  simp only [decode, hdocument, hdocument', hpure, pure_bind, h.decode_eq]

/-- **Annotations are nothing to decoding.**  Documents of descriptors that differ in annotations, at any
of their nodes, have the same schema, or they are refused for the same cause at the same place; what is
stored and logged is the same too.

**Properties are not ignored, whatever their names.**  The schema is what the root is read as.  Wherever a
node with properties is read, the node of each of them is read, and what it is read as is asked of the
properties of its name, and of absence if the name is required; the same holds of the pattern
properties and the names that they match. -/
theorem decode_reannotated (host : Host) :
    (∀ document document' d d', Descriptor.ofDocument document = .ok d →
      Descriptor.ofDocument document' = .ok d' → Reannotated d d' →
      decode host document = decode host document') ∧
    (∀ document d s h, Descriptor.ofDocument document = .ok d →
      (decode host document s).outcome = .ok h → ReadAs s.sessions.length d h.validator) ∧
    ∀ n tag ms v, ReadAs n (.mapping .dict tag ms) v → ∀ name node entries,
      (.text name, node) ∈ entries →
      (part? "properties" ms = some entries → ∃ w, ReadAs n node w ∧ v.Asks w (· = name) ∧
        (.text name ∈ required (.mapping .dict tag ms) → v.AsksAbsence w name)) ∧
      ∀ r, part? "patternProperties" ms = some entries → nameRegex? name = some r →
        ∃ w, ReadAs n node w ∧ v.Asks w (r.matchesAll · = true) := by
  refine ⟨fun _ _ _ _ => decode_eq_of_reannotated host, fun document d s h hdocument hdecode => ?_,
    fun n tag ms v hread name node entries hmem => ⟨fun hentries => ?_, fun r hentries hregex => ?_⟩⟩
  · exact ⟨_, _, read_of_decode hdocument hdecode⟩
  · exact Descriptor.exists_readAs_of_named hread hentries hmem
  · exact Descriptor.exists_readAs_of_matched hread hentries hmem hregex

/-- A required property with the name of an annotation, in two documents with different annotations. -/
theorem decode_reannotated_of_title :
    let host : Host := ⟨fun _ => .absent, Settings.standard⟩
    let document : Value := .record [("title", .text "A"), ("type", .text "object"),
      ("properties", .record [("title", .record [("default", .null), ("type", .text "string")])]),
      ("required", .list [.text "title"])]
    let document' : Value := .record [("type", .text "object"),
      ("properties", .record [("title", .record [("type", .text "string")])]),
      ("required", .list [.text "title"]), ("$comment", .list [])]
    Reannotated document document' ∧ decode host document = decode host document' ∧
      ∃ h, (decode host document ⟨[], 0⟩).outcome = .ok h ∧ ∀ env : Env,
        ¬ env.Takes h.validator (.dict [(.text "title", .int 5)]) ∧
          ¬ env.Takes h.validator (.dict []) := by
  intro host document document'
  have halike : Reannotated document document' := by
    refine .node (.left rfl (.member .same (.member (.part (.inl rfl) rfl (.cons ?_ .nil))
      (.member .same (.right rfl .nil)))))
    exact .node (.left rfl (.member .same .nil))
  obtain ⟨hsame, hroot, hasked⟩ := decode_reannotated host
  have hread : (decode host document ⟨[], 0⟩).outcome.toOption.isSome = true := by decide +kernel
  obtain ⟨h, hdecode⟩ := Except.exists_eq_ok hread
  obtain ⟨w, hnode, htitle, habsence⟩ := (hasked 0 0 _ h.validator (hroot document _ _ h rfl hdecode)
    "title" _ _ (List.mem_singleton_self _)).1 rfl
  have hw : w = .leaf .string := by
    obtain ⟨depth, pointer, hstring⟩ := hnode
    cases depth with
    | zero => cases hstring
    | succ depth => exact (Except.ok.inj hstring).symm
  subst hw
  refine ⟨halike, hsame _ _ _ _ rfl rfl halike, h, hdecode, fun env => ⟨fun htakes => ?_, fun htakes => ?_⟩⟩
  · cases htitle env .dict 0 _ htakes _ (List.mem_singleton_self _) rfl
  · cases habsence (List.mem_singleton_self _) env .dict 0 [] htakes (List.forall_mem_nil _)

end Schema

end Conformance
