import Conformance.Proofs.Descriptor.ObjectNodes
import Conformance.Proofs.Session.Decoding

/-!
# Descriptors of objects

## Main Definitions

* `Descriptor.ReadAs` — a node is read as a validator

## Main statements

* `Descriptor.decode_typed_object` — a node for objects holds a single mapping, or it is read as an
  object pattern
* `Schema.decode_object` — which mappings the schema of a descriptor of an object accepts
-/

namespace Conformance

namespace Descriptor

variable {n : Nat} {decode : NodeReader} {pointer : String} {fs : List (String × Value)}

/-- **A node is read as a validator**, at some place and to some depth. -/
def ReadAs (n : Nat) (node : Value) (v : Validator) : Prop :=
  ∃ depth pointer, decodeTo n depth node pointer = .ok v

/-- Where only some keywords are allowed there are no others. -/
theorem isOneOf_of_only {allowed : List String} {ms : Members} {u : Unit}
    (h : only pointer allowed ms = .ok u) : ∀ k ∈ keywords ms, isOneOf allowed k = true := by
  simp only [only] at h
  split at h
  · next hempty =>
    intro k hk
    by_contra hnot
    have hextra : k ∈ (keywords ms).filter fun k => !isOneOf allowed k :=
      List.mem_filter.mpr ⟨hk, by simpa using hnot⟩
    rw [List.isEmpty_iff.mp hempty] at hextra
    cases hextra
  · rw [Except.bind_eq_ok_iff] at h
    obtain ⟨_, -, h⟩ := h
    cases h

/-- What stands in a node under a name that is no annotation is one of its keywords. -/
theorem mem_keywords {name : String} {ms : Members} {v : Value} (hname : name ∉ annotations)
    (h : member? name ms = some v) : .text name ∈ keywords ms :=
  List.mem_filter.mpr ⟨List.mem_map_of_mem (text_mem_of_member? h), by simpa [isOneOf] using hname⟩

/-- A keyword that is not allowed is refused. -/
theorem member?_of_only {allowed : List String} {u : Unit} {name : String} {ms : Members}
    (h : only pointer allowed ms = .ok u) (hname : name ∉ annotations)
    (hallowed : name ∉ allowed) : member? name ms = none := by
  by_contra hsome
  obtain ⟨v, hv⟩ := Option.ne_none_iff_exists'.mp hsome
  have hone := isOneOf_of_only h _ (mem_keywords hname hv)
  exact hallowed (by simpa [isOneOf] using hone)

/-- **A node with the type of objects** that is read is an enumeration of a single mapping, or it is
read as an object. -/
theorem decode_typed_object {v : Validator}
    (htype : member? "type" (Entries.ofTexts fs) = some (.text "object"))
    (h : decodeMembersOf n decode pointer (Entries.ofTexts fs) = .ok v) :
    (∃ x, v = .leaf (.mappingLike x) ∧ only pointer ["enum", "type"] (Entries.ofTexts fs) = .ok ()) ∨
      decodeObject decode pointer (Entries.ofTexts fs) = .ok v := by
  -- the keywords that come first do not allow a type beside them
  have htyped : ∀ {allowed : List String} {next : Unit → Except Refusal Validator},
      "type" ∉ allowed → (only pointer allowed (Entries.ofTexts fs) >>= next) ≠ .ok v := by
    intro allowed next hallowed hread
    obtain ⟨u, honly, -⟩ := Except.bind_eq_ok_iff.mp hread
    rw [member?_of_only honly (by decide) hallowed] at htype
    cases htype
  unfold decodeMembersOf at h
  dsimp only at h
  split at h
  · next hempty =>
    rw [List.isEmpty_iff] at hempty
    have hmem := mem_keywords (by decide) htype
    rw [hempty] at hmem
    cases hmem
  split at h
  · cases h
  split at h
  · exact absurd h (htyped (by decide))
  split at h
  · exact absurd h (htyped (by decide))
  split at h
  · exact absurd h (htyped (by decide))
  split at h
  · next values _ =>
    unfold decodeEnum at h
    rw [Except.bind_eq_ok_iff] at h
    obtain ⟨_, honly, h⟩ := h
    split at h
    · rw [htype, Option.getD_some] at h
      have hhash : (Value.text "object").isHashable = true := rfl
      have harray : isOneOf ["array"] (.text "object") = false := rfl
      simp only [hhash, harray, Bool.not_true, Bool.false_and, Bool.false_eq_true, if_false] at h
      split at h
      · cases h
        exact .inl ⟨_, rfl, honly⟩
      · cases h
    · cases h
  split at h
  · next hnone =>
    rw [htype] at hnone
    cases hnone
  · next hlist =>
    rw [htype] at hlist
    cases hlist
  · next type hfound =>
    rw [htype] at hfound
    cases hfound
    exact .inr h
  · cases h

/-- A node that holds the type and an enumeration only has no nodes inside and requires nothing. -/
theorem held_of_only {tag : Nat}
    (h : only pointer ["enum", "type"] (Entries.ofTexts fs) = .ok ()) :
    held (.mapping .dict tag (Entries.ofTexts fs)) = [] ∧
      required (.mapping .dict tag (Entries.ofTexts fs)) = [] := by
  have hproperties : part? "properties" (Entries.ofTexts fs) = some [] := by
    rw [part?, member?_of_only h (by decide) (by decide)]
  have hpatterns : part? "patternProperties" (Entries.ofTexts fs) = some [] := by
    rw [part?, member?_of_only h (by decide) (by decide)]
  have hadditional : member? "additionalProperties" (Entries.ofTexts fs) = none :=
    member?_of_only h (by decide) (by decide)
  have hrequired : member? "required" (Entries.ofTexts fs) = none :=
    member?_of_only h (by decide) (by decide)
  constructor
  · simp [held, membersOf, hproperties, hpatterns, hadditional, heldIn]
  · rw [required, membersOf, hrequired]

end Descriptor

namespace Schema

open Descriptor (held required ReadAs Fits member?)

variable {host : Host} {s : Store} {document : Value}

/-- **Which mappings the schema of an object's descriptor accepts.**  A descriptor of JSON with the type
of objects that has a schema either holds a single mapping and nothing else, or each of its nodes is
read as a validator, and the mappings with texts as keys that are accepted are those that fit the
descriptor: a required property may be absent if its node accepts absence, the names of
`patternProperties` are matched against whole names, and one of which nothing is left without its
anchors is for the properties that no other member is about. -/
theorem decode_object (hjson : document.IsJson) {tag : Nat} {ms : Descriptor.Members}
    (hdocument : Descriptor.ofDocument document = .ok (.mapping .dict tag ms))
    (htype : member? "type" ms = some (.text "object")) {h : Handle}
    (hdecode : (decode host document s).outcome = .ok h) :
    (∃ x, h.validator = .leaf (.mappingLike x) ∧ held (.mapping .dict tag ms) = [] ∧
      required (.mapping .dict tag ms) = []) ∨
    ∃ rule : String × String → Validator,
      (∀ e ∈ held (.mapping .dict tag ms), e.2 ≠ .bool true →
        ReadAs s.sessions.length e.2 (rule e.1)) ∧
      ∀ (env : Env) (form : MapForm) (tag' : Nat) (xs : List (String × Value)),
        (xs.map Prod.fst).Nodup →
        (env.Takes h.validator (.mapping form tag' (Entries.ofTexts xs)) ↔
          Fits (.mapping .dict tag ms) (fun m => env.Takes (rule m)) xs) := by
  obtain ⟨v, hread⟩ := (exists_decode_iff hdocument).mp ⟨h, hdecode⟩
  obtain ⟨h', houtcome, -, htree⟩ := exists_decode_of_read host hdocument hread
  cases hdecode.symm.trans houtcome
  obtain ⟨fs, rfl, -, hfs⟩ :=
    Descriptor.exists_of_isJson (Descriptor.isJson_of_ofDocument hjson hdocument)
  rcases Descriptor.decode_typed_object htype hread with ⟨x, rfl, honly⟩ | hobject
  · refine .inl ⟨x, ?_, Descriptor.held_of_only honly⟩
    cases hvalidator : h.validator with
    | leaf rule =>
      rw [hvalidator] at htree
      exact htree
    | selfRef own =>
      rw [hvalidator] at htree
      cases own <;> cases htree
    | _ =>
      rw [hvalidator] at htree
      cases htree
  · obtain ⟨rule, named, matched, additional, rfl, hstands, hnodes⟩ :=
      Descriptor.exists_standsFor_of_decodeObject tag hfs hobject
    refine .inr ⟨rule, fun e he hne => ⟨_, hnodes e he hne⟩, fun env form tag' xs hnodup => ?_⟩
    rw [Env.takes_congr htree, Env.takes_object_iff]
    exact ⟨hstands.fits, hstands.conforms hnodup⟩

/-- A required property whose descriptor says nothing: the empty mapping is accepted. -/
theorem decode_object_of_unconstrained :
    let host : Host := ⟨fun _ => .absent, Settings.standard⟩
    let s : Store := ⟨[], 0⟩
    let document : Value := .record [("type", .text "object"),
      ("properties", .record [("a", .record [])]), ("required", .list [.text "a"])]
    .text "a" ∈ required document ∧ ∃ h, (decode host document s).outcome = .ok h ∧
      ∀ env : Env, env.Takes h.validator (.dict []) := by
  intro host s document
  have hjson : document.IsJson := by
    refine .dict (by decide) ?_
    simp only [List.forall_mem_cons]
    refine ⟨.text _, .dict (by decide) ?_, .list ?_, by simp⟩
    · simp only [List.forall_mem_cons]
      exact ⟨.emptyDict 0, by simp⟩
    · simp only [List.forall_mem_cons]
      exact ⟨.text _, by simp⟩
  have hread : (decode host document s).outcome.toOption.isSome = true := by decide +kernel
  obtain ⟨h, hdecode⟩ := Except.exists_eq_ok hread
  refine ⟨List.mem_singleton_self _, h, hdecode, fun env => ?_⟩
  have hdocument : Descriptor.ofDocument document = .ok (.mapping .dict 0 _) := rfl
  rcases decode_object hjson hdocument rfl hdecode with ⟨x, -, hheld, -⟩ | ⟨rule, hrule, haccepts⟩
  · cases hheld
  · refine (haccepts env .dict 0 [] List.nodup_nil).mpr ?_
    -- the node of the property accepts everything, absence too
    have hanything : rule ("properties", "a") = .leaf .anything := by
      obtain ⟨depth, pointer, hnode⟩ :=
        hrule (("properties", "a"), .record []) (List.mem_singleton_self _) nofun
      cases depth with
      | zero => cases hnode
      | succ depth => exact (Except.ok.inj hnode).symm
    refine ⟨fun name hname => .inr ?_, by simp, by simp, fun _ hsource => ?_, fun _ hsource => ?_, by simp⟩
    · cases List.mem_singleton.mp hname
      show env.Takes (rule ("properties", "a")) .missing
      rw [hanything]
      rfl
    · cases hsource
    · cases hsource

end Schema

end Conformance
