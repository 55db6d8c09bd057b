import Conformance.Proofs.Session.Annotations

/-!
# Names of properties

The name of a property comes to its key by one of several ways.  A literal name is written as it is,
with a sign in front if the property is optional, and any other name is escaped behind the sign.
Whichever way is taken, the key is about the property of that name and no other, and it allows what
the descriptor says about the name.  It matters that the names are told apart by the same characters
wherever that is done.

## Main Definitions

* `Descriptor.KeepsName` — the key that the name of a property has become

## Main statements

* `Descriptor.exists_named_of_readAs` — the keys that the properties of a node have become
* `Schema.literalNames_agree` — literal names are the same to descriptors, to keys and to matching
-/

namespace Conformance

namespace Descriptor

variable {n : Nat} {ms : Members} {tag : Nat} {v : Validator} {q : Property Validator}

/-- **The key that the name of a property has become**, among the keys of an object pattern.  It matches
that name only, so it is about the properties of that name; it is exact if the descriptor lists the
name as required, and optional otherwise. -/
structure KeepsName (descriptor : Value) (keys : List (Property Validator)) (name : String)
    (q : Property Validator) : Prop where
  matchesName? : ∀ text, q.key.matchesName? text = .ok (decide (text = name))
  claims : ∀ text, q ∈ claimants keys text ↔ text = name
  required : .text name ∈ Descriptor.required descriptor → q.key.quantifier = .exact
  optional : .text name ∉ Descriptor.required descriptor → q.key.quantifier = .optional

/-- A key that stands for a name among the keys of an object pattern. -/
theorem IsNamed.keepsName {descriptor : Value} {keys : List (Property Validator)} {name : String}
    (h : IsNamed ((Descriptor.required descriptor).any (Value.keyEq (.text name))) name q.key)
    (hq : q ∈ keys) : KeepsName descriptor keys name q := by
  refine ⟨h.matchesName?, h.mem_claimants_iff hq, fun hlisted => ?_, fun hnot => ?_⟩
  · exact (h.required (Entries.any_keyEq_text_iff.mpr hlisted)).1
  · exact h.optional (Bool.eq_false_iff.mpr (mt Entries.any_keyEq_text_iff.mp hnot))

/-- A part of an object's descriptor is a dictionary if it is there at all. -/
theorem exists_dict_of_part? {part : String} {x : Value} {entries : Members}
    (hmember : member? part ms = some x) (hentries : part? part ms = some entries) :
    ∃ tag, x = .mapping .dict tag entries := by
  rw [part?, hmember] at hentries
  split at hentries
  · next hnone => cases hnone
  · next heq =>
    cases hentries
    cases heq
    exact ⟨_, rfl⟩
  · cases hentries

/-- **The keys that the properties of a node have become**: one for each property, in their order, in
front of the keys for anything else. -/
theorem exists_named_of_readAs {x : Value} (h : ReadAs n (.mapping .dict tag ms) v)
    (hmember : member? "properties" ms = some x) :
    ∃ tag' properties named rest, x = .mapping .dict tag' properties ∧ v = .object (named ++ rest) ∧
      List.Forall₂ (fun e q => ∃ name, e.1 = .text name ∧ ReadAs n e.2 q.rule ∧
        KeepsName (.mapping .dict tag ms) (named ++ rest) name q) properties named := by
  obtain ⟨depth, pointer, hread⟩ := h
  cases depth with
  | zero => cases hread
  | succ depth =>
    obtain ⟨properties, patterns, quantifiers, names, named, matched, additional, hproperties, -, -,
      hrequired, hnamed, -, -, rfl⟩ :=
      decodeObject_eq_ok (decodeObject_of_part (.inl rfl) hmember hread)
    obtain ⟨hnames, -⟩ := requiredNames_eq_ok tag hrequired
    obtain ⟨tag', rfl⟩ := exists_dict_of_part? hmember hproperties
    refine ⟨tag', properties, named, matched ++ additional, rfl, by rw [List.append_assoc], ?_⟩
    -- which key is which is needed beside what was read
    have hmem := (List.forall₂_and_left named _).mpr
      ⟨fun q hq => hq, (forall₂_of_decodeMembers hnamed).flip⟩
    refine hmem.flip.imp ?_
    rintro ⟨name, node⟩ q ⟨hq, hproperty⟩
    obtain ⟨text, rfl⟩ := exists_text_of_decodeProperty hproperty
    have hkey := isNamed_of_decodeProperty hproperty
    rw [hnames] at hkey
    exact ⟨text, rfl, ⟨depth, exists_of_decodeProperty hproperty⟩,
      hkey.keepsName (List.mem_append_left _ hq)⟩

end Descriptor

namespace Schema

open Descriptor (ReadAs KeepsName literalNames hasLiteralForm member?)

/-- **Literal names are the same to descriptors, to keys and to matching.**  The regex that descriptors are
read with matches the names without special characters, and a key is literal exactly if that regex
matches its name.  A literal name is a key behind any sign, and the key matches that name only.

The schema of a document is what the root is read as.  Wherever a node with properties is read, each
name is a text, literal or not, and becomes a key for the properties of that name only; the key is
exact if the name is required, and optional otherwise. -/
theorem literalNames_agree (host : Host) :
    (∃ r, literalNames = .ok r ∧ ∀ name, r.matchesAll? name = .ok (isLiteralName name)) ∧
    (∀ k name, Key.source k = some name → k.isLiteral = hasLiteralForm name) ∧
    (∀ name, isLiteralName name = true → ∀ written quantifier, ∃ k,
      Key.ofParts written quantifier (some name) = .ok k ∧ k.isLiteral = true ∧
        ∀ text, k.matchesName? text = .ok (decide (text = name))) ∧
    (∀ document d s h, Descriptor.ofDocument document = .ok d →
      (decode host document s).outcome = .ok h → ReadAs s.sessions.length d h.validator) ∧
    ∀ n tag ms v, ReadAs n (.mapping .dict tag ms) v → ∀ x, member? "properties" ms = some x →
      ∃ tag' properties named rest, x = .mapping .dict tag' properties ∧ v = .object (named ++ rest) ∧
        List.Forall₂ (fun e q => ∃ name, e.1 = .text name ∧ ReadAs n e.2 q.rule ∧
          KeepsName (.mapping .dict tag ms) (named ++ rest) name q) properties named := by
  refine ⟨Descriptor.exists_literalNames, fun k name hsource => ?_, fun name hname => ?_,
    fun document d s h hdocument hdecode => ?_, fun n tag ms v hread x hmember => ?_⟩
  · obtain ⟨r, hr, rfl⟩ := Option.map_eq_some_iff.mp hsource
    rw [Descriptor.hasLiteralForm_eq, Key.isLiteral, hr]
  · exact Key.exists_ofParts_literal hname
  · exact ⟨_, _, read_of_decode hdocument hdecode⟩
  · exact Descriptor.exists_named_of_readAs hread hmember

/-- A required literal name with a blank, and an optional one that begins with the sign of optional
names. -/
theorem literalNames_agree_of_sign :
    let host : Host := ⟨fun _ => .absent, Settings.standard⟩
    let s : Store := ⟨[], 0⟩
    let document : Value := .record [("type", .text "object"),
      ("properties", .record [("a b", .record []), ("?a", .record [])]), ("required", .list [.text "a b"])]
    (∃ k, Key.ofParts "+a b" .atLeastOne (some "a b") = .ok k ∧
      k.matchesName? "a b" = .ok true ∧ k.matchesName? "a b\n" = .ok false) ∧
    ∃ h keys, (decode host document s).outcome = .ok h ∧ h.validator = .object keys ∧
      ∃ q ∈ keys, ∃ q' ∈ keys,
        q.key.quantifier = .exact ∧ (∀ text, q ∈ claimants keys text ↔ text = "a b") ∧
        q'.key.quantifier = .optional ∧ ∀ text, q' ∈ claimants keys text ↔ text = "?a" := by
  intro host s document
  obtain ⟨-, -, hliteral, hroot, hkeys⟩ := literalNames_agree host
  obtain ⟨k, hk, -, hmatches⟩ := hliteral "a b" (by decide) "+a b" .atLeastOne
  have hread : (decode host document s).outcome.toOption.isSome = true := by decide +kernel
  obtain ⟨h, hdecode⟩ := Except.exists_eq_ok hread
  obtain ⟨tag', properties, named, rest, hx, hv, hall⟩ :=
    hkeys 0 0 _ h.validator (hroot document _ s h rfl hdecode) _ rfl
  cases hx
  obtain ⟨q, named, ⟨_, hname, -, hq⟩, hall, rfl⟩ := List.forall₂_cons_left_iff.mp hall
  obtain ⟨q', named, ⟨_, hname', -, hq'⟩, hall, rfl⟩ := List.forall₂_cons_left_iff.mp hall
  cases hname
  cases hname'
  refine ⟨⟨k, hk, hmatches _, hmatches _⟩, h, _, hdecode, hv, q, List.mem_cons_self, q',
    List.mem_cons_of_mem _ List.mem_cons_self, hq.required ?_, hq.claims, hq'.optional ?_, hq'.claims⟩
  · exact List.mem_singleton_self _
  · intro hmem
    have heq : "?a" = "a b" := Value.text.inj (List.mem_singleton.mp hmem)
    exact absurd heq (by decide)

end Schema

end Conformance
