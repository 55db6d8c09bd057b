import Conformance.Proofs.Descriptor.LiteralNames
import Conformance.Proofs.Descriptor.Reading

/-!
# Reading the descriptor of an object pattern

The keys of an object pattern come back in another order and, where two written forms say the same,
in another form.

## Main Definitions

* `Described.Rereads` — a key that comes back

## Main statements

* `Descriptor.reads_byPart` — an object pattern comes back key by key, in the order of the parts
* `Descriptor.reads_describeObject` — each key of an object pattern comes back, and nothing else does
-/

namespace Conformance

/-! ## Names between anchors -/

/-- A name between anchors is given back without them. -/
theorem Descriptor.unanchor_anchored {source : String} {r : Regex}
    (h : Regex.ofSource source .none = .ok r) : unanchor (anchored source) = .ok source := by
  have htoList : (anchored source).toList = "^(?:".toList ++ (source.toList ++ ")$".toList) := by
    simp [anchored]
  have hstart : (anchored source).startsWith "^(?:" = true := by
    rw [String.startsWith_string_iff, htoList]
    exact List.prefix_append _ _
  have hend : (anchored source).endsWith ")$" = true := by
    rw [String.endsWith_eq_endsWith_toSlice, String.Slice.endsWith_string_iff, String.copy_toSlice,
      htoList, ← List.append_assoc]
    exact List.suffix_append _ _
  have hinner : String.ofList (((anchored source).toList.drop 4).dropLast.dropLast) = source := by
    rw [htoList]
    simp
  unfold unanchor
  simp only [hstart, hend, Bool.and_self, if_true, hinner, h]

/-! ## Keys that come back -/

/-- **A key comes back** as another one that says the same, unless it is listed as required, and with a
rule that is related to it. -/
structure Described.Rereads (R : Described → Validator → Prop) (d : Described)
    (q : Property Validator) : Prop where
  key : Key.SaysSame (d.required = false) d.key q.key
  rule : R d q.rule

/-- A key as it can be read, the empty one only if it is required, and listed as required only if it asks
for it. -/
structure Described.IsRead (d : Described) : Prop where
  key : Key.ofWritten d.key.written = .ok d.key
  written : d.key.written = "" → d.required = true
  required : d.required = true → d.key.asksAbsence = true

/-- The empty key is an unmarked literal name. -/
theorem Key.member_of_empty {k : Key} (h : Key.ofWritten "" = .ok k) :
    k.quantifier = .exact ∧ k.member = ("properties", "") := by
  have hsplit : Key.split "" = .ok (.exact, some "") := rfl
  rw [Key.ofWritten, hsplit] at h
  simp only [Key.ofParts] at h
  split at h
  · next r hr =>
    cases h
    have hsource : r.source = "" := Key.source_of_ofSource hr
    have hliteral : isLiteralName "" = true := rfl
    simp [Key.member, Key.isCatchAll, Key.isProperty, Key.isLiteral, Key.sourceText, Key.source,
      hsource, hliteral]
  · cases h
  · cases h

/-- The empty key asks for its absence. -/
theorem Key.asksAbsence_of_empty {k : Key} (h : Key.ofWritten "" = .ok k) : k.asksAbsence = true := by
  obtain ⟨hexact, hmember⟩ := Key.member_of_empty h
  obtain ⟨-, hproperty, -⟩ := Key.of_member_properties (congrArg Prod.fst hmember)
  rw [Key.isProperty, hexact] at hproperty
  rw [Key.asksAbsence, hexact]
  simpa using hproperty

namespace Described

variable {d : Described} {R : Described → Validator → Prop}

/-- The name of a key that is written to the properties. -/
theorem IsRead.literal (h : d.IsRead) (hpart : d.key.member.1 = "properties") :
    ∃ r, d.key.name = some r ∧ Regex.ofSource r.source .none = .ok r ∧
      (d.key.written ≠ "" → r.source ≠ "") ∧ isLiteralName r.source = true ∧
      d.key.member.2 = r.source ∧ (d.key.quantifier = .exact ∨ d.key.quantifier = .optional) := by
  obtain ⟨hcatch, hproperty, hname⟩ := Key.of_member_properties hpart
  rcases Key.ofWritten_eq_ok h.key with ⟨hq, -⟩ | ⟨r, -, hr, hsource, hne⟩
  · rw [Key.isCatchAll, hq] at hcatch
    cases hcatch
  · have hproperty' := hproperty
    rw [Key.isProperty, Bool.and_eq_true, Key.isLiteral, hr] at hproperty'
    refine ⟨r, hr, hsource, hne, hproperty'.1, ?_, by simpa using hproperty'.2⟩
    rw [hname, Key.sourceText, Key.source, hr]
    rfl

/-- The name of a key that is written to the pattern properties. -/
theorem IsRead.matched (h : d.IsRead) (hpart : d.key.member.1 = "patternProperties") :
    ∃ r, d.key.name = some r ∧ Regex.ofSource r.source .none = .ok r ∧ r.source ≠ "" ∧
      d.key.member.2 = anchored r.source ∧ d.key.quantifier ≠ .catchAll ∧
      (d.key.quantifier = .exact → d.key.isLiteral = false) := by
  obtain ⟨hcatch, hproperty, hname⟩ := Key.of_member_patterns hpart
  rcases Key.ofWritten_eq_ok h.key with ⟨hq, -⟩ | ⟨r, hq, hr, hsource, hne⟩
  · rw [Key.isCatchAll, hq] at hcatch
    cases hcatch
  · -- the empty key is written to the properties
    have hwritten : d.key.written ≠ "" := by
      intro hempty
      have hkey := h.key
      rw [hempty] at hkey
      rw [(Key.member_of_empty hkey).2] at hpart
      exact absurd hpart (by decide)
    refine ⟨r, hr, hsource, hne hwritten, ?_, hq, fun hexact => ?_⟩
    · rw [hname, Key.sourceText, Key.source, hr]
      rfl
    · simpa [Key.isProperty, hexact] using hproperty

/-- The catch-all key has no name. -/
theorem IsRead.catchAll (h : d.IsRead) (hpart : d.key.member.1 = "additionalProperties") :
    d.key.name = none ∧ d.key.quantifier = .catchAll := by
  obtain ⟨hcatch, -⟩ := Key.of_member_additional hpart
  rcases Key.ofWritten_eq_ok h.key with ⟨hq, hname⟩ | ⟨r, hq, -⟩
  · exact ⟨hname, hq⟩
  · exact absurd (of_decide_eq_true hcatch) hq

end Described

namespace Descriptor

variable {decode : NodeReader} {pointer : String} {R : Described → Validator → Prop} {d : Described}

/-! ## One key -/

theorem property_of_ofWritten {written : String} {key : Key} (h : Key.ofWritten written = .ok key)
    (rule : Validator) : property pointer written rule = .ok ⟨key, none, rule⟩ := by
  rw [property, h]

/-- A name behind a sign makes a property. -/
theorem property_sign {c : Char} {q : Quantifier} {r : Regex} (hsign : Quantifier.ofSign? c = some q)
    (hne : r.source ≠ "") (hr : Regex.ofSource r.source .none = .ok r) (rule : Validator) :
    property pointer (String.singleton c ++ r.source) rule =
      .ok ⟨⟨String.singleton c ++ r.source, q, some r⟩, none, rule⟩ :=
  property_of_ofWritten (Key.ofWritten_sign hsign hne hr) rule

/-- **A literal name** comes back required or optional. -/
theorem rereads_property {required : List Value} (hd : d.IsRead)
    (hpart : d.key.member.1 = "properties")
    (hrequired : required.any (Value.keyEq (.text d.key.member.2)) = d.required)
    (hrule : ∀ pointer, ∃ w, decode d.descriptor pointer = .ok w ∧ R d w) :
    ∃ q, decodeProperty decode pointer required (.text d.key.member.2) d.descriptor = .ok q ∧
      d.Rereads R q := by
  obtain ⟨r, hname, hsource, hne, hliteral, hmember, hquantifier⟩ := hd.literal hpart
  obtain ⟨w, hw, hR⟩ := hrule s!"{pointer}/properties/{d.key.member.2}"
  rw [hmember] at hrequired hw ⊢
  have hoptional : String.singleton '?' ++ r.source = "?" ++ r.source := rfl
  cases hreq : d.required with
  | true =>
    have hasks := hd.required hreq
    have hexact : d.key.quantifier = .exact := by
      rw [Key.asksAbsence, Bool.and_eq_true] at hasks
      exact of_decide_eq_true hasks.2
    refine ⟨⟨⟨r.source, .exact, some r⟩, none, w⟩, ?_, .same hname.symm hexact.symm, hR⟩
    rw [decodeProperty_text, hw]
    simp only [Except.ok_bind, hliteral, hrequired, hreq, Bool.not_true, Bool.false_eq_true,
      if_false, if_true]
    exact property_of_ofWritten (Key.ofWritten_literal hliteral hsource) w
  | false =>
    refine ⟨⟨⟨"?" ++ r.source, .optional, some r⟩, none, w⟩, ?_, ?_, hR⟩
    · rw [decodeProperty_text, hw]
      simp only [Except.ok_bind, hliteral, hrequired, hreq, Bool.not_true, Bool.false_eq_true,
        if_false]
      refine property_sign (c := '?') rfl (hne fun hempty => ?_) hsource w
      rw [hd.written hempty] at hreq
      cases hreq
    · have hisLiteral : d.key.isLiteral = true := by
        rw [Key.isLiteral, hname]
        exact hliteral
      rcases hquantifier with hexact | hoptional
      · exact .atMostOne hname.symm hisLiteral hexact rfl hreq
      · exact .same hname.symm hoptional.symm

/-- **Any other name** comes back with its sign, and with the one for any number if it has none. -/
theorem rereads_patternProperty {quantifiers : Members} (hd : d.IsRead)
    (hpart : d.key.member.1 = "patternProperties")
    (hsign : Entries.find? (.text d.key.member.2) quantifiers =
      if d.hasSign then some (.text d.key.quantifier.symbol) else none)
    (hrule : ∀ pointer, ∃ w, decode d.descriptor pointer = .ok w ∧ R d w) :
    ∃ q, decodePatternProperty decode pointer quantifiers (.text d.key.member.2) d.descriptor = .ok q ∧
      d.Rereads R q := by
  obtain ⟨r, hname, hsource, hne, hmember, hcatch, hexact⟩ := hd.matched hpart
  obtain ⟨w, hw, hR⟩ := hrule s!"{pointer}/patternProperties/{(Value.text d.key.member.2).nameText}"
  rw [hmember] at hsign hw ⊢
  -- the sign that is written, and the quantifier that it is read as
  have hread : ∃ (c : Char) (q : Quantifier), Quantifier.ofSign? c = some q ∧
      patternSign quantifiers (.text (anchored r.source)) = .ok (String.singleton c) ∧
      (q = d.key.quantifier ∨ (d.key.quantifier = .exact ∧ q = .any)) := by
    rw [patternSign, hsign]
    unfold Described.hasSign
    cases hquantifier : d.key.quantifier with
    | optional => exact ⟨'?', .optional, rfl, rfl, .inl rfl⟩
    | any => exact ⟨'*', .any, rfl, rfl, .inl rfl⟩
    | atLeastOne => exact ⟨'+', .atLeastOne, rfl, rfl, .inl rfl⟩
    | exact => exact ⟨'*', .any, rfl, rfl, .inr ⟨rfl, rfl⟩⟩
    | catchAll => exact absurd hquantifier hcatch
  obtain ⟨c, q, hofSign, hpattern, hq⟩ := hread
  refine ⟨⟨⟨String.singleton c ++ r.source, q, some r⟩, none, w⟩, ?_, ?_, hR⟩
  · rw [decodePatternProperty, hw]
    simp only [Except.ok_bind, hpattern, unanchor_anchored hsource]
    exact property_sign hofSign hne hsource w
  · rcases hq with rfl | ⟨hnone, rfl⟩
    · exact .same hname.symm rfl
    · exact .anyNumber hname.symm (hexact hnone) hnone rfl

/-- **The catch-all key** comes back. -/
theorem rereads_additional (pointer : String) (hd : d.IsRead)
    (hpart : d.key.member.1 = "additionalProperties")
    {w : Validator} (hR : R d w) :
    ∃ q, property pointer "*" w = .ok q ∧ d.Rereads R q := by
  obtain ⟨hname, hquantifier⟩ := hd.catchAll hpart
  exact ⟨⟨⟨"*", .catchAll, none⟩, none, w⟩, property_of_ofWritten rfl w,
    .same hname.symm hquantifier.symm, hR⟩

/-- Members are read one by one. -/
theorem decodeMembers_of_forall (read : Value → Value → Except Refusal (Property Validator))
    (ds : List Described)
    (h : ∀ d ∈ ds, ∃ q, read (.text d.key.member.2) d.descriptor = .ok q ∧ d.Rereads R q) :
    ∃ qs, decodeMembers read (Entries.ofTexts (Described.entries ds)) = .ok qs ∧
      List.Forall₂ (Described.Rereads R) ds qs := by
  induction ds with
  | nil => exact ⟨[], rfl, .nil⟩
  | cons d ds ih =>
    obtain ⟨hd, hds⟩ := List.forall_mem_cons.mp h
    obtain ⟨q, hq, hrereads⟩ := hd
    obtain ⟨qs, hqs, hall⟩ := ih hds
    refine ⟨q :: qs, ?_, .cons hrereads hall⟩
    rw [Described.entries, List.map_cons, Entries.ofTexts, List.map_cons, decodeMembers, hq,
      ← Described.entries, ← Entries.ofTexts, hqs]
    rfl

/-! ## Members of an object's descriptor -/

open Described (inPart)

variable {ds : List Described}

/-- Keys of a part that are written to the same name are the same. -/
theorem eq_of_member (hnodup : (ds.map (·.key.member)).Nodup) {part : String} {d d' : Described}
    (hd : d ∈ inPart part ds) (hd' : d' ∈ inPart part ds) (h : d'.key.member.2 = d.key.member.2) :
    d' = d := by
  obtain ⟨hmem, hpart⟩ := Described.mem_inPart.mp hd
  obtain ⟨hmem', hpart'⟩ := Described.mem_inPart.mp hd'
  exact List.inj_on_of_nodup_map hnodup hmem' hmem (Prod.ext (hpart'.trans hpart.symm) h)

/-- What is written under the name of a key is found there, if no other key has the name. -/
theorem lookup_map_of_mem {α : Type} {g : Described → α} (hd : d ∈ ds)
    (hunique : ∀ d' ∈ ds, d'.key.member.2 = d.key.member.2 → d' = d) :
    (ds.map fun d => (d.key.member.2, g d)).lookup d.key.member.2 = some (g d) := by
  induction ds with
  | nil => cases hd
  | cons d' ds ih =>
    obtain ⟨hfirst, hrest⟩ := List.forall_mem_cons.mp hunique
    rw [List.map_cons, List.lookup_cons]
    by_cases h : d'.key.member.2 = d.key.member.2
    · rw [hfirst h, beq_self_eq_true]
    · have hne : (d.key.member.2 == d'.key.member.2) = false := beq_eq_false_iff_ne.mpr (Ne.symm h)
      rw [hne]
      refine ih (Or.resolve_left (List.mem_cons.mp hd) ?_) hrest
      rintro rfl
      exact h rfl

/-- Nothing is found under a name that no key is written to. -/
theorem lookup_map_of_forall_ne {α : Type} {g : Described → α} {name : String}
    (hne : ∀ d ∈ ds, d.key.member.2 ≠ name) :
    (ds.map fun d => (d.key.member.2, g d)).lookup name = none := by
  refine List.lookup_eq_none_iff.mpr (List.forall_mem_map.mpr fun d hd => ?_)
  rw [bne_iff_ne]
  exact (hne d hd).symm

/-- The sign of a key, as far as it has one. -/
theorem find?_quantifiers (hnodup : (ds.map (·.key.member)).Nodup)
    (hd : d ∈ inPart "patternProperties" ds) :
    Entries.find? (.text d.key.member.2) (ObjectParts.ofKeys ds).quantifiers =
      if d.hasSign then some (.text d.key.quantifier.symbol) else none := by
  have hunique : ∀ d' ∈ (inPart "patternProperties" ds).filter (·.hasSign),
      d'.key.member.2 = d.key.member.2 → d' = d :=
    fun d' hd' => eq_of_member hnodup hd (List.mem_of_mem_filter hd')
  rw [ObjectParts.ofKeys, Entries.find?_ofTexts]
  cases hsign : d.hasSign with
  | true =>
    exact lookup_map_of_mem (g := fun d => Value.text d.key.quantifier.symbol)
      (List.mem_filter.mpr ⟨hd, hsign⟩) hunique
  | false =>
    refine lookup_map_of_forall_ne fun d' hd' h => ?_
    have hsign' := (List.mem_filter.mp hd').2
    rw [hunique d' hd' h, hsign] at hsign'
    cases hsign'

/-- A literal name is listed if it is required. -/
theorem any_required (hnodup : (ds.map (·.key.member)).Nodup) (hd : d ∈ inPart "properties" ds) :
    (ObjectParts.ofKeys ds).required.any (Value.keyEq (.text d.key.member.2)) = d.required := by
  rw [Bool.eq_iff_iff, Entries.any_keyEq_text_iff]
  constructor
  · intro hmem
    obtain ⟨d', hd', heq⟩ := List.mem_map.mp hmem
    obtain ⟨hpart, hrequired⟩ := List.mem_filter.mp hd'
    rwa [← eq_of_member hnodup hd hpart (Value.text.inj heq)]
  · exact fun hrequired => List.mem_map_of_mem (List.mem_filter.mpr ⟨hd, hrequired⟩)

/-- There is one catch-all key at most. -/
theorem inPart_additional (hnodup : (ds.map (·.key.member)).Nodup) :
    inPart "additionalProperties" ds = (inPart "additionalProperties" ds).head?.toList := by
  have hpart : (inPart "additionalProperties" ds).Nodup :=
    (List.Nodup.of_map _ hnodup).filter _
  have hsame : ∀ d ∈ inPart "additionalProperties" ds, ∀ d' ∈ inPart "additionalProperties" ds,
      d' = d := by
    intro d hd d' hd'
    have hname := (Key.of_member_additional (Described.mem_inPart.mp hd).2).2
    have hname' := (Key.of_member_additional (Described.mem_inPart.mp hd').2).2
    exact eq_of_member hnodup hd hd' (hname'.trans hname.symm)
  match hlist : inPart "additionalProperties" ds with
  | [] => rfl
  | [d] => rfl
  | d :: d' :: rest =>
    rw [hlist] at hpart hsame
    have heq := hsame d List.mem_cons_self d' (List.mem_cons_of_mem d List.mem_cons_self)
    rw [heq] at hpart
    exact absurd List.mem_cons_self (List.nodup_cons.mp hpart).1

theorem lookup_segment (name keyword : String) (empty : Bool) (v : Value) :
    (if empty then [] else [(keyword, v)] : List (String × Value)).lookup name =
      if name = keyword then if empty then none else some v else none := by
  cases empty <;> by_cases h : name = keyword <;> simp [h]

theorem lookup_additional (name : String) (additional : List Value) :
    (additional.map fun v => ("additionalProperties", v)).lookup name =
      if name = "additionalProperties" then additional.head? else none := by
  by_cases h : name = "additionalProperties" <;> cases additional <;> simp [h]

/-- The keywords of an object pattern. -/
def objectNames : List String :=
  ["type", "properties", "required", "patternProperties", "additionalProperties", "x-quantifiers"]

theorem names_fields (parts : ObjectParts) (additional : List Value) :
    ∀ f ∈ parts.fields additional, f.1 ∈ objectNames := by
  have hsegment : ∀ (keyword : String) (empty : Bool) (v : Value), keyword ∈ objectNames →
      ∀ f ∈ (if empty then [] else [(keyword, v)] : List (String × Value)), f.1 ∈ objectNames := by
    intro keyword empty v hkeyword f hf
    cases empty with
    | true => cases hf
    | false => rwa [List.mem_singleton.mp hf]
  simp only [ObjectParts.fields, List.forall_mem_append, List.forall_mem_cons, List.forall_mem_map]
  refine ⟨⟨⟨⟨⟨by decide, fun _ _ => by decide⟩, ?_⟩, ?_⟩, ?_⟩, ?_⟩ <;>
    exact hsegment _ _ _ (by decide)

theorem names_members (ds : List Described) : ∀ f ∈ Described.members ds, f.1 ∈ objectNames := by
  rw [Described.members_eq_fields]
  exact names_fields _ _

/-- What stands under the keywords of an object pattern. -/
theorem lookup_fields (parts : ObjectParts) (additional : List Value) :
    (parts.fields additional).lookup "type" = some (.text "object") ∧
    (parts.fields additional).lookup "properties" =
      (if parts.properties.isEmpty then none else some (.dict parts.properties)) ∧
    (parts.fields additional).lookup "required" =
      (if parts.required.isEmpty then none else some (.list parts.required)) ∧
    (parts.fields additional).lookup "patternProperties" =
      (if parts.patterns.isEmpty then none else some (.dict parts.patterns)) ∧
    (parts.fields additional).lookup "x-quantifiers" =
      (if parts.quantifiers.isEmpty then none else some (.dict parts.quantifiers)) ∧
    (parts.fields additional).lookup "additionalProperties" = additional.head? := by
  simp only [ObjectParts.fields, List.cons_append, List.lookup_cons, List.lookup_append,
    lookup_segment, lookup_additional]
  simp

theorem lookup_members (ds : List Described) :
    let parts := ObjectParts.ofKeys ds
    (Described.members ds).lookup "type" = some (.text "object") ∧
    (Described.members ds).lookup "properties" =
      (if parts.properties.isEmpty then none else some (.dict parts.properties)) ∧
    (Described.members ds).lookup "required" =
      (if parts.required.isEmpty then none else some (.list parts.required)) ∧
    (Described.members ds).lookup "patternProperties" =
      (if parts.patterns.isEmpty then none else some (.dict parts.patterns)) ∧
    (Described.members ds).lookup "x-quantifiers" =
      (if parts.quantifiers.isEmpty then none else some (.dict parts.quantifiers)) ∧
    (Described.members ds).lookup "additionalProperties" =
      (inPart "additionalProperties" ds).head?.map Described.descriptor := by
  rw [← List.head?_map, Described.members_eq_fields]
  exact lookup_fields _ _

/-! ## The whole of an object's descriptor -/

variable {fs : List (String × Value)}

/-- A part that is left out has no members. -/
theorem part?_of_lookup {name : String} {entries : List (Value × Value)}
    (h : fs.lookup name = if entries.isEmpty then none else some (.dict entries)) :
    part? name (Entries.ofTexts fs) = some entries := by
  rw [part?, member?, Entries.find?_ofTexts, h]
  cases entries <;> rfl

/-- No name is unknown if each is among the properties. -/
theorem foldl_unknown {names : List String} {properties : Members}
    (hknown : ∀ name ∈ names, properties.any (fun p => Value.keyEq (.text name) p.1) = true) :
    (names.map Value.text).foldl (fun seen v =>
      if properties.any (fun p => Value.keyEq v p.1) || seen.any (Value.keyEq v) then seen
      else seen ++ [v]) [] = [] := by
  induction names with
  | nil => rfl
  | cons name names ih =>
    obtain ⟨hname, hnames⟩ := List.forall_mem_cons.mp hknown
    rw [List.map_cons, List.foldl_cons, hname, Bool.true_or, if_pos rfl]
    exact ih hnames

/-- The required names are read if each is among the properties. -/
theorem requiredNames_of_lookup (pointer : String) {names : List String} {properties : Members}
    (h : fs.lookup "required" =
      if (names.map Value.text).isEmpty then none else some (.list (names.map .text)))
    (hknown : ∀ name ∈ names, properties.any (fun p => Value.keyEq (.text name) p.1) = true) :
    requiredNames pointer (Entries.ofTexts fs) properties = .ok (names.map .text) := by
  have hvalue : (member? "required" (Entries.ofTexts fs)).getD (.list []) =
      .seq .list 0 (names.map .text) := by
    rw [member?, Entries.find?_ofTexts, h]
    cases names <;> rfl
  have hhashable : (names.map Value.text).find? (fun v => !v.isHashable) = none := by
    refine List.find?_eq_none.mpr (List.forall_mem_map.mpr fun name _ => ?_)
    exact Bool.false_ne_true
  rw [requiredNames, hvalue]
  simp only [hhashable, foldl_unknown hknown]
  rfl

/-- The required names of an object's descriptor are read: they are those of required keys, and these
are among the properties. -/
theorem requiredNames_members (pointer : String) (ds : List Described) :
    requiredNames pointer (Entries.ofTexts (Described.members ds)) (ObjectParts.ofKeys ds).properties =
      .ok (ObjectParts.ofKeys ds).required := by
  obtain ⟨-, -, hrequired, -⟩ := lookup_members ds
  have hnames : (ObjectParts.ofKeys ds).required =
      (((inPart "properties" ds).filter (·.required)).map fun d => d.key.member.2).map .text := by
    rw [List.map_map]
    rfl
  have hknown : ∀ name ∈ ((inPart "properties" ds).filter (·.required)).map fun d => d.key.member.2,
      (ObjectParts.ofKeys ds).properties.any (fun p => Value.keyEq (.text name) p.1) = true := by
    refine List.forall_mem_map.mpr fun d hd => List.any_eq_true.mpr ?_
    refine ⟨(.text d.key.member.2, d.descriptor), ?_, ?_⟩
    · exact List.mem_map_of_mem (f := fun f : String × Value => (Value.text f.1, f.2))
        (List.mem_map_of_mem (f := fun d : Described => (d.key.member.2, d.descriptor))
          (List.mem_of_mem_filter hd))
    · rw [Entries.keyEq_text, beq_self_eq_true]
  rw [hnames] at hrequired ⊢
  exact requiredNames_of_lookup pointer hrequired hknown

/-! ### The three parts -/

section Parts

variable (pointer : String) (hread : ∀ d ∈ ds, d.IsRead) (hnodup : (ds.map (·.key.member)).Nodup)
  (hrule : ∀ d ∈ ds, ∀ pointer, ∃ w, decode d.descriptor pointer = .ok w ∧ R d w)
include hread hnodup hrule

/-- **The properties** come back as literal names. -/
theorem decodeMembers_properties :
    ∃ qs, decodeMembers (decodeProperty decode pointer (ObjectParts.ofKeys ds).required)
        (ObjectParts.ofKeys ds).properties = .ok qs ∧
      List.Forall₂ (Described.Rereads R) (inPart "properties" ds) qs := by
  refine decodeMembers_of_forall _ _ fun d hd => ?_
  obtain ⟨hmem, hpart⟩ := Described.mem_inPart.mp hd
  exact rereads_property (hread d hmem) hpart (any_required hnodup hd) (hrule d hmem)

/-- **The pattern properties** come back with their signs. -/
theorem decodeMembers_patterns :
    ∃ qs, decodeMembers (decodePatternProperty decode pointer (ObjectParts.ofKeys ds).quantifiers)
        (ObjectParts.ofKeys ds).patterns = .ok qs ∧
      List.Forall₂ (Described.Rereads R) (inPart "patternProperties" ds) qs := by
  refine decodeMembers_of_forall _ _ fun d hd => ?_
  obtain ⟨hmem, hpart⟩ := Described.mem_inPart.mp hd
  exact rereads_patternProperty (hread d hmem) hpart (find?_quantifiers hnodup hd) (hrule d hmem)

/-- **The additional properties** come back as the catch-all key. -/
theorem decodeAdditional_members
    (hdict : ∀ d ∈ ds, ∃ tag entries, d.descriptor = .mapping .dict tag entries) :
    ∃ qs, decodeAdditional decode pointer (Entries.ofTexts (Described.members ds)) = .ok qs ∧
      List.Forall₂ (Described.Rereads R) (inPart "additionalProperties" ds) qs := by
  obtain ⟨-, -, -, -, -, hadditional⟩ := lookup_members ds
  rw [inPart_additional hnodup, decodeAdditional, member?, Entries.find?_ofTexts, hadditional]
  cases hhead : (inPart "additionalProperties" ds).head? with
  | none => exact ⟨[], rfl, .nil⟩
  | some d =>
    obtain ⟨hd, hpart⟩ := Described.mem_inPart.mp (List.mem_of_head? hhead)
    obtain ⟨tag, entries, heq⟩ := hdict d hd
    obtain ⟨w, hw, hR⟩ := hrule d hd s!"{pointer}/additionalProperties"
    obtain ⟨q, hq, hrereads⟩ := rereads_additional pointer (hread d hd) hpart hR
    refine ⟨[q], ?_, .cons hrereads .nil⟩
    rw [heq] at hw
    rw [Option.map_some, Option.getD_some, heq]
    simp only [hw, hq, Except.ok_bind]
    rfl

end Parts

/-- **An object pattern** comes back key by key, in the order of the parts. -/
theorem decodeObject_members (pointer : String) (hread : ∀ d ∈ ds, d.IsRead)
    (hnodup : (ds.map (·.key.member)).Nodup)
    (hrule : ∀ d ∈ ds, ∀ pointer, ∃ w, decode d.descriptor pointer = .ok w ∧ R d w)
    (hdict : ∀ d ∈ ds, ∃ tag entries, d.descriptor = .mapping .dict tag entries) :
    ∃ qs, decodeObject decode pointer (Entries.ofTexts (Described.members ds)) = .ok (.object qs) ∧
      List.Forall₂ (Described.Rereads R) (Key.byPart (·.key) ds) qs := by
  obtain ⟨-, hproperties, -, hpatterns, hquantifiers, -⟩ := lookup_members ds
  have honly : only pointer objectNames (Entries.ofTexts (Described.members ds)) = .ok () :=
    only_ofTexts (names_members ds)
  rw [objectNames] at honly
  obtain ⟨named, hnamed, hnamedAll⟩ := decodeMembers_properties pointer hread hnodup hrule
  obtain ⟨matched, hmatched, hmatchedAll⟩ := decodeMembers_patterns pointer hread hnodup hrule
  obtain ⟨additional, hadditional, hadditionalAll⟩ :=
    decodeAdditional_members pointer hread hnodup hrule hdict
  refine ⟨named ++ matched ++ additional, ?_,
    List.rel_append (List.rel_append hnamedAll hmatchedAll) hadditionalAll⟩
  simp only [decodeObject, honly, Except.ok_bind, part?_of_lookup hproperties,
    part?_of_lookup hpatterns, part?_of_lookup hquantifiers, requiredNames_members, hnamed, hmatched,
    hadditional]
  rfl

/-- What stands under a key is less deep than the descriptor. -/
theorem depth_lt_of_mem_members (hd : d ∈ ds) :
    d.descriptor.depth < (Value.record (Described.members ds)).depth := by
  -- the dictionaries of the two parts are members themselves
  have hpart : ∀ part : String, d ∈ inPart part ds →
      (if (Entries.ofTexts (Described.entries (inPart part ds))).isEmpty then []
        else [(part, Value.record (Described.entries (inPart part ds)))]) ⊆ Described.members ds →
      d.descriptor.depth < (Value.record (Described.members ds)).depth := by
    intro part hmem hsub
    have hentry : (d.key.member.2, d.descriptor) ∈ Described.entries (inPart part ds) :=
      List.mem_map_of_mem hmem
    have hempty : (Entries.ofTexts (Described.entries (inPart part ds))).isEmpty = false := by
      rw [Entries.isEmpty_ofTexts, List.isEmpty_eq_false_iff]
      exact List.ne_nil_of_mem hentry
    rw [hempty] at hsub
    have hinner := depth_lt_of_mem_fields hentry
    have houter := depth_lt_of_mem_fields (hsub List.mem_cons_self)
    exact Nat.lt_trans hinner houter
  rcases Key.member_cases d.key with ⟨-, hmember⟩ | ⟨-, -, hmember⟩ | ⟨-, -, hmember⟩
  · have hmem := Described.mem_inPart.mpr ⟨hd, congrArg Prod.fst hmember⟩
    have hfield : ("additionalProperties", d.descriptor) ∈
        (inPart "additionalProperties" ds).map fun d => ("additionalProperties", d.descriptor) :=
      List.mem_map_of_mem hmem
    have hmember : ("additionalProperties", d.descriptor) ∈ Described.members ds := by
      simp only [Described.members, List.mem_append, List.mem_cons]
      exact .inl (.inl (.inl (.inl (.inr hfield))))
    exact depth_lt_of_mem_fields hmember
  · refine hpart "properties" (Described.mem_inPart.mpr ⟨hd, congrArg Prod.fst hmember⟩) ?_
    intro f hf
    simp only [Described.members, List.mem_append, List.mem_cons]
    exact .inl (.inl (.inl (.inr hf)))
  · refine hpart "patternProperties"
      (Described.mem_inPart.mpr ⟨hd, congrArg Prod.fst hmember⟩) ?_
    intro f hf
    simp only [Described.members, List.mem_append, List.mem_cons]
    exact .inl (.inr hf)

/-- Only dictionaries are read. -/
theorem Reads.exists_dict {n : Nat} {descriptor : Value} {R : Validator → Prop}
    (h : Reads n descriptor R) : ∃ tag entries, descriptor = .mapping .dict tag entries := by
  obtain ⟨w, hw, -⟩ := h (descriptor.depth + 1) "" (Nat.le_succ _)
  unfold decodeTo decodeNode at hw
  split at hw
  · exact ⟨_, _, rfl⟩
  · cases hw

/-- **The descriptor of an object pattern is read key by key**, in the order of its parts. -/
theorem reads_byPart {n : Nat} (hread : ∀ d ∈ ds, d.IsRead) (hnodup : (ds.map (·.key.member)).Nodup)
    (hreads : ∀ d ∈ ds, Reads n d.descriptor (R d)) :
    Reads n (describeObject ds) fun w =>
      ∃ qs, w = .object qs ∧ List.Forall₂ (Described.Rereads R) (Key.byPart (·.key) ds) qs := by
  rw [describeObject_eq hnodup]
  refine reads_of_members fun depth pointer hdepth => ?_
  -- one step less is enough for what stands under the keys
  have hless : ∀ d ∈ ds, d.descriptor.depth ≤ depth := fun d hd =>
    Nat.le_of_lt_succ (Nat.lt_of_lt_of_le (depth_lt_of_mem_members hd) hdepth)
  obtain ⟨qs, hqs, hall⟩ := decodeObject_members pointer hread hnodup
    (fun d hd pointer => hreads d hd depth pointer (hless d hd)) fun d hd => (hreads d hd).exists_dict
  refine ⟨.object qs, ?_, qs, rfl, hall⟩
  rw [decodeMembersOf_typed (names_members ds) (by decide) (lookup_members ds).1]
  exact hqs

/-- **Each key comes back**, and what comes back comes from a key. -/
theorem reads_describeObject {n : Nat} (hread : ∀ d ∈ ds, d.IsRead)
    (hnodup : (ds.map (·.key.member)).Nodup) (hreads : ∀ d ∈ ds, Reads n d.descriptor (R d)) :
    Reads n (describeObject ds) fun w => ∃ qs, w = .object qs ∧
      (∀ d ∈ ds, ∃ q ∈ qs, d.Rereads R q) ∧ ∀ q ∈ qs, ∃ d ∈ ds, d.Rereads R q := by
  refine (reads_byPart hread hnodup hreads).mono ?_
  rintro w ⟨qs, rfl, hall⟩
  refine ⟨qs, rfl, fun d hd => hall.exists_right ((Key.mem_byPart _).mpr hd), fun q hq => ?_⟩
  obtain ⟨d, hd, hrereads⟩ := hall.exists_left hq
  exact ⟨d, (Key.mem_byPart _).mp hd, hrereads⟩

end Descriptor

end Conformance
