import Conformance.Proofs.Descriptor.RoundTrip
import Conformance.Proofs.Descriptor.Writing

/-!
# What a successful reading says

A descriptor of an object pattern that is read at all is read as an object pattern with a key for each
node that it holds.

## Main Definitions

* `Descriptor.quantifierIn` — the quantifier that is listed for a name

## Main statements

* `Descriptor.decodeObject_eq_ok` — what an object is read as
* `Descriptor.length_of_decode` — there is a key for each node
* `Descriptor.saysSame_of_decode` — if no key was written over, the keys say what the old ones say
* `Descriptor.decode_declareDialect` — a dialect in front is nothing to what is read
-/

namespace Conformance.Descriptor

open Described (inPart last)

variable {decode : NodeReader} {pointer : String} {ds : List Described} {n : Nat} {w : Validator}
  {qs : List (Property Validator)}

/-! ## Successful readings -/

/-- Members that were read were read one by one. -/
theorem forall₂_of_decodeMembers {read : Value → Value → Except Refusal (Property Validator)}
    {ms : Members} {qs : List (Property Validator)} (h : decodeMembers read ms = .ok qs) :
    List.Forall₂ (fun e q => read e.1 e.2 = .ok q) ms qs := by
  induction ms generalizing qs with
  | nil =>
    cases h
    exact .nil
  | cons e ms ih =>
    obtain ⟨name, node⟩ := e
    simp only [decodeMembers, Except.bind_eq_ok_iff, Except.pure_eq_ok_iff] at h
    obtain ⟨q, hq, qs, hqs, rfl⟩ := h
    exact .cons hq (ih hqs)

/-- What was read from the nodes of some keys was read from the keys one by one. -/
theorem forall₂_of_entries {read : Value → Value → Except Refusal (Property Validator)}
    (h : decodeMembers read (Entries.ofTexts (Described.entries ds)) = .ok qs) :
    List.Forall₂ (fun d q => read (.text d.key.member.2) d.descriptor = .ok q) ds qs := by
  have hread := forall₂_of_decodeMembers h
  rw [Entries.ofTexts, Described.entries, List.map_map, List.forall₂_map_left_iff] at hread
  exact hread

/-- **What an object is read as**: the keys of its parts, one after another. -/
theorem decodeObject_eq_ok {ms : Members} (h : decodeObject decode pointer ms = .ok w) :
    ∃ properties patterns quantifiers required named matched additional,
      part? "properties" ms = some properties ∧ part? "patternProperties" ms = some patterns ∧
      part? "x-quantifiers" ms = some quantifiers ∧
      requiredNames pointer ms properties = .ok required ∧
      decodeMembers (decodeProperty decode pointer required) properties = .ok named ∧
      decodeMembers (decodePatternProperty decode pointer quantifiers) patterns = .ok matched ∧
      decodeAdditional decode pointer ms = .ok additional ∧
      w = .object (named ++ matched ++ additional) := by
  simp only [decodeObject, Except.bind_eq_ok_iff] at h
  obtain ⟨-, -, h⟩ := h
  split at h
  · next properties patterns quantifiers hproperties hpatterns hquantifiers =>
    simp only [Except.bind_eq_ok_iff, Except.pure_eq_ok_iff] at h
    obtain ⟨required, hrequired, named, hnamed, matched, hmatched, additional, hadditional, rfl⟩ := h
    exact ⟨properties, patterns, quantifiers, required, named, matched, additional, hproperties,
      hpatterns, hquantifiers, hrequired, hnamed, hmatched, hadditional, rfl⟩
  · cases h

/-- Further properties are read as one key, if there is a node for them. -/
theorem length_of_decodeAdditional {ms : Members} {qs : List (Property Validator)}
    (h : decodeAdditional decode pointer ms = .ok qs)
    (hnode : member? "additionalProperties" ms ≠ some (.bool true)) :
    qs.length = (member? "additionalProperties" ms).toList.length := by
  unfold decodeAdditional at h
  cases hmember : member? "additionalProperties" ms with
  | none =>
    rw [hmember] at h
    cases h
    rfl
  | some v =>
    rw [hmember, Option.getD_some] at h
    rw [hmember] at hnode
    split at h
    · simp only [Except.bind_eq_ok_iff, Except.pure_eq_ok_iff] at h
      obtain ⟨rule, -, q, -, rfl⟩ := h
      rfl
    · exact absurd rfl hnode
    · cases h

/-! ## Signs -/

/-- The quantifier that is listed for a name: any number of properties where none of the signs is. -/
def quantifierIn (quantifiers : Members) (source : String) : Quantifier :=
  match Entries.find? (.text source) quantifiers with
  | some (.text "?") => .optional
  | some (.text "+") => .atLeastOne
  | _ => .any

/-- The sign of a name is that of its quantifier. -/
theorem exists_sign_of_patternSign {quantifiers : Members} {source sign : String}
    (h : patternSign quantifiers (.text source) = .ok sign) :
    ∃ c, sign = String.singleton c ∧
      Quantifier.ofSign? c = some (quantifierIn quantifiers source) := by
  unfold patternSign at h
  unfold quantifierIn
  cases hfind : Entries.find? (.text source) quantifiers with
  | none =>
    rw [hfind] at h
    cases h
    exact ⟨'*', rfl, rfl⟩
  | some v =>
    rw [hfind] at h
    dsimp only at h
    split at h
    · cases h
    split at h
    · next hone =>
      cases h
      unfold isOneOf at hone
      split at hone
      · next s =>
        rw [List.contains_iff_mem, List.mem_pair] at hone
        rcases hone with rfl | rfl
        · exact ⟨'?', rfl, rfl⟩
        · exact ⟨'+', rfl, rfl⟩
      · cases hone
    · next hnone =>
      cases h
      refine ⟨'*', rfl, ?_⟩
      split
      · next heq =>
        cases heq
        exact absurd rfl hnone
      · next heq =>
        cases heq
        exact absurd rfl hnone
      · rfl

/-! ## The whole descriptor of an object pattern -/

/-- A whole descriptor of an object pattern is read as an object. -/
theorem decode_describeObject (n : Nat) (ds : List Described) :
    ∃ decode : NodeReader, Descriptor.decode n (describeObject ds) =
      decodeObject decode "#" (membersOf (describeObject ds)) := by
  have hfields := describeObject_eq_fields (ObjectParts.written_foldl ds).own
  refine ⟨decodeTo n ((describeObject ds).depth + 1), ?_⟩
  rw [Descriptor.decode, decodeTo, hfields]
  exact decodeMembersOf_typed (names_fields _ _) (by decide) (lookup_fields _ _).1

/-- **There is a key for each node** of a descriptor that is read, unless a host's validator
was described by a bare `true` where further properties are. -/
theorem length_of_decode (h : Descriptor.decode n (describeObject ds) = .ok w)
    (hnode : (("additionalProperties", ""), .bool true) ∉ held (describeObject ds)) :
    ∃ qs, w = .object qs ∧ qs.length = (held (describeObject ds)).length := by
  obtain ⟨decode, hdecode⟩ := decode_describeObject n ds
  rw [hdecode] at h
  obtain ⟨properties, patterns, quantifiers, required, named, matched, additional, hproperties,
    hpatterns, -, -, hnamed, hmatched, hadditional, rfl⟩ := decodeObject_eq_ok h
  have hbare : member? "additionalProperties" (membersOf (describeObject ds)) ≠
      some (.bool true) := by
    intro hmember
    refine hnode ?_
    rw [held, hmember]
    simp
  refine ⟨named ++ matched ++ additional, rfl, ?_⟩
  rw [held, hproperties, hpatterns, Option.getD_some, Option.getD_some, heldIn, heldIn]
  simp only [List.length_append, List.length_map]
  rw [← (forall₂_of_decodeMembers hnamed).length_eq, ← (forall₂_of_decodeMembers hmatched).length_eq,
    length_of_decodeAdditional hadditional hbare]
  omega

/-! ## Keys -/

/-- A key that can be read, and is listed as required only if it asks for it, is not empty unless it is
written to the properties. -/
theorem isRead_of_part {d : Described} (hkey : Key.ofWritten d.key.written = .ok d.key)
    (hasks : d.required = true → d.key.asksAbsence = true) (hpart : d.key.member.1 ≠ "properties") :
    d.IsRead := by
  refine ⟨hkey, fun hempty => ?_, hasks⟩
  rw [hempty] at hkey
  exact absurd (congrArg Prod.fst (Key.member_of_empty hkey).2) hpart

/-- **A literal name that comes back** says the same as before. -/
theorem saysSame_of_decodeProperty {d : Described} {required : List Value} {q : Property Validator}
    (hkey : Key.ofWritten d.key.written = .ok d.key)
    (hasks : d.required = true → d.key.asksAbsence = true) (hpart : d.key.member.1 = "properties")
    (hrequired : required.any (Value.keyEq (.text d.key.member.2)) = d.required)
    (h : decodeProperty decode pointer required (.text d.key.member.2) d.descriptor = .ok q) :
    Key.SaysSame (d.required = false) d.key q.key := by
  -- what stands under the key is of no account
  have hrule : ∃ rule, decodeProperty (fun _ _ => .ok rule) pointer required (.text d.key.member.2)
      d.descriptor = .ok q := by
    rw [decodeProperty_text, Except.bind_eq_ok_iff] at h
    obtain ⟨rule, -, h⟩ := h
    refine ⟨rule, ?_⟩
    rw [decodeProperty_text]
    exact h
  obtain ⟨rule, hq⟩ := hrule
  by_cases hempty : d.key.written = ""
  · -- the empty key comes back only if it is required: there is nothing behind a sign in front of it
    rw [hempty] at hkey
    obtain ⟨hexact, hmember⟩ := Key.member_of_empty hkey
    rw [hmember] at hq hrequired
    have hliteral : isLiteralName "" = true := rfl
    cases hreq : d.required with
    | true =>
      simp only [decodeProperty_text, Except.ok_bind, hliteral, hrequired, hreq, Bool.not_true,
        Bool.false_eq_true, if_false, if_true, property_of_ofWritten hkey] at hq
      cases hq
      exact .same rfl rfl
    | false =>
      have hsign : Key.ofWritten ("?" ++ "") = .error (.compile (.keyWithoutName "?")) := rfl
      simp only [decodeProperty_text, Except.ok_bind, hliteral, hrequired, hreq, Bool.not_true,
        Bool.false_eq_true, if_false, property, hsign] at hq
      cases hq
  · have hback : ∃ q', decodeProperty (fun _ _ => .ok rule) pointer required (.text d.key.member.2)
        d.descriptor = .ok q' ∧ d.Rereads (fun _ _ => True) q' :=
      rereads_property ⟨hkey, fun h => absurd h hempty, hasks⟩ hpart hrequired fun _ => ⟨rule, rfl, trivial⟩
    obtain ⟨q', hq', hrereads⟩ := hback
    cases hq.symm.trans hq'
    exact hrereads.key

/-- **Any other name that comes back** says the same as before. -/
theorem saysSame_of_decodePatternProperty {d : Described} {quantifiers : Members}
    {q : Property Validator} (hd : d.IsRead) (hpart : d.key.member.1 = "patternProperties")
    (hsign : Entries.find? (.text d.key.member.2) quantifiers =
      if d.hasSign then some (.text d.key.quantifier.symbol) else none)
    (h : decodePatternProperty decode pointer quantifiers (.text d.key.member.2) d.descriptor =
      .ok q) : Key.SaysSame (d.required = false) d.key q.key := by
  have hrule : ∃ rule, decodePatternProperty (fun _ _ => .ok rule) pointer quantifiers
      (.text d.key.member.2) d.descriptor = .ok q := by
    rw [decodePatternProperty, Except.bind_eq_ok_iff] at h
    obtain ⟨rule, -, h⟩ := h
    exact ⟨rule, h⟩
  obtain ⟨rule, hq⟩ := hrule
  have hback : ∃ q', decodePatternProperty (fun _ _ => .ok rule) pointer quantifiers
      (.text d.key.member.2) d.descriptor = .ok q' ∧ d.Rereads (fun _ _ => True) q' :=
    rereads_patternProperty hd hpart hsign fun _ => ⟨rule, rfl, trivial⟩
  obtain ⟨q', hq', hrereads⟩ := hback
  cases hq.symm.trans hq'
  exact hrereads.key

/-- The catch-all key says the same as before. -/
theorem saysSame_of_decodeAdditional {ms : Members}
    (hkeys : ∀ d ∈ ds, Key.ofWritten d.key.written = .ok d.key ∧
      (d.required = true → d.key.asksAbsence = true))
    (hnodup : (ds.map (·.key.member)).Nodup)
    (hmember : member? "additionalProperties" ms =
      (inPart "additionalProperties" ds).head?.map Described.descriptor)
    (hnode : member? "additionalProperties" ms ≠ some (.bool true))
    (h : decodeAdditional decode pointer ms = .ok qs) :
    List.Forall₂ (fun d q => Key.SaysSame (d.required = false) d.key q.key)
      (inPart "additionalProperties" ds) qs := by
  rw [decodeAdditional] at h
  rw [hmember] at h hnode
  rw [inPart_additional hnodup]
  cases hhead : (inPart "additionalProperties" ds).head? with
  | none =>
    rw [hhead] at h
    cases h
    exact .nil
  | some d =>
    obtain ⟨hd, hpart⟩ := Described.mem_inPart.mp (List.mem_of_head? hhead)
    obtain ⟨hkey, hasks⟩ := hkeys d hd
    have hread : d.IsRead := isRead_of_part hkey hasks (by rw [hpart]; decide)
    obtain ⟨hname, hquantifier⟩ := hread.catchAll hpart
    rw [hhead, Option.map_some] at h hnode
    rw [Option.getD_some] at h
    split at h
    · have hcatch : Key.ofWritten "*" = .ok ⟨"*", .catchAll, none⟩ := rfl
      simp only [Except.bind_eq_ok_iff, Except.pure_eq_ok_iff, property_of_ofWritten hcatch,
        Except.ok.injEq] at h
      obtain ⟨rule, -, q, rfl, rfl⟩ := h
      exact .cons (.same hname.symm hquantifier.symm) .nil
    · next heq => exact absurd (congrArg some heq) hnode
    · cases h

/-- **If no key was written over, every key comes back**, and says the same as before. -/
theorem saysSame_of_decode (hnodup : (ds.map (·.key.member)).Nodup)
    (hkeys : ∀ d ∈ ds, Key.ofWritten d.key.written = .ok d.key ∧
      (d.required = true → d.key.asksAbsence = true))
    (h : Descriptor.decode n (describeObject ds) = .ok (.object qs))
    (hnode : (("additionalProperties", ""), .bool true) ∉ held (describeObject ds)) :
    ∃ ds', ds'.Perm ds ∧
      List.Forall₂ (fun d q => Key.SaysSame (d.required = false) d.key q.key) ds' qs := by
  obtain ⟨decode, hdecode⟩ := decode_describeObject n ds
  have hms : membersOf (describeObject ds) = Entries.ofTexts (Described.members ds) := by
    rw [describeObject_eq hnodup]
    rfl
  rw [hdecode, hms] at h
  obtain ⟨-, hproperties, -, hpatterns, hquantifiers, hadditional⟩ := lookup_members ds
  obtain ⟨properties, patterns, quantifiers, required, named, matched, additional, hproperties',
    hpatterns', hquantifiers', hrequired, hnamed, hmatched, hadditional', hobject⟩ :=
    decodeObject_eq_ok h
  cases (part?_of_lookup hproperties).symm.trans hproperties'
  cases (part?_of_lookup hpatterns).symm.trans hpatterns'
  cases (part?_of_lookup hquantifiers).symm.trans hquantifiers'
  cases (requiredNames_members "#" ds).symm.trans hrequired
  cases hobject
  have hbare : member? "additionalProperties" (Entries.ofTexts (Described.members ds)) ≠
      some (.bool true) := by
    intro hmember
    refine hnode ?_
    rw [held, hms, hmember]
    simp
  have hnamed' : List.Forall₂ _ (inPart "properties" ds) named := forall₂_of_entries hnamed
  have hmatched' : List.Forall₂ _ (inPart "patternProperties" ds) matched :=
    forall₂_of_entries hmatched
  refine ⟨_, Key.perm_byPart (·.key) ds, List.rel_append (List.rel_append ?_ ?_) ?_⟩
  · refine ((List.forall₂_and_left _ _).mpr ⟨fun d hd => hd, hnamed'⟩).imp ?_
    rintro d q ⟨hd, hq⟩
    obtain ⟨hmem, hpart⟩ := Described.mem_inPart.mp hd
    exact saysSame_of_decodeProperty (hkeys d hmem).1 (hkeys d hmem).2 hpart
      (any_required hnodup hd) hq
  · refine ((List.forall₂_and_left _ _).mpr ⟨fun d hd => hd, hmatched'⟩).imp ?_
    rintro d q ⟨hd, hq⟩
    obtain ⟨hmem, hpart⟩ := Described.mem_inPart.mp hd
    have hread : d.IsRead :=
      isRead_of_part (hkeys d hmem).1 (hkeys d hmem).2 (by rw [hpart]; decide)
    exact saysSame_of_decodePatternProperty hread hpart (find?_quantifiers hnodup hd) hq
  · exact saysSame_of_decodeAdditional hkeys hnodup
      (by rw [member?, Entries.find?_ofTexts, hadditional]) hbare hadditional'

/-! ## The dialect in front -/

theorem decode_dialect (n : Nat) (dialect : String) (fs : List (String × Value)) :
    Descriptor.decode n (.record (("$schema", .text dialect) :: fs)) =
      Descriptor.decode n (.record fs) := by
  have hsame : decodeMembersOf n (decodeTo n ((Value.record fs).depth + 1)) "#"
      (Entries.ofTexts (("$schema", .text dialect) :: fs)) =
        decodeMembersOf n (decodeTo n ((Value.record fs).depth + 1)) "#" (Entries.ofTexts fs) :=
    decodeMembersOf_dialect n
  rw [Descriptor.decode, Descriptor.decode, depth_dialect]
  exact hsame

/-- **A dictionary that declares no dialect yet**, and has each name once. -/
def Undeclared (descriptor : Value) : Prop :=
  ∃ fs, descriptor = .record fs ∧ (fs.map Prod.fst).Nodup ∧ "$schema" ∉ fs.map Prod.fst

theorem undeclared_describeObject (ds : List Described) : Undeclared (describeObject ds) := by
  have hsub := sublist_fields (ds.foldl ObjectParts.add ObjectParts.start)
    ((last ("additionalProperties", "") ds).map (·.descriptor))
  have hnew : "$schema" ∉ fieldNames := by decide
  exact ⟨_, describeObject_eq_fields (ObjectParts.written_foldl ds).own, hsub.nodup (by decide),
    fun hmem => hnew (hsub.subset hmem)⟩

/-- **A dialect in front is nothing to what is read.** -/
theorem decode_declareDialect {descriptor : Value} (h : Undeclared descriptor) (settings : Settings)
    (n : Nat) :
    Descriptor.decode n (settings.declareDialect descriptor) = Descriptor.decode n descriptor := by
  obtain ⟨fs, rfl, hnodup, hnew⟩ := h
  rw [declareDialect_record settings hnodup hnew]
  split
  · exact decode_dialect n _ fs
  · rfl

/-- A descriptor with its dialect in front is a document as it is. -/
theorem ofDocument_declareDialect {descriptor : Value} (h : Undeclared descriptor)
    (settings : Settings) :
    ofDocument (settings.declareDialect descriptor) = .ok (settings.declareDialect descriptor) := by
  obtain ⟨fs, rfl, hnodup, hnew⟩ := h
  rw [declareDialect_record settings hnodup hnew]
  split <;> rfl

end Conformance.Descriptor
