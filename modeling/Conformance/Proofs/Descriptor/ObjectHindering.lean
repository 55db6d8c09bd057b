import Conformance.Proofs.Descriptor.Documents
import Conformance.Proofs.Descriptor.Hindering
import Conformance.Proofs.Descriptor.Recovering

/-!
# What stands in the way of reading the descriptor of an object pattern

## Main Definitions

* `Descriptor.EmptyName` — the empty name is written, and not listed as required

## Main statements

* `Descriptor.hindered_decodeProperty`, `Descriptor.hindered_decodePatternProperty` — what stands in the
  way of one key
* `Descriptor.hinders_describeObject` — what stands in the way of an object pattern: what does under the
  keys that are written last, and an empty name that is not listed as required
-/

namespace Conformance.Descriptor

open Described (inPart last)

/-- The empty name is written, and no property of that name is listed as required: it would have to be
read as a quantifier sign with no name behind it. -/
def EmptyName (ds : List Described) (e : Refusal) : Prop :=
  e = (DecodeCause.key (.keyWithoutName "?")).refusal ∧ (∃ d ∈ ds, d.key.written = "") ∧
    ∀ d ∈ ds, d.key.written = "" → d.required = false

variable {decode : NodeReader} {pointer : String} {ds : List Described} {d : Described}
  {O : Refusal → Prop}

/-! ## One key -/

/-- A key that is written as the empty property is the empty key. -/
theorem written_eq_empty_iff (hkey : Key.ofWritten d.key.written = .ok d.key) :
    d.key.written = "" ↔ d.key.member = ("properties", "") := by
  constructor
  · intro hempty
    rw [hempty] at hkey
    exact (Key.member_of_empty hkey).2
  · intro hmember
    by_contra hne
    obtain ⟨hcatch, hproperty, hname⟩ := Key.of_member_properties (congrArg Prod.fst hmember)
    rcases Key.ofWritten_eq_ok hkey with ⟨hq, -⟩ | ⟨r, -, hr, -, hsource⟩
    · rw [Key.isCatchAll, hq] at hcatch
      cases hcatch
    · rw [hmember, Key.sourceText, Key.source, hr] at hname
      exact hsource hne hname.symm

/-- **A property** is hindered by what stands under it, and by an empty name that is not required. -/
theorem hindered_decodeProperty (pointer : String) (hkey : Key.ofWritten d.key.written = .ok d.key)
    (hasks : d.required = true → d.key.asksAbsence = true) (hpart : d.key.member.1 = "properties")
    (required : List Value) (hrule : ∀ pointer, Hindered O (decode d.descriptor pointer)) :
    Hindered (fun e => O e ∨ (d.key.written = "" ∧ required.any (Value.keyEq (.text "")) = false ∧
        e = (DecodeCause.key (.keyWithoutName "?")).refusal))
      (decodeProperty decode pointer required (.text d.key.member.2) d.descriptor) := by
  rw [decodeProperty_text]
  refine (hrule _).bind fun w => ?_
  by_cases hempty : d.key.written = ""
  · have hliteral : isLiteralName "" = true := rfl
    rw [(written_eq_empty_iff hkey).mp hempty]
    cases hrequired : required.any (Value.keyEq (.text "")) with
    | true =>
      simp only [hliteral, Bool.not_true, Bool.false_eq_true, if_false, if_true]
      rw [hempty] at hkey
      rw [property_of_ofWritten hkey]
      exact .ok fun e he => Bool.noConfusion he.2.1
    | false =>
      have hsign : property pointer ("?" ++ "") w =
          refuse pointer (.key (.keyWithoutName "?")) := rfl
      simp only [hliteral, Bool.not_true, Bool.false_eq_true, if_false, hsign]
      exact .error ⟨hempty, trivial, rfl⟩
  · have hread : d.IsRead := ⟨hkey, fun h => absurd h hempty, hasks⟩
    obtain ⟨r, -, hsource, hne, hliteral, hmember, -⟩ := hread.literal hpart
    have hfree : ∀ e, ¬ (d.key.written = "" ∧ required.any (Value.keyEq (.text "")) = false ∧
        e = (DecodeCause.key (.keyWithoutName "?")).refusal) := fun e he => hempty he.1
    rw [hmember]
    simp only [hliteral, Bool.not_true, Bool.false_eq_true, if_false]
    split
    · rw [property_of_ofWritten (Key.ofWritten_literal hliteral hsource)]
      exact .ok hfree
    · have hoptional : "?" ++ r.source = String.singleton '?' ++ r.source := rfl
      rw [hoptional, property_sign rfl (hne hempty) hsource]
      exact .ok hfree

/-- Where only texts are listed as quantifiers, each name has a sign. -/
theorem exists_patternSign {quantifiers : Members} {source : String}
    (h : ∀ v, Entries.find? (.text source) quantifiers = some v → ∃ t, v = .text t) :
    ∃ sign, patternSign quantifiers (.text source) = .ok sign := by
  unfold patternSign
  cases hfind : Entries.find? (.text source) quantifiers with
  | none => exact ⟨_, rfl⟩
  | some v =>
    obtain ⟨t, rfl⟩ := h v hfind
    have hhashable : (Value.text t).isHashable = true := rfl
    simp only [hhashable, Bool.not_true, Bool.false_eq_true, if_false]
    split <;> exact ⟨_, rfl⟩

/-- **A pattern property** is hindered by what stands under it. -/
theorem hindered_decodePatternProperty (pointer : String) (hd : d.IsRead)
    (hpart : d.key.member.1 = "patternProperties") {quantifiers : Members}
    (hsigns : ∀ v, Entries.find? (.text d.key.member.2) quantifiers = some v → ∃ t, v = .text t)
    (hrule : ∀ pointer, Hindered O (decode d.descriptor pointer)) :
    Hindered O
      (decodePatternProperty decode pointer quantifiers (.text d.key.member.2) d.descriptor) := by
  obtain ⟨sign, hsign⟩ := exists_patternSign hsigns
  obtain ⟨c, rfl, hofSign⟩ := exists_sign_of_patternSign hsign
  obtain ⟨r, -, hsource, hne, hmember, -⟩ := hd.matched hpart
  rw [hmember] at hsign ⊢
  rw [decodePatternProperty, hsign]
  simp only [Except.ok_bind, unanchor_anchored hsource]
  have hproperty : ∀ w, Hindered (fun _ => False) (property pointer (String.singleton c ++ r.source) w) := by
    intro w
    rw [property_sign hofSign hne hsource]
    exact .ok fun _ => id
  exact ((hrule _).bind hproperty).congr fun e => or_iff_left id

/-- **The additional properties** are hindered by what stands under the last catch-all key. -/
theorem hindered_decodeAdditional (pointer : String) {ms : Members}
    (hmember : member? "additionalProperties" ms =
      (last ("additionalProperties", "") ds).map (·.descriptor))
    (hdict : ∀ d ∈ ds, ∃ tag entries, d.descriptor = .mapping .dict tag entries)
    (hnone : last ("additionalProperties", "") ds = none → ∀ e, ¬ O e)
    (hrule : ∀ d, last ("additionalProperties", "") ds = some d →
      ∀ pointer, Hindered O (decode d.descriptor pointer)) :
    Hindered O (decodeAdditional decode pointer ms) := by
  rw [decodeAdditional, hmember]
  cases hlast : last ("additionalProperties", "") ds with
  | none => exact .ok (hnone hlast)
  | some d =>
    obtain ⟨tag, entries, hdescriptor⟩ := hdict d (Described.mem_of_last hlast)
    have hnode := hrule d hlast s!"{pointer}/additionalProperties"
    have hcatch : Key.ofWritten "*" = .ok ⟨"*", .catchAll, none⟩ := rfl
    rw [hdescriptor] at hnode
    rw [Option.map_some, Option.getD_some, hdescriptor]
    simp only [property_of_ofWritten hcatch, Except.ok_bind]
    exact hnode.map _

/-- Members are read one by one. -/
theorem hindered_decodeMembers {read : Value → Value → Except Refusal (Property Validator)}
    {fs : List (String × Value)} {P : String → Refusal → Prop}
    (h : ∀ f ∈ fs, Hindered (P f.1) (read (.text f.1) f.2)) :
    Hindered (fun e => ∃ f ∈ fs, P f.1 e) (decodeMembers read (Entries.ofTexts fs)) := by
  induction fs with
  | nil => exact .ok fun _ ⟨_, hf, _⟩ => nomatch hf
  | cons f fs ih =>
    obtain ⟨hf, hfs⟩ := List.forall_mem_cons.mp h
    refine (hf.bind fun p => (ih hfs).map _).congr fun e => ?_
    rw [List.exists_mem_cons_iff]

/-- The required names are read: a name that is listed is one of the properties. -/
theorem requiredNames_describeObject (pointer : String) (ds : List Described) :
    let parts := ds.foldl ObjectParts.add ObjectParts.start
    requiredNames pointer (membersOf (describeObject ds)) parts.properties = .ok parts.required := by
  intro parts
  have hwritten := ObjectParts.written_foldl ds
  obtain ⟨-, -, hlookup, -⟩ := lookup_fields parts
    ((last ("additionalProperties", "") ds).map (·.descriptor)).toList
  have hnames : parts.required =
      (((inPart "properties" ds).filter (·.required)).map fun d => d.key.member.2).map .text := by
    rw [hwritten.required, List.map_map]
    rfl
  rw [describeObject_eq_fields hwritten.own]
  rw [hnames] at hlookup ⊢
  refine requiredNames_of_lookup pointer hlookup (List.forall_mem_map.mpr fun d hd => ?_)
  obtain ⟨hmem, hpart⟩ := Described.mem_inPart.mp (List.mem_of_mem_filter hd)
  have hsome : (last d.key.member ds).isSome = true :=
    Described.isSome_last.mpr (List.mem_map_of_mem hmem)
  obtain ⟨d', hd'⟩ := Option.isSome_iff_exists.mp hsome
  have hproperty : (.text d.key.member.2, d'.descriptor) ∈ parts.properties := by
    refine hwritten.properties.mem_iff.mpr ?_
    rw [← hpart, hd']
    rfl
  refine List.any_eq_true.mpr ⟨_, hproperty, ?_⟩
  rw [Entries.keyEq_text, beq_self_eq_true]

/-- What is found under a name is less deep than the dictionary. -/
theorem depth_lt_of_lookup {fs : List (String × Value)} {name : String} {v : Value}
    (h : fs.lookup name = some v) : v.depth < (Value.record fs).depth := by
  have hmember : member? name (Entries.ofTexts fs) = some v := by
    rw [member?, Entries.find?_ofTexts, h]
  exact depth_lt_of_mem_fields (mem_of_member? hmember)

/-- What stands in a part of an object is less deep than the object. -/
theorem depth_lt_of_records {fs : List (String × Value)} {f : String → Option Value}
    {entries : Members} {part name : String} {v : Value} (hentries : Entries.Records f entries)
    (hlookup : fs.lookup part = if entries.isEmpty then none else some (.dict entries))
    (hv : f name = some v) : v.depth < (Value.record fs).depth := by
  obtain ⟨gs, rfl, hnodup, hgs⟩ := hentries
  have hmem : (name, v) ∈ gs := (Entries.mem_iff_lookup hnodup).mpr (by rw [hgs, hv])
  have hempty : (Entries.ofTexts gs).isEmpty = false := by
    rw [Entries.isEmpty_ofTexts, List.isEmpty_eq_false_iff]
    exact List.ne_nil_of_mem hmem
  rw [hempty, if_neg Bool.false_ne_true] at hlookup
  exact Nat.lt_trans (depth_lt_of_mem_fields hmem) (depth_lt_of_lookup hlookup)

/-- What is written under a key is less deep than the descriptor. -/
theorem depth_lt_of_last {m : String × String} (h : last m ds = some d) :
    d.descriptor.depth < (describeObject ds).depth := by
  have hwritten := ObjectParts.written_foldl ds
  have hmember := Described.member_of_last h
  obtain ⟨-, hproperties, -, hpatterns, -, hadditional⟩ :=
    lookup_fields (ds.foldl ObjectParts.add ObjectParts.start)
      ((last ("additionalProperties", "") ds).map (·.descriptor)).toList
  rw [describeObject_eq_fields hwritten.own]
  rcases Key.member_cases d.key with ⟨-, hm⟩ | ⟨-, -, hm⟩ | ⟨-, -, hm⟩
  · rw [hm] at hmember
    rw [← hmember] at h
    rw [h] at hadditional ⊢
    exact depth_lt_of_lookup hadditional
  · rw [hm] at hmember
    rw [← hmember] at h
    exact depth_lt_of_records hwritten.properties hproperties (congrArg (Option.map _) h)
  · rw [hm] at hmember
    rw [← hmember] at h
    exact depth_lt_of_records hwritten.patterns hpatterns (congrArg (Option.map _) h)

/-- What an object pattern's descriptor is read as, part by part. -/
theorem decodeObject_describeObject (ds : List Described) :
    decodeObject decode pointer (membersOf (describeObject ds)) = do
      let parts := ds.foldl ObjectParts.add ObjectParts.start
      let named ← decodeMembers (decodeProperty decode pointer parts.required) parts.properties
      let matched ← decodeMembers (decodePatternProperty decode pointer parts.quantifiers) parts.patterns
      let additional ← decodeAdditional decode pointer (membersOf (describeObject ds))
      return .object (named ++ matched ++ additional) := by
  have hfields := describeObject_eq_fields (ObjectParts.written_foldl ds).own
  obtain ⟨-, hproperties, hpatterns, -, -⟩ := parts_describeObject ds
  obtain ⟨-, -, -, -, hquantifiers, -⟩ := lookup_fields (ds.foldl ObjectParts.add ObjectParts.start)
    ((last ("additionalProperties", "") ds).map (·.descriptor)).toList
  have hsigns := part?_of_lookup hquantifiers
  have honly : only pointer objectNames (membersOf (describeObject ds)) = .ok () := by
    rw [hfields]
    exact only_ofTexts (names_fields _ _)
  rw [objectNames] at honly
  have hmembers : membersOf (describeObject ds) = Entries.ofTexts _ := congrArg membersOf hfields
  rw [← hmembers] at hsigns
  simp only [decodeObject, honly, Except.ok_bind, hproperties, hpatterns, hsigns,
    requiredNames_describeObject]

/-- The members of a part are hindered by what hinders the keys that are written there last. -/
theorem hindered_decodeMembers_of_records {part : String} {entries : Members}
    {read : Value → Value → Except Refusal (Property Validator)} {P : String → Refusal → Prop}
    (hentries : Entries.Records (fun name => (last (part, name) ds).map (·.descriptor)) entries)
    (hnone : ∀ name, last (part, name) ds = none → ∀ e, ¬ P name e)
    (h : ∀ name d, last (part, name) ds = some d →
      Hindered (P name) (read (.text name) d.descriptor)) :
    Hindered (fun e => ∃ name, P name e) (decodeMembers read entries) := by
  obtain ⟨fs, rfl, hnodup, hlookup⟩ := hentries
  have hlast : ∀ f, f ∈ fs ↔ ∃ d, last (part, f.1) ds = some d ∧ d.descriptor = f.2 := by
    intro f
    rw [Entries.mem_iff_lookup hnodup, hlookup, Option.map_eq_some_iff]
  have hmembers : ∀ f ∈ fs, Hindered (P f.1) (read (.text f.1) f.2) := by
    intro f hf
    obtain ⟨d, hd, hdescriptor⟩ := (hlast f).mp hf
    rw [← hdescriptor]
    exact h f.1 d hd
  refine (hindered_decodeMembers hmembers).congr fun e => ?_
  constructor
  · rintro ⟨f, -, he⟩
    exact ⟨f.1, he⟩
  · rintro ⟨name, he⟩
    cases hd : last (part, name) ds with
    | none => exact absurd he (hnone name hd e)
    | some d => exact ⟨(name, d.descriptor), (hlast _).mpr ⟨d, hd, rfl⟩, he⟩

/-- The empty name is not listed as required exactly if no empty key is. -/
theorem any_required_empty_iff (hkeys : ∀ d ∈ ds, Key.ofWritten d.key.written = .ok d.key) :
    (ds.foldl ObjectParts.add ObjectParts.start).required.any (Value.keyEq (.text "")) = false ↔
      ∀ d ∈ ds, d.key.written = "" → d.required = false := by
  rw [(ObjectParts.written_foldl ds).required, List.any_eq_false, List.forall_mem_map]
  constructor
  · intro h d hd hempty
    have hmember := (written_eq_empty_iff (hkeys d hd)).mp hempty
    by_contra hrequired
    rw [Bool.not_eq_false] at hrequired
    refine h d (List.mem_filter.mpr ⟨?_, hrequired⟩) ?_
    · exact Described.mem_inPart.mpr ⟨hd, congrArg Prod.fst hmember⟩
    · rw [hmember, Entries.keyEq_text, beq_self_eq_true]
  · intro h d hd heq
    obtain ⟨hpart, hrequired⟩ := List.mem_filter.mp hd
    obtain ⟨hmem, hpart⟩ := Described.mem_inPart.mp hpart
    rw [Entries.keyEq_text, beq_iff_eq] at heq
    have hmember : d.key.member = ("properties", "") := Prod.ext hpart heq.symm
    rw [h d hmem ((written_eq_empty_iff (hkeys d hmem)).mpr hmember)] at hrequired
    cases hrequired

/-! ### The three parts -/

section Parts

variable {O : String × String → Refusal → Prop}
  (hkeys : ∀ d ∈ ds, Key.ofWritten d.key.written = .ok d.key ∧
    (d.required = true → d.key.asksAbsence = true))
  (hnone : ∀ m, last m ds = none → ∀ e, ¬ O m e)
include hkeys hnone

/-- **The properties** are hindered by what stands under the keys that are written last, and by an empty
name that is not listed as required. -/
theorem hindered_properties (pointer : String)
    (hnode : ∀ m d, last m ds = some d → ∀ pointer, Hindered (O m) (decode d.descriptor pointer)) :
    let parts := ds.foldl ObjectParts.add ObjectParts.start
    Hindered (fun e => (∃ name, O ("properties", name) e) ∨ EmptyName ds e)
      (decodeMembers (decodeProperty decode pointer parts.required) parts.properties) := by
  intro parts
  have hread : ∀ d ∈ ds, Key.ofWritten d.key.written = .ok d.key := fun d hd => (hkeys d hd).1
  have hempty : (∃ d ∈ ds, d.key.written = "") ↔ (last ("properties", "") ds).isSome = true := by
    rw [Described.isSome_last, List.mem_map]
    exact exists_congr fun d => and_congr_right fun hd => written_eq_empty_iff (hread d hd)
  -- the empty name is one of the members, whichever key is written there last
  have hmembers : Hindered
      (fun e => ∃ name, O ("properties", name) e ∨ (name = "" ∧ EmptyName ds e))
      (decodeMembers (decodeProperty decode pointer parts.required) parts.properties) := by
    refine hindered_decodeMembers_of_records (ObjectParts.written_foldl ds).properties ?_ ?_
    · rintro name hlast e (he | ⟨rfl, -, hsome, -⟩)
      · exact hnone _ hlast e he
      · rw [hempty, hlast] at hsome
        cases hsome
    · intro name d hlast
      have hmember := Described.member_of_last hlast
      have hmem := Described.mem_of_last hlast
      have hproperty := hindered_decodeProperty pointer (hkeys d hmem).1 (hkeys d hmem).2
        (congrArg Prod.fst hmember) parts.required (hnode _ d hlast)
      rw [hmember] at hproperty
      refine hproperty.congr fun e => or_congr_right ?_
      rw [any_required_empty_iff hread, written_eq_empty_iff (hread d hmem), hmember]
      constructor
      · rintro ⟨hname, hrequired, rfl⟩
        obtain ⟨-, rfl⟩ := Prod.mk.inj hname
        exact ⟨rfl, rfl, hempty.mpr (by rw [hlast]; rfl), hrequired⟩
      · rintro ⟨rfl, rfl, -, hrequired⟩
        exact ⟨rfl, hrequired, rfl⟩
  refine hmembers.congr fun e => ?_
  rw [exists_or, exists_eq_left]

/-- **The pattern properties** are hindered by what stands under the keys that are written last. -/
theorem hindered_patternProperties (pointer : String)
    (hnode : ∀ m d, last m ds = some d → ∀ pointer, Hindered (O m) (decode d.descriptor pointer)) :
    let parts := ds.foldl ObjectParts.add ObjectParts.start
    Hindered (fun e => ∃ name, O ("patternProperties", name) e)
      (decodeMembers (decodePatternProperty decode pointer parts.quantifiers) parts.patterns) := by
  intro parts
  have hwritten := ObjectParts.written_foldl ds
  refine hindered_decodeMembers_of_records hwritten.patterns (fun name => hnone _)
    fun name d hlast => ?_
  have hmember := Described.member_of_last hlast
  have hmem := Described.mem_of_last hlast
  have hread : d.IsRead :=
    isRead_of_part (hkeys d hmem).1 (hkeys d hmem).2 (by rw [hmember]; simp)
  have hsigns : ∀ v, Entries.find? (.text d.key.member.2) parts.quantifiers = some v →
      ∃ t, v = .text t := by
    intro v hv
    obtain ⟨gs, hgs, -, hlookup⟩ := hwritten.quantifiers
    rw [hgs, Entries.find?_ofTexts, hlookup, Option.map_eq_some_iff] at hv
    obtain ⟨d', -, rfl⟩ := hv
    exact ⟨_, rfl⟩
  have hproperty := hindered_decodePatternProperty pointer hread (congrArg Prod.fst hmember) hsigns
    (hnode _ d hlast)
  rwa [hmember] at hproperty

/-- **The descriptor of an object pattern** is hindered by what stands under the keys that are written
last, and by an empty name that is not listed as required. -/
theorem hinders_describeObject {n : Nat}
    (hdict : ∀ d ∈ ds, ∃ tag entries, d.descriptor = .mapping .dict tag entries)
    (hrule : ∀ m d, last m ds = some d → Hinders n (O m) d.descriptor) :
    Hinders n (fun e => (∃ m, O m e) ∨ EmptyName ds e) (describeObject ds) := by
  have hfields := describeObject_eq_fields (ObjectParts.written_foldl ds).own
  rw [hfields]
  refine hinders_of_members fun depth pointer hdepth => ?_
  rw [← hfields] at hdepth
  have hnode : ∀ m d, last m ds = some d → ∀ pointer,
      Hindered (O m) (decodeTo n depth d.descriptor pointer) := by
    intro m d hlast pointer
    have hlt := depth_lt_of_last hlast
    exact hrule m d hlast depth pointer (by omega)
  have hmembers : membersOf (describeObject ds) = Entries.ofTexts _ := congrArg membersOf hfields
  rw [decodeMembersOf_typed (names_fields _ _) (by decide) (lookup_fields _ _).1]
  show Hindered _ (decodeObject _ _ _)
  rw [← hmembers, decodeObject_describeObject]
  have hadditional := hindered_decodeAdditional pointer (parts_describeObject ds).1 hdict
    (hnone _) fun d hlast => hnode _ d hlast
  refine ((hindered_properties hkeys hnone pointer hnode).bind fun named =>
    (hindered_patternProperties hkeys hnone pointer hnode).bind fun matched =>
      hadditional.map _).congr fun e => ?_
  constructor
  · rintro ((⟨name, he⟩ | hempty) | ⟨name, he⟩ | he)
    · exact .inl ⟨_, he⟩
    · exact .inr hempty
    · exact .inl ⟨_, he⟩
    · exact .inl ⟨_, he⟩
  · rintro (⟨m, he⟩ | hempty)
    · obtain ⟨d, hlast⟩ := Option.ne_none_iff_exists'.mp fun hlast => hnone m hlast e he
      have hmember := Described.member_of_last hlast
      rcases Key.member_cases d.key with ⟨-, hm⟩ | ⟨-, -, hm⟩ | ⟨-, -, hm⟩
      · rw [← hmember, hm] at he
        exact .inr (.inr he)
      · rw [← hmember, hm] at he
        exact .inl (.inl ⟨_, he⟩)
      · rw [← hmember, hm] at he
        exact .inr (.inl ⟨_, he⟩)
    · exact .inl (.inr hempty)

end Parts

end Conformance.Descriptor
