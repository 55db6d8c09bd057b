import Conformance.Proofs.Descriptor.Reading

/-!
# Descriptors that differ in their annotations

A descriptor may be annotated at any of its nodes.  What it is read as does not depend on that, nor
does the way in which it is refused.

Two nodes with the same members but for annotations are compared under two readers.  If these agree on
the nodes inside, they agree on the two nodes; so descriptors that differ in annotations, however deep,
are read alike by induction on the depth to which they are read.

## Main Definitions

* `Descriptor.MembersAlike` — the members of two nodes that differ in annotations, the nodes inside
  related
* `Descriptor.Reannotated` — two descriptors that differ in annotations

## Main statements

* `Descriptor.MembersAlike.decodeMembersOf_eq` — one node
* `Descriptor.Reannotated.decodeTo_eq`, `Descriptor.Reannotated.decode_eq` — whole descriptors
-/

namespace Conformance.Descriptor

/-- The keywords that hold nodes. -/
def holders : List String :=
  ["anyOf", "items", "properties", "patternProperties", "additionalProperties"]

/-- **What stands under a keyword of two nodes**: the same, or nodes at the same places that are
related. -/
inductive UnderAlike (R : Value → Value → Prop) : Value → Value → Value → Prop where
  | same {k v : Value} : UnderAlike R k v v
  | choice {keyword : String} {tag tag' : Nat} {nodes nodes' : List Value} : keyword = "anyOf" →
    List.Forall₂ R nodes nodes' →
    UnderAlike R (.text keyword) (.seq .list tag nodes) (.seq .list tag' nodes')
  | node {keyword : String} {tag tag' : Nat} {ms ms' : Members} :
    keyword = "items" ∨ keyword = "additionalProperties" →
    R (.mapping .dict tag ms) (.mapping .dict tag' ms') →
    UnderAlike R (.text keyword) (.mapping .dict tag ms) (.mapping .dict tag' ms')
  | part {keyword : String} {tag tag' : Nat} {entries entries' : Members} :
    keyword = "properties" ∨ keyword = "patternProperties" →
    entries.map Prod.fst = entries'.map Prod.fst →
    List.Forall₂ R (entries.map Prod.snd) (entries'.map Prod.snd) →
    UnderAlike R (.text keyword) (.mapping .dict tag entries) (.mapping .dict tag' entries')

/-- **The members of two nodes that differ in annotations**: annotations stand anywhere in either of
them, and the other members are the same ones in the same order, the nodes under them related. -/
inductive MembersAlike (R : Value → Value → Prop) : Members → Members → Prop where
  | nil : MembersAlike R [] []
  | member {k v v' : Value} {ms ms' : Members} : UnderAlike R k v v' → MembersAlike R ms ms' →
    MembersAlike R ((k, v) :: ms) ((k, v') :: ms')
  | left {k v : Value} {ms ms' : Members} : isOneOf annotations k = true → MembersAlike R ms ms' →
    MembersAlike R ((k, v) :: ms) ms'
  | right {k v : Value} {ms ms' : Members} : isOneOf annotations k = true → MembersAlike R ms ms' →
    MembersAlike R ms ((k, v) :: ms')

/-- **Two descriptors that differ in annotations**, at any of their nodes. -/
inductive Reannotated : Value → Value → Prop where
  | same {v : Value} : Reannotated v v
  | node {tag tag' : Nat} {ms ms' : Members} : MembersAlike Reannotated ms ms' →
    Reannotated (.mapping .dict tag ms) (.mapping .dict tag' ms')

/-! ## Nodes inside -/

/-- **The nodes directly inside a node.** -/
inductive Subnode (ms : Members) : Value → Prop where
  | alternative {tag : Nat} {nodes : List Value} {v : Value} :
    member? "anyOf" ms = some (.seq .list tag nodes) → v ∈ nodes → Subnode ms v
  | items {v : Value} : member? "items" ms = some v → Subnode ms v
  | member {part : String} {entries : Members} {name v : Value} :
    part = "properties" ∨ part = "patternProperties" → part? part ms = some entries →
    (name, v) ∈ entries → Subnode ms v
  | additional {v : Value} : member? "additionalProperties" ms = some v → Subnode ms v

/-- What stands under a key is less deep than the dictionary. -/
theorem depth_le_of_mem {ms : Members} {k v : Value} (h : (k, v) ∈ ms) :
    v.depth ≤ Value.depthUnder ms := by
  induction ms with
  | nil => cases h
  | cons e ms ih =>
    obtain ⟨k', v'⟩ := e
    rw [Value.depthUnder]
    rcases List.mem_cons.mp h with heq | h
    · cases heq
      exact Nat.le_max_left _ _
    · exact Nat.le_trans (ih h) (Nat.le_max_right _ _)

/-- What is found under a name is a member. -/
theorem text_mem_of_member? {name : String} {ms : Members} {v : Value}
    (h : member? name ms = some v) : (.text name, v) ∈ ms := by
  induction ms with
  | nil => cases h
  | cons e ms ih =>
    obtain ⟨k, v'⟩ := e
    rw [member?, Entries.find?] at h
    split at h
    · next heq =>
      cases h
      rw [Entries.eq_text_of_keyEq heq]
      exact List.mem_cons_self
    · exact List.mem_cons_of_mem _ (ih h)

theorem depth_le_of_member? {name : String} {ms : Members} {v : Value}
    (h : member? name ms = some v) : v.depth ≤ Value.depthUnder ms :=
  depth_le_of_mem (text_mem_of_member? h)

/-- A node inside is less deep. -/
theorem Subnode.depth_le {ms : Members} {v : Value} (h : Subnode ms v) :
    v.depth ≤ Value.depthUnder ms := by
  cases h with
  | alternative hnodes hmem =>
    exact Nat.le_of_lt (Nat.lt_of_lt_of_le (depth_lt_of_mem hmem) (depth_le_of_member? hnodes))
  | items hitems => exact depth_le_of_member? hitems
  | @member part entries name _ _ hpart hmem =>
    unfold part? at hpart
    split at hpart
    · cases hpart
      cases hmem
    · next tag entries' hmember =>
      cases hpart
      have hlt : Value.depthUnder entries < (Value.mapping .dict tag entries).depth := by
        rw [Value.depth]
        exact Nat.lt_succ_self _
      exact Nat.le_of_lt (Nat.lt_of_le_of_lt (depth_le_of_mem hmem)
        (Nat.lt_of_lt_of_le hlt (depth_le_of_member? hmember)))
    · cases hpart
  | additional hadditional => exact depth_le_of_member? hadditional

/-- The node of one of several types is less deep than the node that lists them. -/
theorem depth_type_le {ms : Members} {types : List Value} {tag : Nat} {t : Value}
    (h : member? "type" ms = some (.seq .list tag types)) (ht : t ∈ types) :
    (Value.record [("type", t)]).depth ≤ Value.depthUnder ms := by
  have hlt : t.depth < Value.depthUnder ms :=
    Nat.lt_of_lt_of_le (depth_lt_of_mem ht) (depth_le_of_member? h)
  simpa [Value.record, Value.dict, Value.depth, Value.depthUnder] using Nat.succ_le_of_lt hlt

/-! ## Two readers -/

variable {decode decode' : NodeReader} {pointer : String}

/-- Two readers read two nodes alike, at every place. -/
def ReadAlike (decode decode' : NodeReader) (v v' : Value) : Prop :=
  ∀ pointer, decode v pointer = decode' v' pointer

theorem decodeEach_congr {nodes nodes' : List Value}
    (h : List.Forall₂ (ReadAlike decode decode') nodes nodes') (pointer : String) (i : Nat) :
    decodeEach decode pointer i nodes = decodeEach decode' pointer i nodes' := by
  induction h generalizing i with
  | nil => rfl
  | cons hnode _ ih => rw [decodeEach, decodeEach, hnode, ih]

theorem decodeMembers_congr {read read' : Value → Value → Except Refusal (Property Validator)}
    (hread : ∀ k v v', ReadAlike decode decode' v v' → read k v = read' k v')
    {entries entries' : Members} (hkeys : entries.map Prod.fst = entries'.map Prod.fst)
    (hnodes : List.Forall₂ (ReadAlike decode decode') (entries.map Prod.snd)
      (entries'.map Prod.snd)) : decodeMembers read entries = decodeMembers read' entries' := by
  induction entries generalizing entries' with
  | nil =>
    cases entries' with
    | nil => rfl
    | cons => cases hkeys
  | cons e entries ih =>
    cases entries' with
    | nil => cases hkeys
    | cons e' entries' =>
      obtain ⟨k, v⟩ := e
      obtain ⟨k', v'⟩ := e'
      simp only [List.map_cons, List.cons.injEq] at hkeys
      obtain ⟨rfl, hkeys⟩ := hkeys
      obtain ⟨hnode, hnodes⟩ := List.forall₂_cons.mp hnodes
      rw [decodeMembers, decodeMembers, hread k v v' hnode, ih hkeys hnodes]

theorem decodeProperty_congr (required : List Value) (name : Value) {v v' : Value}
    (h : ReadAlike decode decode' v v') :
    decodeProperty decode pointer required name v = decodeProperty decode' pointer required name v' := by
  rw [decodeProperty, decodeProperty, h]

theorem decodePatternProperty_congr (quantifiers : Members) (source : Value) {v v' : Value}
    (h : ReadAlike decode decode' v v') :
    decodePatternProperty decode pointer quantifiers source v =
      decodePatternProperty decode' pointer quantifiers source v' := by
  rw [decodePatternProperty, decodePatternProperty, h]

/-- Which names are required depends on the names of the properties alone. -/
theorem requiredNames_congr {ms ms' properties properties' : Members}
    (hmember : member? "required" ms = member? "required" ms')
    (hkeys : properties.map Prod.fst = properties'.map Prod.fst) :
    requiredNames pointer ms properties = requiredNames pointer ms' properties' := by
  have hany : ∀ v, properties.any (fun p => Value.keyEq v p.1) =
      properties'.any fun p => Value.keyEq v p.1 := by
    intro v
    have hmap : ∀ ps : Members, ps.any (fun p => Value.keyEq v p.1) =
        (ps.map Prod.fst).any (Value.keyEq v) := fun ps => by rw [List.any_map]; rfl
    rw [hmap, hmap, hkeys]
  simp only [requiredNames, hmember, hany]

/-- Related members are related as members of their lists. -/
theorem forall₂_imp_mem {α β : Type} {S : α → β → Prop} {T : α → β → Prop} {as : List α} {bs : List β}
    (h : List.Forall₂ S as bs) (himp : ∀ a ∈ as, ∀ b ∈ bs, S a b → T a b) : List.Forall₂ T as bs := by
  rw [List.forall₂_iff_zip] at h ⊢
  exact ⟨h.1, fun hab => himp _ (List.of_mem_zip hab).1 _ (List.of_mem_zip hab).2 (h.2 hab)⟩

/-- What is found in both is related as what is found. -/
theorem rel_imp_eq_some {α β : Type} {S T : α → β → Prop} {o : Option α} {o' : Option β}
    (h : Option.Rel S o o') (himp : ∀ a b, o = some a → o' = some b → S a b → T a b) :
    Option.Rel T o o' := by
  cases h with
  | none => exact .none
  | some hab => exact .some (himp _ _ rfl rfl hab)

namespace MembersAlike

variable {R : Value → Value → Prop} {ms ms' : Members} {decode decode' : NodeReader}
  {pointer : String}

/-- The members of a node are alike to themselves. -/
theorem refl (ms : Members) : MembersAlike R ms ms := by
  induction ms with
  | nil => exact .nil
  | cons e ms ih => exact .member .same ih

/-! ## Members -/

theorem keywords_eq (h : MembersAlike R ms ms') : keywords ms = keywords ms' := by
  induction h with
  | nil => rfl
  | @member k _ _ ms ms' _ _ ih =>
    simp only [keywords, List.map_cons, List.filter_cons] at ih ⊢
    rw [ih]
  | left hk _ ih => simpa [keywords, hk] using ih
  | right hk _ ih => simpa [keywords, hk] using ih

theorem only_eq (h : MembersAlike R ms ms') (pointer : String) (allowed : List String) :
    only pointer allowed ms = only pointer allowed ms' := by
  simp only [only, h.keywords_eq]

/-- An annotation is not found under a name that is none. -/
theorem member?_annotated {name : String} {k v : Value} (hname : name ∉ annotations)
    (hk : isOneOf annotations k = true) : member? name ((k, v) :: ms) = member? name ms := by
  have hdiffer : Value.keyEq k (.text name) ≠ true := by
    intro heq
    obtain rfl := Entries.eq_text_of_keyEq heq
    exact hname (by simpa [isOneOf] using hk)
  rw [member?, member?, Entries.find?, if_neg hdiffer]

/-- **What is found under a name** that is no annotation is alike. -/
theorem member?_rel (h : MembersAlike R ms ms') {name : String} (hname : name ∉ annotations) :
    Option.Rel (UnderAlike R (.text name)) (member? name ms) (member? name ms') := by
  induction h with
  | nil => exact .none
  | @member k v v' ms ms' hunder _ ih =>
    rw [member?, member?, Entries.find?, Entries.find?]
    split
    · next heq =>
      obtain rfl := Entries.eq_text_of_keyEq heq
      exact .some hunder
    · exact ih
  | left hk _ ih => rwa [member?_annotated hname hk]
  | right hk _ ih => rwa [member?_annotated hname hk]

/-- What is found under a name that holds no nodes either is the same. -/
theorem member?_eq (h : MembersAlike R ms ms') {name : String} (hname : name ∉ annotations)
    (hplain : name ∉ holders) : member? name ms = member? name ms' := by
  have hrel := h.member?_rel hname
  generalize member? name ms = o at hrel
  generalize member? name ms' = o' at hrel
  cases hrel with
  | none => rfl
  | some hunder =>
    cases hunder with
    | same => rfl
    | choice hkeyword => exact absurd (by subst hkeyword; decide) hplain
    | node hkeyword => exact absurd (by rcases hkeyword with rfl | rfl <;> decide) hplain
    | part hkeyword => exact absurd (by rcases hkeyword with rfl | rfl <;> decide) hplain

/-! ## Leaves -/

theorem decodeSimple_eq (h : MembersAlike R ms ms') (rule : Leaf) :
    decodeSimple pointer ms rule = decodeSimple pointer ms' rule := by
  simp only [decodeSimple, h.only_eq]

theorem decodeEnum_eq (h : MembersAlike R ms ms') (values : Value) :
    decodeEnum pointer ms values = decodeEnum pointer ms' values := by
  simp (disch := decide) only [decodeEnum, h.only_eq, h.member?_eq]

theorem decodeString_eq (h : MembersAlike R ms ms') :
    decodeString pointer ms = decodeString pointer ms' := by
  simp (disch := decide) only [decodeString, h.only_eq, h.member?_eq]

theorem decodeNumber_eq (h : MembersAlike R ms ms') :
    decodeNumber pointer ms = decodeNumber pointer ms' := by
  simp (disch := decide) only [decodeNumber, numberMember, stepList, h.only_eq, h.member?_eq]

/-! ## Nodes with nodes inside -/

section Inside

variable (h : MembersAlike R ms ms') (hrefl : ∀ v, R v v)
  (hinside : ∀ v v', Subnode ms v → Subnode ms' v' → R v v' → ReadAlike decode decode' v v')
include h hrefl hinside

theorem decodeArray_eq : decodeArray decode pointer ms = decodeArray decode' pointer ms' := by
  have hitems : Option.Rel (ReadAlike decode decode') (member? "items" ms) (member? "items" ms') := by
    refine rel_imp_eq_some (h.member?_rel (by decide)) fun v v' hv hv' hunder => ?_
    refine hinside v v' (.items hv) (.items hv') ?_
    cases hunder with
    | same => exact hrefl v
    | choice hkeyword => exact absurd hkeyword (by decide)
    | node _ hR => exact hR
    | part hkeyword => exact absurd hkeyword (by decide)
  simp (disch := decide) only [decodeArray, h.only_eq, h.member?_eq]
  generalize member? "items" ms = o at hitems ⊢
  generalize member? "items" ms' = o' at hitems ⊢
  cases hitems with
  | none => rfl
  | some hread => simp only [hread _]

/-- The members of a part are under the same names, and their nodes are read alike. -/
theorem part?_rel {part : String} (hpart : part = "properties" ∨ part = "patternProperties") :
    Option.Rel (fun entries entries' : Members => entries.map Prod.fst = entries'.map Prod.fst ∧
      List.Forall₂ (ReadAlike decode decode') (entries.map Prod.snd) (entries'.map Prod.snd))
      (part? part ms) (part? part ms') := by
  have hname : part ∉ annotations := by rcases hpart with rfl | rfl <;> decide
  refine rel_imp_eq_some (S := fun entries entries' : Members =>
    entries.map Prod.fst = entries'.map Prod.fst ∧
      List.Forall₂ R (entries.map Prod.snd) (entries'.map Prod.snd)) ?_
    fun entries entries' hentries hentries' hR => ⟨hR.1, ?_⟩
  · have hrel := h.member?_rel hname
    unfold part?
    generalize member? part ms = o at hrel
    generalize member? part ms' = o' at hrel
    cases hrel with
    | none => exact .some ⟨rfl, .nil⟩
    | some hunder =>
      cases hunder with
      | same =>
        split
        · exact .some ⟨rfl, .nil⟩
        · exact .some ⟨rfl, List.forall₂_same.mpr fun v _ => hrefl v⟩
        · exact .none
      | choice hkeyword => rcases hpart with rfl | rfl <;> exact absurd hkeyword (by decide)
      | node hkeyword =>
        rcases hpart with rfl | rfl <;> exact absurd hkeyword (by decide)
      | part _ hkeys hnodes => exact .some ⟨hkeys, hnodes⟩
  · refine forall₂_imp_mem hR.2 fun v hv v' hv' => ?_
    obtain ⟨e, he, rfl⟩ := List.mem_map.mp hv
    obtain ⟨e', he', rfl⟩ := List.mem_map.mp hv'
    exact hinside _ _ (.member hpart hentries he) (.member hpart hentries' he')

theorem decodeAdditional_eq :
    decodeAdditional decode pointer ms = decodeAdditional decode' pointer ms' := by
  have hrel : Option.Rel (UnderAlike R (.text "additionalProperties"))
      (member? "additionalProperties" ms) (member? "additionalProperties" ms') :=
    h.member?_rel (by decide)
  have hread : ∀ v v', member? "additionalProperties" ms = some v →
      member? "additionalProperties" ms' = some v' → R v v' → ReadAlike decode decode' v v' :=
    fun v v' hv hv' => hinside v v' (.additional hv) (.additional hv')
  unfold decodeAdditional
  generalize member? "additionalProperties" ms = o at hrel hread ⊢
  generalize member? "additionalProperties" ms' = o' at hrel hread ⊢
  cases hrel with
  | none => rfl
  | some hunder =>
    simp only [Option.getD_some]
    cases hunder with
    | same =>
      have hsame := hread _ _ rfl rfl (hrefl _)
      split
      · rw [hsame]
      · rfl
      · rfl
    | choice hkeyword => exact absurd hkeyword (by decide)
    | node _ hR =>
      dsimp only
      rw [hread _ _ rfl rfl hR]
    | part hkeyword => exact absurd hkeyword (by decide)

theorem decodeObject_eq : decodeObject decode pointer ms = decodeObject decode' pointer ms' := by
  have hproperties := part?_rel h hrefl hinside (.inl (.refl "properties"))
  have hpatterns := part?_rel h hrefl hinside (.inr (.refl "patternProperties"))
  have hquantifiers : part? "x-quantifiers" ms = part? "x-quantifiers" ms' := by
    rw [part?, part?, h.member?_eq (by decide) (by decide)]
  have hrequired : member? "required" ms = member? "required" ms' :=
    h.member?_eq (by decide) (by decide)
  simp only [decodeObject, h.only_eq, hquantifiers, decodeAdditional_eq h hrefl hinside]
  generalize part? "properties" ms = ps at hproperties ⊢
  generalize part? "properties" ms' = ps' at hproperties ⊢
  generalize part? "patternProperties" ms = qs at hpatterns ⊢
  generalize part? "patternProperties" ms' = qs' at hpatterns ⊢
  generalize part? "x-quantifiers" ms' = signs
  cases hproperties with
  | none => rfl
  | some hproperties =>
    cases hpatterns with
    | none => rfl
    | some hpatterns =>
      have hnamed : ∀ required, decodeMembers (decodeProperty decode pointer required) _ =
          decodeMembers (decodeProperty decode' pointer required) _ := fun required =>
        decodeMembers_congr (fun name _ _ => decodeProperty_congr required name) hproperties.1 hproperties.2
      have hmatched : ∀ quantifiers,
          decodeMembers (decodePatternProperty decode pointer quantifiers) _ =
            decodeMembers (decodePatternProperty decode' pointer quantifiers) _ := fun quantifiers =>
        decodeMembers_congr (fun source _ _ => decodePatternProperty_congr quantifiers source)
          hpatterns.1 hpatterns.2
      cases signs with
      | none => rfl
      | some quantifiers => simp only [requiredNames_congr hrequired hproperties.1, hnamed, hmatched]

theorem decodeTyped_eq (type : String) :
    decodeTyped decode pointer ms type = decodeTyped decode' pointer ms' type := by
  simp only [decodeTyped, h.decodeSimple_eq, h.decodeString_eq, h.decodeNumber_eq,
    decodeArray_eq h hrefl hinside, decodeObject_eq h hrefl hinside]

/-- **Two nodes that differ in annotations** are read alike, if those inside are, and those of their
types. -/
theorem decodeMembersOf_eq (n : Nat)
    (htypes : ∀ tag types, member? "type" ms = some (.seq .list tag types) →
      ∀ t ∈ types, ReadAlike decode decode' (.record [("type", t)]) (.record [("type", t)])) :
    decodeMembersOf n decode pointer ms = decodeMembersOf n decode' pointer ms' := by
  have hidentity : (identityKeywords.find? fun k => (member? k ms).isSome) =
      identityKeywords.find? fun k => (member? k ms').isSome := by
    simp (disch := decide) only [identityKeywords, List.find?, h.member?_eq]
  have hchoice : Option.Rel (UnderAlike R (.text "anyOf")) (member? "anyOf" ms) (member? "anyOf" ms') :=
    h.member?_rel (by decide)
  have halternatives : ∀ tag tag' nodes nodes', member? "anyOf" ms = some (.seq .list tag nodes) →
      member? "anyOf" ms' = some (.seq .list tag' nodes') → List.Forall₂ R nodes nodes' →
      decodeEach decode s!"{pointer}/anyOf" 0 nodes = decodeEach decode' s!"{pointer}/anyOf" 0 nodes' :=
    fun _ _ _ _ hnodes hnodes' hR => decodeEach_congr (forall₂_imp_mem hR fun v hv v' hv' =>
      hinside v v' (.alternative hnodes hv) (.alternative hnodes' hv')) _ _
  have htypes' : ∀ tag types, member? "type" ms = some (.seq .list tag types) →
      decodeEach decode s!"{pointer}/type" 0 (types.map fun t => Value.record [("type", t)]) =
        decodeEach decode' s!"{pointer}/type" 0 (types.map fun t => Value.record [("type", t)]) :=
    fun tag types hfound => decodeEach_congr
      (List.forall₂_same.mpr (List.forall_mem_map.mpr (htypes tag types hfound))) _ _
  unfold decodeMembersOf
  simp (disch := decide) only [h.keywords_eq, hidentity, h.only_eq, h.member?_eq, h.decodeEnum_eq,
    decodeTyped_eq h hrefl hinside] at htypes' ⊢
  split
  · rfl
  split
  · rfl
  split
  · rfl
  generalize member? "anyOf" ms = o at hchoice halternatives ⊢
  generalize member? "anyOf" ms' = o' at hchoice halternatives ⊢
  cases hchoice with
  | some hunder =>
    cases hunder with
    | same =>
      dsimp only
      split
      · rw [halternatives _ _ _ _ rfl rfl (List.forall₂_same.mpr fun v _ => hrefl v)]
      · rfl
    | @choice _ _ _ nodes nodes' _ hnodes =>
      have heach := halternatives _ _ _ _ rfl rfl hnodes
      cases hnodes with
      | nil => rfl
      | cons => simp only [heach]
    | node hkeyword => exact absurd hkeyword (by decide)
    | part hkeyword => exact absurd hkeyword (by decide)
  | none =>
    dsimp only
    split
    · rfl
    split
    · rfl
    split
    · rfl
    · next hlist => rw [htypes' _ _ hlist]
    · rfl
    · rfl

end Inside

end MembersAlike

/-! ## Whole descriptors -/

namespace Reannotated

variable {session n m : Nat} {v v' : Value}

/-- Two dictionaries that differ in annotations have members that do. -/
theorem members {tag tag' : Nat} {ms ms' : Members}
    (h : Reannotated (.mapping .dict tag ms) (.mapping .dict tag' ms')) :
    MembersAlike Reannotated ms ms' := by
  cases h with
  | same => exact .refl ms
  | node hmembers => exact hmembers

/-- **Descriptors that differ in annotations** are read alike at every place, by readers that go deep
enough for each. -/
theorem decodeTo_eq (h : Reannotated v v') (hn : v.depth < n) (hm : v'.depth < m) :
    ReadAlike (decodeTo session n) (decodeTo session m) v v' := by
  -- the readers go one node deeper together, and the nodes inside are less deep than the whole
  induction n generalizing m v v' with
  | zero => exact absurd hn (Nat.not_lt_zero _)
  | succ n ih =>
    obtain ⟨m, rfl⟩ := Nat.exists_eq_succ_of_ne_zero (Nat.ne_of_gt (Nat.zero_lt_of_lt hm))
    intro pointer
    have hnode : ∀ {tag tag' : Nat} {ms ms' : Members}, v = .mapping .dict tag ms →
        v' = .mapping .dict tag' ms' → MembersAlike Reannotated ms ms' →
        decodeTo session (n + 1) v pointer = decodeTo session (m + 1) v' pointer := by
      rintro tag tag' ms ms' rfl rfl hmembers
      rw [Value.depth, Nat.succ_lt_succ_iff] at hn hm
      refine hmembers.decodeMembersOf_eq (fun _ => .same) (fun w w' hw hw' hR => ?_) session
        fun _ _ htypes t ht => ?_
      · exact ih hR (Nat.lt_of_le_of_lt hw.depth_le hn) (Nat.lt_of_le_of_lt hw'.depth_le hm)
      · have htypes' := htypes
        rw [hmembers.member?_eq (by decide) (by decide)] at htypes'
        exact ih .same (Nat.lt_of_le_of_lt (depth_type_le htypes ht) hn)
          (Nat.lt_of_le_of_lt (depth_type_le htypes' ht) hm)
    cases h with
    | node hmembers => exact hnode rfl rfl hmembers
    | same =>
      unfold decodeTo decodeNode
      split
      · next ms => exact hnode rfl rfl (.refl ms)
      · rfl

/-- **Descriptors that differ in annotations are read alike.** -/
theorem decode_eq (h : Reannotated v v') (session : Nat) :
    Descriptor.decode session v = Descriptor.decode session v' :=
  h.decodeTo_eq (Nat.lt_succ_of_lt (Nat.lt_succ_self _)) (Nat.lt_succ_of_lt (Nat.lt_succ_self _)) "#"

end Reannotated

end Conformance.Descriptor
