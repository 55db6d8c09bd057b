import Conformance.Proofs.Descriptor.Documents
import Conformance.Proofs.Descriptor.Recovering
import Conformance.Proofs.Descriptor.Decoded
import Conformance.Proofs.Validator.Conforming

/-!
# What a decoded object asks of a mapping

The descriptor of an object is read as an object pattern whose keys stand for its members, and so it
is told by the descriptor alone which mappings the pattern accepts.

## Main Definitions

* `Descriptor.nameRegex?` — the regex of a name of `patternProperties`
* `Descriptor.remainder?` — the member for the properties that no other one is about
* `Descriptor.Fits` — what a decoded object asks of a mapping

## Main statements

* `Descriptor.isNamed_of_decodeProperty`, `Descriptor.isMatched_of_decodePatternProperty` — the keys
  that stand for members
* `Descriptor.StandsFor.fits`, `Descriptor.StandsFor.conforms` — what conforms to the keys of a decoded
  object is what fits its descriptor
* `Descriptor.exists_standsFor_of_decodeObject` — an object is decoded to keys that stand for its members
-/

namespace Conformance.Descriptor

variable {decode : NodeReader} {pointer : String} {q : Property Validator}

/-! ## Names -/

/-- The regex of a name of `patternProperties`, its anchors undone.  A name of which nothing is left has
none. -/
def nameRegex? (source : String) : Option Regex :=
  match unanchor source with
  | .ok name => if name = "" then none else (Regex.ofSource name .none).toOption
  | .error _ => none

/-- **The key of a member of `properties`**: it is about the property of that name only.  A required
name admits absence if what stands under it does; any other name is optional. -/
structure IsNamed (isRequired : Bool) (name : String) (k : Key) : Prop where
  specific : k.isCatchAll = false
  matchesName? : ∀ text, k.matchesName? text = .ok (decide (text = name))
  required : isRequired = true → k.quantifier = .exact ∧ k.isLiteral = true
  optional : isRequired = false → k.quantifier = .optional

theorem IsNamed.claims {isRequired : Bool} {name : String} {k : Key} (h : IsNamed isRequired name k)
    (text : String) : k.claims text = true ↔ text = name := by
  rw [Key.claims_of_matchesName? (h.matchesName? text), decide_eq_true_eq]

/-- Among the keys of an object pattern, it is one of those for a property exactly if the property has
that name. -/
theorem IsNamed.mem_claimants_iff {isRequired : Bool} {name : String} (h : IsNamed isRequired name q.key)
    {qs : List (Property Validator)} (hq : q ∈ qs) (text : String) :
    q ∈ claimants qs text ↔ text = name := by
  rw [Check.mem_claimants_iff, h.claims]
  constructor
  · rintro (⟨-, heq⟩ | ⟨-, hfind⟩)
    · exact heq
    · have hcatch := List.find?_some hfind
      cases h.specific.symm.trans hcatch
  · exact fun heq => .inl ⟨List.mem_filter.mpr ⟨hq, by rw [h.specific]; rfl⟩, heq⟩

/-- A property of that name is absent exactly if the name is not among the names. -/
theorem IsNamed.count_eq_zero_iff {isRequired : Bool} {name : String} {k : Key}
    (h : IsNamed isRequired name k) {names : List String} : k.count names = 0 ↔ name ∉ names := by
  rw [Key.count, List.countP_eq_zero]
  constructor
  · exact fun hzero hmem => hzero name hmem ((h.claims name).mpr rfl)
  · intro hnone text htext hclaims
    rw [(h.claims text).mp hclaims] at htext
    exact hnone htext

/-- Among names without repetition there is at most one for the key. -/
theorem IsNamed.count_le_one {isRequired : Bool} {name : String} {k : Key}
    (h : IsNamed isRequired name k) {names : List String} (hnodup : names.Nodup) :
    k.count names ≤ 1 :=
  calc names.countP k.claims
      ≤ names.countP (· == name) := List.countP_mono_left fun text _ hclaims => by
        rw [(h.claims text).mp hclaims, beq_self_eq_true]
    _ ≤ 1 := List.nodup_iff_count_le_one.mp hnodup name

/-- **The key of a member of `patternProperties`**: it is about the properties whose whole name the
regex matches, or about those that no other key is about if there is no regex. -/
inductive IsMatched (quantifier : Quantifier) (source : String) (k : Key) : Prop where
  | remainder : nameRegex? source = none → k.isCatchAll = true → IsMatched quantifier source k
  | regex {r : Regex} : nameRegex? source = some r → k.name = some r → k.isCatchAll = false →
    k.quantifier = quantifier → IsMatched quantifier source k

/-! ## Keys -/

/-- **A name behind a sign** is a key with the quantifier of the sign, or the catch-all key if nothing
stands behind the sign for any number. -/
theorem key_of_property_sign {c : Char} {quantifier : Quantifier} {name : String} {rule : Validator}
    (hsign : Quantifier.ofSign? c = some quantifier)
    (h : property pointer (String.singleton c ++ name) rule = .ok q) :
    q.rule = rule ∧ ((name = "" ∧ q.key = ⟨"*", .catchAll, none⟩) ∨
      ∃ r, name ≠ "" ∧ Regex.ofSource name .none = .ok r ∧
        q.key = ⟨String.singleton c ++ name, quantifier, some r⟩) := by
  refine ⟨rule_of_property h, ?_⟩
  by_cases hne : name = ""
  · -- only the sign for any number stands by itself
    refine .inl ⟨hne, ?_⟩
    subst hne
    unfold Quantifier.ofSign? at hsign
    split at hsign
    · cases h
    · cases h
    · cases h
      rfl
    · cases hsign
  · refine .inr ?_
    cases hr : Regex.ofSource name .none with
    | ok r =>
      rw [property_of_ofWritten (Key.ofWritten_sign hsign hne hr)] at h
      cases h
      exact ⟨r, hne, rfl, rfl⟩
    | error e =>
      rw [property, Key.ofWritten, Key.split_sign hsign hne] at h
      simp only [Key.ofParts, hr] at h
      cases e <;> cases h

/-- The quantifier of a sign is none of those that are not written with one. -/
theorem ne_of_ofSign? {c : Char} {quantifier : Quantifier}
    (h : Quantifier.ofSign? c = some quantifier) : quantifier ≠ .catchAll ∧ quantifier ≠ .exact := by
  unfold Quantifier.ofSign? at h
  split at h <;> cases h <;> decide

/-- Only a text is read as the name of a property. -/
theorem exists_text_of_decodeProperty {required : List Value} {name node : Value}
    (h : decodeProperty decode pointer required name node = .ok q) : ∃ text, name = .text text := by
  rw [decodeProperty, Except.bind_eq_ok_iff] at h
  obtain ⟨_, -, h⟩ := h
  dsimp only at h
  split at h
  · exact ⟨_, rfl⟩
  · cases h

/-- The node of a member was read. -/
theorem exists_of_decodeProperty {required : List Value} {name : String} {node : Value}
    (h : decodeProperty decode pointer required (.text name) node = .ok q) :
    ∃ pointer, decode node pointer = .ok q.rule := by
  rw [decodeProperty_text, Except.bind_eq_ok_iff] at h
  obtain ⟨rule, hrule, h⟩ := h
  dsimp only at h
  have hq : q.rule = rule := by
    split at h
    · split at h
      · cases h
      · exact rule_of_property h
    · split at h <;> exact rule_of_property h
  exact ⟨_, hq ▸ hrule⟩

/-- An optional name, as it is or escaped, whose regex matches the name only. -/
theorem isNamed_of_property {source name : String} {r : Regex} {rule : Validator}
    (hr : Regex.ofSource source .none = .ok r)
    (hmatches : ∀ text, r.matchesAll? text = .ok (decide (text = name)))
    (h : property pointer ("?" ++ source) rule = .ok q) : IsNamed false name q.key := by
  have hsign : Quantifier.ofSign? '?' = some .optional := rfl
  obtain ⟨-, ⟨rfl, hkey⟩ | ⟨r', -, hr', hkey⟩⟩ := key_of_property_sign hsign h
  · -- there is no name behind the sign
    cases h
  · rw [hr] at hr'
    cases hr'
    rw [hkey]
    exact ⟨rfl, hmatches, nofun, fun _ => rfl⟩

/-- **A member of `properties`** is read as a key for the property of its name. -/
theorem isNamed_of_decodeProperty {required : List Value} {name : String} {node : Value}
    (h : decodeProperty decode pointer required (.text name) node = .ok q) :
    IsNamed (required.any (Value.keyEq (.text name))) name q.key := by
  rw [decodeProperty_text, Except.bind_eq_ok_iff] at h
  obtain ⟨rule, -, h⟩ := h
  dsimp only at h
  by_cases hliteral : isLiteralName name = true
  · have hr := Regex.ofSource_literal hliteral
    have hmatches := Regex.matchesAll?_literal hliteral hr
    simp only [hliteral, Bool.not_true, Bool.false_eq_true, if_false] at h
    cases hrequired : required.any (Value.keyEq (.text name)) with
    | true =>
      rw [hrequired, if_pos rfl, property_of_ofWritten (Key.ofWritten_literal hliteral hr)] at h
      cases h
      exact ⟨rfl, hmatches, fun _ => ⟨rfl, hliteral⟩, fun hfalse => Bool.noConfusion hfalse⟩
    | false =>
      rw [hrequired, if_neg Bool.false_ne_true] at h
      exact isNamed_of_property hr hmatches h
  · simp only [hliteral, Bool.not_false, if_true] at h
    cases hrequired : required.any (Value.keyEq (.text name)) with
    | true =>
      rw [hrequired, if_pos rfl] at h
      cases h
    | false =>
      rw [hrequired, if_neg Bool.false_ne_true] at h
      have hr := Regex.ofSource_escapeName name
      exact isNamed_of_property hr (Regex.matchesAll?_escaped hr) h

/-- **A member of `patternProperties`** is read as a key for its regex. -/
theorem isMatched_of_decodePatternProperty {quantifiers : Members} {source : String} {node : Value}
    (h : decodePatternProperty decode pointer quantifiers (.text source) node = .ok q) :
    (∃ pointer, decode node pointer = .ok q.rule) ∧
      IsMatched (quantifierIn quantifiers source) source q.key := by
  simp only [decodePatternProperty, Except.bind_eq_ok_iff] at h
  obtain ⟨rule, hrule, sign, hsign, name, hname, h⟩ := h
  obtain ⟨c, rfl, hofSign⟩ := exists_sign_of_patternSign hsign
  obtain ⟨hq, hkey⟩ := key_of_property_sign hofSign h
  refine ⟨⟨_, hq ▸ hrule⟩, ?_⟩
  rcases hkey with ⟨rfl, hkey⟩ | ⟨r, hne, hr, hkey⟩
  · refine .remainder ?_ ?_
    · simp [nameRegex?, hname]
    · rw [hkey]
      rfl
  · refine .regex (r := r) ?_ ?_ ?_ ?_
    · simp [nameRegex?, hname, hne, hr, Except.toOption]
    · rw [hkey]
    · rw [hkey]
      simpa [Key.isCatchAll] using (ne_of_ofSign? hofSign).1
    · rw [hkey]

/-! ## What fits -/

/-- The names of a part of a descriptor. -/
def namesIn (part : String) (descriptor : Value) : List String :=
  ((part? part (membersOf descriptor)).getD []).map fun e => e.1.nameText

/-- The member for additional properties, if there is a node for them. -/
def additional? (descriptor : Value) : Option (String × String) :=
  match member? "additionalProperties" (membersOf descriptor) with
  | some (.mapping .dict _ _) => some ("additionalProperties", "")
  | _ => none

/-- **The member for the properties that no other one is about**: the first name of `patternProperties`
of which nothing is left without its anchors, and the additional properties if there is none. -/
def remainder? (descriptor : Value) : Option (String × String) :=
  (((namesIn "patternProperties" descriptor).find? fun source => (nameRegex? source).isNone).map
    fun source => ("patternProperties", source)).or (additional? descriptor)

/-- **What a decoded object asks of a mapping**, `accepts` telling which values the nodes under the
members of the descriptor accept.  A required property may be absent if its node accepts absence, and
a name of `patternProperties` is matched against whole names. -/
structure Fits (descriptor : Value) (accepts : String × String → Value → Prop)
    (xs : List (String × Value)) : Prop where
  required : ∀ name, .text name ∈ required descriptor →
    name ∈ xs.map Prod.fst ∨ accepts ("properties", name) .missing
  named : ∀ name ∈ namesIn "properties" descriptor, ∀ x, (name, x) ∈ xs →
    accepts ("properties", name) x
  matched : ∀ source ∈ namesIn "patternProperties" descriptor, ∀ r, nameRegex? source = some r →
    ∀ f ∈ xs, r.matchesAll f.1 = true → accepts ("patternProperties", source) f.2
  atMostOne : ∀ source ∈ namesIn "patternProperties" descriptor, ∀ r, nameRegex? source = some r →
    quantifierIn (signs descriptor) source = .optional → (xs.map Prod.fst).countP r.matchesAll ≤ 1
  atLeastOne : ∀ source ∈ namesIn "patternProperties" descriptor, ∀ r, nameRegex? source = some r →
    quantifierIn (signs descriptor) source = .atLeastOne → 1 ≤ (xs.map Prod.fst).countP r.matchesAll
  rest : ∀ m, remainder? descriptor = some m → ∀ f ∈ xs, f.1 ∉ namesIn "properties" descriptor →
    (∀ source ∈ namesIn "patternProperties" descriptor, ∀ r, nameRegex? source = some r →
      r.matchesAll f.1 = false) → accepts m f.2

/-- **The keys of a decoded object** stand for the members of its descriptor, and what stands under a
key is the rule of the member. -/
structure StandsFor (descriptor : Value) (rule : String × String → Validator)
    (named matched additional : List (Property Validator)) : Prop where
  named : List.Forall₂ (fun name q =>
    IsNamed ((required descriptor).any (Value.keyEq (.text name))) name q.key ∧
      q.rule = rule ("properties", name)) (namesIn "properties" descriptor) named
  matched : List.Forall₂ (fun source q =>
    IsMatched (quantifierIn (signs descriptor) source) source q.key ∧
      q.rule = rule ("patternProperties", source)) (namesIn "patternProperties" descriptor) matched
  additional : List.Forall₂ (fun m q => q.key.isCatchAll = true ∧ q.rule = rule m)
    (additional? descriptor).toList additional
  required : ∀ v ∈ required descriptor, ∃ name ∈ namesIn "properties" descriptor, v = .text name

/-- **What a key of a decoded object is**: that of a name, that of a regex, or the catch-all key. -/
inductive KeyOf (descriptor : Value) (rule : String × String → Validator) (q : Property Validator) :
    Prop where
  | named {name : String} : name ∈ namesIn "properties" descriptor →
    IsNamed ((required descriptor).any (Value.keyEq (.text name))) name q.key →
    q.rule = rule ("properties", name) → KeyOf descriptor rule q
  | matched {source : String} {r : Regex} : source ∈ namesIn "patternProperties" descriptor →
    nameRegex? source = some r → q.key.isCatchAll = false → q.key.claims = r.matchesAll →
    q.key.quantifier = quantifierIn (signs descriptor) source →
    q.rule = rule ("patternProperties", source) → KeyOf descriptor rule q
  | catchAll : q.key.isCatchAll = true → KeyOf descriptor rule q

namespace StandsFor

variable {descriptor : Value} {rule : String × String → Validator}
  {named matched additional : List (Property Validator)}

/-- **The catch-all key** stands for the member for the remaining properties. -/
theorem remainder (h : StandsFor descriptor rule named matched additional) :
    Option.Rel (fun m q => q.rule = rule m) (remainder? descriptor)
      ((named ++ matched ++ additional).find? fun q => q.key.isCatchAll) := by
  have hnone : named.find? (fun q => q.key.isCatchAll) = none := by
    refine List.find?_eq_none.mpr fun q hq => ?_
    obtain ⟨name, -, hname, -⟩ := h.named.exists_left hq
    rw [hname.specific]
    exact Bool.false_ne_true
  have hmatched := h.matched.find?_rel (p := fun source => (nameRegex? source).isNone)
    (q := fun q => q.key.isCatchAll) fun source q hq => by
      cases hq.1 with
      | remainder hregex hcatch => rw [hregex, hcatch]; rfl
      | regex hregex _ hcatch _ => rw [hregex, hcatch]; rfl
  rw [List.find?_append, List.find?_append, hnone, Option.none_or, remainder?]
  generalize (namesIn "patternProperties" descriptor).find? _ = o at hmatched
  generalize matched.find? _ = o' at hmatched
  cases hmatched with
  | some hq => exact .some hq.2
  | none =>
    have hadditional := h.additional
    cases hmember : additional? descriptor with
    | none =>
      rw [hmember] at hadditional
      cases hadditional
      exact .none
    | some m =>
      rw [hmember] at hadditional
      obtain ⟨q, hq, rfl⟩ : ∃ q, (q.key.isCatchAll = true ∧ q.rule = rule m) ∧ additional = [q] := by
        cases hadditional with
        | cons hq hrest =>
          cases hrest
          exact ⟨_, hq, rfl⟩
      simp only [Option.map_none, Option.none_or, List.find?_cons, hq.1]
      exact .some hq.2

/-! ### The keys -/

/-- A key without a regex is the catch-all key, and any other one is about what its regex matches. -/
theorem claims_of_regex {k : Key} {r : Regex} (hname : k.name = some r) : k.claims = r.matchesAll := by
  funext text
  rw [Key.claims, hname]

/-- **A key of a decoded object** is that of a name, that of a regex, or the catch-all key. -/
theorem keyOf_of_mem (h : StandsFor descriptor rule named matched additional)
    (hq : q ∈ named ++ matched ++ additional) : KeyOf descriptor rule q := by
  rcases List.mem_append.mp hq with hq | hq
  · rcases List.mem_append.mp hq with hq | hq
    · obtain ⟨name, hname, hkey, hrule⟩ := h.named.exists_left hq
      exact .named hname hkey hrule
    · obtain ⟨source, hsource, hkey, hrule⟩ := h.matched.exists_left hq
      cases hkey with
      | remainder _ hcatch => exact .catchAll hcatch
      | regex hregex hname hspecific hquantifier =>
        exact .matched hsource hregex hspecific (claims_of_regex hname) hquantifier hrule
  · obtain ⟨m, -, hcatch, -⟩ := h.additional.exists_left hq
    exact .catchAll hcatch

/-- There is a key for each name of `properties`. -/
theorem exists_named (h : StandsFor descriptor rule named matched additional) {name : String}
    (hname : name ∈ namesIn "properties" descriptor) : ∃ q ∈ named ++ matched ++ additional,
      IsNamed ((Descriptor.required descriptor).any (Value.keyEq (.text name))) name q.key ∧
        q.rule = rule ("properties", name) := by
  obtain ⟨q, hq, hkey⟩ := h.named.exists_right hname
  exact ⟨q, List.mem_append_left _ (List.mem_append_left _ hq), hkey⟩

/-- There is a key for each name of `patternProperties` that has a regex. -/
theorem exists_matched (h : StandsFor descriptor rule named matched additional) {source : String}
    (hsource : source ∈ namesIn "patternProperties" descriptor) {r : Regex}
    (hr : nameRegex? source = some r) : ∃ q ∈ named ++ matched ++ additional,
      q.key.isCatchAll = false ∧ q.key.claims = r.matchesAll ∧
        q.key.quantifier = quantifierIn (signs descriptor) source ∧
        q.rule = rule ("patternProperties", source) := by
  obtain ⟨q, hq, hkey, hrule⟩ := h.matched.exists_right hsource
  refine ⟨q, List.mem_append_left _ (List.mem_append_right _ hq), ?_⟩
  cases hkey with
  | remainder hnone => cases hr.symm.trans hnone
  | regex hregex hname hspecific hquantifier =>
    cases hr.symm.trans hregex
    exact ⟨hspecific, claims_of_regex hname, hquantifier, hrule⟩

/-- **No key is about a name** that is none of the names of `properties` and is matched by no regex. -/
theorem forall_not_claims_iff (h : StandsFor descriptor rule named matched additional) {text : String} :
    (∀ q ∈ named ++ matched ++ additional, q.key.isCatchAll = false → q.key.claims text = false) ↔
      text ∉ namesIn "properties" descriptor ∧
        ∀ source ∈ namesIn "patternProperties" descriptor, ∀ r, nameRegex? source = some r →
          r.matchesAll text = false := by
  constructor
  · intro hnone
    refine ⟨fun hname => ?_, fun source hsource r hr => ?_⟩
    · obtain ⟨q, hq, hkey, -⟩ := h.exists_named hname
      have hfalse := hnone q hq hkey.specific
      rw [(hkey.claims text).mpr rfl] at hfalse
      cases hfalse
    · obtain ⟨q, hq, hspecific, hclaims, -⟩ := h.exists_matched hsource hr
      rw [← hclaims]
      exact hnone q hq hspecific
  · rintro ⟨hno, hnomatch⟩ q hq hspecific
    cases h.keyOf_of_mem hq with
    | named hname hkey _ =>
      rw [← Bool.not_eq_true, hkey.claims]
      rintro rfl
      exact hno hname
    | matched hsource hr _ hclaims _ _ =>
      rw [hclaims]
      exact hnomatch _ hsource _ hr
    | catchAll hcatch => cases hcatch.symm.trans hspecific

/-! ### Mappings -/

section Conforms

variable {accepts : Validator → Value → Prop} {xs : List (String × Value)}

theorem propertyNames_ofTexts (xs : List (String × Value)) :
    propertyNames (Entries.ofTexts xs) = xs.map Prod.fst := by
  rw [propertyNames, Entries.ofTexts, List.map_map]
  rfl

/-- A required property is present, or its node accepts absence. -/
theorem required_of_conforms (h : StandsFor descriptor rule named matched additional)
    (hconforms : Conforms accepts (named ++ matched ++ additional) (Entries.ofTexts xs)) {name : String}
    (hrequired : .text name ∈ Descriptor.required descriptor) :
    name ∈ xs.map Prod.fst ∨ accepts (rule ("properties", name)) .missing := by
  obtain ⟨other, hname, heq⟩ := h.required _ hrequired
  cases heq
  obtain ⟨q, hq, hkey, hrule⟩ := h.exists_named hname
  obtain ⟨hexact, hliteral⟩ := hkey.required (Entries.any_keyEq_text_iff.mpr hrequired)
  refine or_iff_not_imp_left.mpr fun hnone => ?_
  rw [← hrule]
  refine hconforms.asked q .missing (.absent hq hexact hliteral ?_)
  rwa [propertyNames_ofTexts, hkey.count_eq_zero_iff]

/-- **What conforms to the keys fits the descriptor.** -/
theorem fits (h : StandsFor descriptor rule named matched additional)
    (hconforms : Conforms accepts (named ++ matched ++ additional) (Entries.ofTexts xs)) :
    Fits descriptor (fun m => accepts (rule m)) xs := by
  have hentry : ∀ f ∈ xs, (Value.text f.1, f.2) ∈ Entries.ofTexts xs :=
    fun f hf => List.mem_map_of_mem hf
  refine ⟨fun name hrequired => h.required_of_conforms hconforms hrequired, fun name hname x hx => ?_,
    fun source hsource r hr f hf hclaims => ?_, fun source hsource r hr hsign => ?_,
    fun source hsource r hr hsign => ?_, fun m hm f hf hno hnomatch => ?_⟩
  · obtain ⟨q, hq, hkey, hrule⟩ := h.exists_named hname
    rw [← hrule]
    exact hconforms.asked q x (.claimed (hentry _ hx) hq hkey.specific ((hkey.claims name).mpr rfl))
  · obtain ⟨q, hq, hspecific, hkey, -, hrule⟩ := h.exists_matched hsource hr
    rw [← hrule]
    exact hconforms.asked q f.2 (.claimed (hentry f hf) hq hspecific (by rw [hkey]; exact hclaims))
  · obtain ⟨q, hq, -, hkey, hquantifier, -⟩ := h.exists_matched hsource hr
    have hcount := hconforms.optional q hq (hquantifier.trans hsign)
    rwa [propertyNames_ofTexts, Key.count, hkey] at hcount
  · obtain ⟨q, hq, -, hkey, hquantifier, -⟩ := h.exists_matched hsource hr
    have hcount := hconforms.atLeastOne q hq (hquantifier.trans hsign)
    rwa [propertyNames_ofTexts, Key.count, hkey] at hcount
  · obtain ⟨q, hfind, hrule⟩ := h.remainder.exists_right hm
    have hunclaimed := h.forall_not_claims_iff.mpr ⟨hno, hnomatch⟩
    rw [← hrule]
    exact hconforms.asked q f.2 (.unclaimed (hentry f hf) hunclaimed hfind)

/-- What a key is asked about is accepted, if the mapping fits. -/
theorem accepts_of_asked (h : StandsFor descriptor rule named matched additional)
    (hfits : Fits descriptor (fun m => accepts (rule m)) xs) {y : Value}
    (hasked : Asked (named ++ matched ++ additional) (Entries.ofTexts xs) q y) : accepts q.rule y := by
  cases hasked with
  | @claimed e _ he hq hspecific hclaims =>
    obtain ⟨f, hf, rfl⟩ := List.mem_map.mp he
    cases h.keyOf_of_mem hq with
    | named hname hkey hrule =>
      rw [hrule]
      have heq := (hkey.claims f.1).mp hclaims
      exact hfits.named _ hname f.2 (heq ▸ hf)
    | matched hsource hr _ hkey _ hrule =>
      rw [hrule]
      rw [hkey] at hclaims
      exact hfits.matched _ hsource _ hr f hf hclaims
    | catchAll hcatch => cases hcatch.symm.trans hspecific
  | @unclaimed e _ he hnone hfind =>
    obtain ⟨f, hf, rfl⟩ := List.mem_map.mp he
    obtain ⟨m, hm, hrule⟩ := h.remainder.exists_left hfind
    obtain ⟨hno, hnomatch⟩ := h.forall_not_claims_iff.mp hnone
    rw [hrule]
    exact hfits.rest m hm f hf hno hnomatch
  | absent hq hexact hliteral hzero =>
    cases h.keyOf_of_mem hq with
    | @named name hname hkey hrule =>
      rw [propertyNames_ofTexts, hkey.count_eq_zero_iff] at hzero
      -- a name that is not required is optional, and absence is not asked about
      cases hrequired : (Descriptor.required descriptor).any (Value.keyEq (.text name)) with
      | false => cases hexact.symm.trans (hkey.optional hrequired)
      | true =>
        rw [hrule]
        exact (hfits.required name (Entries.any_keyEq_text_iff.mp hrequired)).resolve_left hzero
    | @matched source _ _ _ _ _ hquantifier _ =>
      have hnot : quantifierIn (signs descriptor) source ≠ .exact := by
        unfold quantifierIn
        split <;> decide
      exact absurd (hquantifier.symm.trans hexact) hnot
    | catchAll hcatch => simp [Key.isCatchAll, hexact] at hcatch

/-- **What fits the descriptor conforms to the keys.** -/
theorem conforms (h : StandsFor descriptor rule named matched additional)
    (hnodup : (xs.map Prod.fst).Nodup) (hfits : Fits descriptor (fun m => accepts (rule m)) xs) :
    Conforms accepts (named ++ matched ++ additional) (Entries.ofTexts xs) := by
  refine ⟨fun q y hasked => h.accepts_of_asked hfits hasked, fun q hq hoptional => ?_,
    fun q hq hatLeast => ?_⟩
  · rw [propertyNames_ofTexts]
    cases h.keyOf_of_mem hq with
    | named _ hkey _ => exact hkey.count_le_one hnodup
    | matched hsource hr _ hkey hquantifier _ =>
      rw [Key.count, hkey]
      exact hfits.atMostOne _ hsource _ hr (hquantifier.symm.trans hoptional)
    | catchAll hcatch => simp [Key.isCatchAll, hoptional] at hcatch
  · rw [propertyNames_ofTexts]
    cases h.keyOf_of_mem hq with
    | @named name _ hkey _ =>
      cases hrequired : (Descriptor.required descriptor).any (Value.keyEq (.text name)) with
      | false => cases hatLeast.symm.trans (hkey.optional hrequired)
      | true => cases hatLeast.symm.trans (hkey.required hrequired).1
    | matched hsource hr _ hkey hquantifier _ =>
      rw [Key.count, hkey]
      exact hfits.atLeastOne _ hsource _ hr (hquantifier.symm.trans hatLeast)
    | catchAll hcatch => simp [Key.isCatchAll, hatLeast] at hcatch

end Conforms

end StandsFor

/-! ## What is decoded -/

/-- What is related to members with keys without repetition is a function of the keys. -/
theorem exists_fun_of_forall₂ {α β γ κ : Type} [DecidableEq κ] {R : α → β → Prop} {key : α → κ}
    (f : β → γ) (c : γ) {as : List α} {bs : List β} (hnodup : (as.map key).Nodup)
    (h : List.Forall₂ R as bs) :
    ∃ g : κ → γ, List.Forall₂ (fun a b => R a b ∧ f b = g (key a)) as bs := by
  induction h with
  | nil => exact ⟨fun _ => c, .nil⟩
  | @cons a b as bs hab _ ih =>
    obtain ⟨hnew, hrest⟩ := List.nodup_cons.mp hnodup
    obtain ⟨g, hg⟩ := ih hrest
    refine ⟨fun k => if k = key a then f b else g k, .cons ⟨hab, (if_pos rfl).symm⟩ ?_⟩
    refine ((List.forall₂_and_left _ _).mpr ⟨fun a' ha' => ha', hg⟩).imp ?_
    rintro a' b' ⟨ha', hR, hb'⟩
    have hne : key a' ≠ key a := fun heq => hnew (heq ▸ List.mem_map_of_mem ha')
    exact ⟨hR, hb'.trans (if_neg hne).symm⟩

/-- No name is left over only if all of them are known. -/
theorem known_of_foldl_unknown {known : Value → Bool} {names seen : List Value}
    (h : names.foldl (fun seen v => if known v || seen.any (Value.keyEq v) then seen
      else seen ++ [v]) seen = []) : seen = [] ∧ ∀ v ∈ names, known v = true := by
  induction names generalizing seen with
  | nil => exact ⟨h, List.forall_mem_nil _⟩
  | cons name names ih =>
    rw [List.foldl_cons] at h
    obtain ⟨hseen, hnames⟩ := ih h
    split at hseen
    · next hcond =>
      subst hseen
      exact ⟨rfl, List.forall_mem_cons.mpr ⟨by simpa using hcond, hnames⟩⟩
    · simp at hseen

/-- **Required names** that are read are those that are listed, and each is the name of a property. -/
theorem requiredNames_eq_ok (tag : Nat) {ms properties : Members} {names : List Value}
    (h : requiredNames pointer ms properties = .ok names) :
    names = required (.mapping .dict tag ms) ∧
      ∀ v ∈ names, properties.any (fun p => Value.keyEq v p.1) = true := by
  unfold requiredNames at h
  split at h
  · next names' hvalue =>
    split at h
    · cases h
    dsimp only at h
    split at h
    · next hempty =>
      cases h
      refine ⟨?_, (known_of_foldl_unknown (List.isEmpty_iff.mp hempty)).2⟩
      have hmembers : membersOf (.mapping .dict tag ms) = ms := rfl
      rw [required, hmembers]
      cases hfound : member? "required" ms with
      | none =>
        rw [hfound] at hvalue
        cases hvalue
        rfl
      | some v =>
        rw [hfound] at hvalue
        cases hvalue
        rfl
    · rw [Except.bind_eq_ok_iff] at h
      obtain ⟨_, -, h⟩ := h
      cases h
  · cases h

/-- **Additional properties** that are read are the catch-all key, if there is a node for them. -/
theorem decodeAdditional_eq_ok (tag : Nat) {ms : Members} {qs : List (Property Validator)}
    (h : decodeAdditional decode pointer ms = .ok qs) :
    ∃ rule, List.Forall₂ (fun m q => m = ("additionalProperties", "") ∧ q.key.isCatchAll = true ∧
        q.rule = rule) (additional? (.mapping .dict tag ms)).toList qs ∧
      ∀ v, member? "additionalProperties" ms = some v → v ≠ .bool true →
        ∃ pointer, decode v pointer = .ok rule := by
  unfold decodeAdditional at h
  have hadditional : additional? (.mapping .dict tag ms) =
      match member? "additionalProperties" ms with
      | some (.mapping .dict _ _) => some ("additionalProperties", "")
      | _ => none := rfl
  rw [hadditional]
  cases hmember : member? "additionalProperties" ms with
  | none =>
    rw [hmember] at h
    cases h
    exact ⟨.leaf .anything, .nil, nofun⟩
  | some v =>
    rw [hmember, Option.getD_some] at h
    split at h
    · simp only [Except.bind_eq_ok_iff, Except.pure_eq_ok_iff] at h
      obtain ⟨rule, hrule, q, hq, rfl⟩ := h
      have hcatch : Key.ofWritten "*" = .ok ⟨"*", .catchAll, none⟩ := rfl
      rw [property_of_ofWritten hcatch] at hq
      cases hq
      refine ⟨rule, .cons ⟨rfl, rfl, rfl⟩ .nil, ?_⟩
      rintro _ ⟨⟩ -
      exact ⟨_, hrule⟩
    · cases h
      refine ⟨.leaf .anything, .nil, ?_⟩
      rintro _ ⟨⟩ hne
      exact absurd rfl hne
    · cases h

section Parts

variable {ms : Members} {gs hs : List (String × Value)} {tag : Nat}

theorem namesIn_of_part? {part : String} (hpart : part? part ms = some (Entries.ofTexts gs)) :
    namesIn part (.mapping .dict tag ms) = gs.map Prod.fst := by
  rw [namesIn, membersOf, hpart, Option.getD_some, Entries.ofTexts, List.map_map]
  rfl

theorem forall_mem_heldIn_ofTexts {part : String} {P : (String × String) × Value → Prop} :
    (∀ e ∈ heldIn part (Entries.ofTexts gs), P e) ↔ ∀ g ∈ gs, P ((part, g.1), g.2) := by
  rw [heldIn, Entries.ofTexts, List.map_map, List.forall_mem_map]
  rfl

/-- The nodes of an object's descriptor are those of the additional properties, the properties and the
pattern properties. -/
theorem forall_mem_held (hproperties : part? "properties" ms = some (Entries.ofTexts gs))
    (hpatterns : part? "patternProperties" ms = some (Entries.ofTexts hs))
    {P : (String × String) × Value → Prop} :
    (∀ e ∈ held (.mapping .dict tag ms), P e) ↔
      (∀ v, member? "additionalProperties" ms = some v → P (("additionalProperties", ""), v)) ∧
        (∀ g ∈ gs, P (("properties", g.1), g.2)) ∧ ∀ g ∈ hs, P (("patternProperties", g.1), g.2) := by
  rw [held, membersOf, hproperties, hpatterns, Option.getD_some, Option.getD_some, List.append_assoc,
    List.forall_mem_append, List.forall_mem_append, forall_mem_heldIn_ofTexts, forall_mem_heldIn_ofTexts,
    List.forall_mem_map]
  simp only [Option.mem_toList]

/-- **Members that are read** become keys of some kind, one for each, and what stands under a key is what
the node of its name is read as. -/
theorem exists_rule_of_decodeMembers {read : Value → Value → Except Refusal (Property Validator)}
    {K : String → Key → Prop} {qs : List (Property Validator)} (hnodup : (gs.map Prod.fst).Nodup)
    (hread : decodeMembers read (Entries.ofTexts gs) = .ok qs)
    (hkey : ∀ name node q, read (.text name) node = .ok q →
      K name q.key ∧ ∃ pointer, decode node pointer = .ok q.rule) :
    ∃ rule : String → Validator,
      List.Forall₂ (fun name q => K name q.key ∧ q.rule = rule name) (gs.map Prod.fst) qs ∧
        ∀ g ∈ gs, ∃ pointer, decode g.2 pointer = .ok (rule g.1) := by
  have hall := forall₂_of_decodeMembers hread
  rw [Entries.ofTexts, List.forall₂_map_left_iff] at hall
  obtain ⟨rule, hrule⟩ := exists_fun_of_forall₂ Property.rule (.leaf .anything) hnodup hall
  refine ⟨rule, ?_, fun g hg => ?_⟩
  · rw [List.forall₂_map_left_iff]
    exact hrule.imp fun g q hq => ⟨(hkey g.1 g.2 q hq.1).1, hq.2⟩
  · obtain ⟨q, -, hq, heq⟩ := hrule.exists_right hg
    rw [← heq]
    exact (hkey g.1 g.2 q hq).2

/-- **What an object is decoded to**: an object pattern whose keys stand for the members of the
descriptor, each with what its node is read as. -/
theorem exists_standsFor_of_decodeObject (tag : Nat) {fs : List (String × Value)} {w : Validator}
    (hjson : ∀ f ∈ fs, f.2.IsJson) (h : decodeObject decode pointer (Entries.ofTexts fs) = .ok w) :
    ∃ rule named matched additional, w = .object (named ++ matched ++ additional) ∧
      StandsFor (.mapping .dict tag (Entries.ofTexts fs)) rule named matched additional ∧
      ∀ e ∈ held (.mapping .dict tag (Entries.ofTexts fs)), e.2 ≠ .bool true →
        ∃ pointer, decode e.2 pointer = .ok (rule e.1) := by
  obtain ⟨properties, patterns, quantifiers, names, named, matched, additional, hproperties, hpatterns,
    hquantifiers, hrequired, hnamed, hmatched, hadditional, rfl⟩ := decodeObject_eq_ok h
  obtain ⟨gs, rfl, hgs, -⟩ := exists_of_part? hjson hproperties
  obtain ⟨hs, rfl, hhs, -⟩ := exists_of_part? hjson hpatterns
  obtain ⟨hnames, hknown⟩ := requiredNames_eq_ok tag hrequired
  -- what stands under the keys, part by part
  obtain ⟨ofName, hofName, hnameNodes⟩ := exists_rule_of_decodeMembers hgs hnamed
    fun name node q hq => ⟨isNamed_of_decodeProperty hq, exists_of_decodeProperty hq⟩
  obtain ⟨ofSource, hofSource, hsourceNodes⟩ := exists_rule_of_decodeMembers hhs hmatched
    fun source node q hq => (isMatched_of_decodePatternProperty hq).symm
  obtain ⟨rest, hrest, hrestNode⟩ := decodeAdditional_eq_ok tag hadditional
  let rule : String × String → Validator := fun m =>
    if m.1 = "properties" then ofName m.2
    else if m.1 = "patternProperties" then ofSource m.2 else rest
  have hsigns : signs (.mapping .dict tag (Entries.ofTexts fs)) = quantifiers := by
    rw [signs, membersOf, hquantifiers, Option.getD_some]
  refine ⟨rule, named, matched, additional, rfl, ⟨?_, ?_, ?_, ?_⟩, ?_⟩
  · rw [namesIn_of_part? hproperties, ← hnames]
    exact hofName
  · rw [namesIn_of_part? hpatterns, hsigns]
    exact hofSource
  · refine hrest.imp ?_
    rintro _ q ⟨rfl, hcatch, hq⟩
    exact ⟨hcatch, hq⟩
  · rw [namesIn_of_part? hproperties, ← hnames]
    intro v hv
    obtain ⟨e, he, heq⟩ := List.any_eq_true.mp (hknown v hv)
    obtain ⟨g, hg, rfl⟩ := List.mem_map.mp he
    exact ⟨g.1, List.mem_map_of_mem hg, Entries.eq_text_of_keyEq heq⟩
  · rw [forall_mem_held hproperties hpatterns]
    exact ⟨hrestNode, fun g hg _ => hnameNodes g hg, fun g hg _ => hsourceNodes g hg⟩

end Parts

end Conformance.Descriptor
