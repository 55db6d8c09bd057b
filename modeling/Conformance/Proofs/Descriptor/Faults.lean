import Conformance.Proofs.Descriptor.Annotations
import Conformance.Proofs.Descriptor.Documents
import Conformance.Proofs.Descriptor.Recovering
import Conformance.Proofs.Value.Ordering

/-!
# Descriptors whose reading ends with a fault

A descriptor that cannot be read is refused.  A few things that can stand in a descriptor made of JSON
values end the reading with a fault instead: values that can be no key where a key is looked up, values
without a common order where they are listed in a message, and texts that ask for more than the engine
of regexes takes.

## Main Definitions

* `Descriptor.FaultsWithin` — a result that is no fault, or one of some faults
* `Descriptor.Flaw` — the members of a node that make a fault of its reading
* `Descriptor.Flawed` — a descriptor with a flaw in some node

## Main statements

* `Descriptor.faultsWithin_decodeMembersOf` — reading a node ends with no other faults than those of its
  flaws and of the nodes inside it
* `Descriptor.faultsWithin_decode` — reading a descriptor ends with no other faults than those of its
  flaws
-/

namespace Conformance.Descriptor

variable {α β : Type} {P Q : Fault → Prop} {pointer : String}

/-! ## Results and faults -/

/-- **A result that is no fault, or one of some faults**: a value, a refusal of the descriptor, or a fault
that `P` allows. -/
def FaultsWithin (P : Fault → Prop) (r : Except Refusal α) : Prop :=
  ∀ e, r = .error e → (∃ d, e = .decode d) ∨ ∃ f, e = .fault f ∧ P f

namespace FaultsWithin

theorem ok (a : α) : FaultsWithin P (.ok a) := nofun

theorem refuse (pointer : String) (cause : DecodeCause) :
    FaultsWithin P (Descriptor.refuse pointer cause : Except Refusal α) :=
  fun _ h => .inl ⟨_, (Except.error.inj h).symm⟩

theorem fault {f : Fault} (h : P f) : FaultsWithin P (Descriptor.fault f : Except Refusal α) :=
  fun _ hf => .inr ⟨f, (Except.error.inj hf).symm, h⟩

theorem ofFault {r : Except Fault α} (h : ∀ f, r = .error f → P f) :
    FaultsWithin P (Descriptor.ofFault r) := by
  intro e he
  cases r with
  | ok a => cases he
  | error f =>
    cases he
    exact .inr ⟨f, rfl, h f rfl⟩

/-- One result after the other. -/
theorem bind {r : Except Refusal α} {next : α → Except Refusal β} (hr : FaultsWithin P r)
    (hnext : ∀ a, r = .ok a → FaultsWithin P (next a)) : FaultsWithin P (r >>= next) := by
  intro e he
  cases r with
  | ok a => exact hnext a rfl e he
  | error e' => exact hr e (by cases he; rfl)

theorem mono {r : Except Refusal α} (h : FaultsWithin P r) (himp : ∀ f, P f → Q f) :
    FaultsWithin Q r := by
  intro e he
  refine (h e he).imp_right ?_
  rintro ⟨f, rfl, hf⟩
  exact ⟨f, rfl, himp f hf⟩

/-- A value made from a result. -/
theorem map {r : Except Refusal α} (h : FaultsWithin P r) (g : α → β) : FaultsWithin P (g <$> r) := by
  intro e he
  cases r with
  | ok a => cases he
  | error e' => exact h e (by cases he; rfl)

end FaultsWithin

/-! ## Flaws -/

/-- The faults of reading a text as a pattern: those of the regex, and those of the string rule that
the text has the shape of. -/
inductive PatternFault (source : String) : Fault → Prop where
  | regex {f : Fault} : Regex.ofSource source .none = .error (.fault f) → PatternFault source f
  | counts {charset : String} {counts : StringRule.Counts} {f : Fault} :
    StringRule.split? source = some (charset, counts) → StringRule.lengths counts = .error f →
    PatternFault source f
  | rule {charset : String} {counts : StringRule.Counts} {least : Nat} {most : Option Nat} {f : Fault} :
    StringRule.split? source = some (charset, counts) →
    StringRule.lengths counts = .ok (least, most) →
    CharsetRule.make charset least most = .error (.fault f) → PatternFault source f

/-- The faults of reading a name of `patternProperties`: those of what is left without its anchors, and
those of the whole name where the anchors stay. -/
inductive NameFault (source : String) : Fault → Prop where
  | inner {f : Fault} : unanchor source = .error (.fault f) → NameFault source f
  | whole {name : String} {f : Fault} : unanchor source = .ok name →
    Regex.ofSource name .none = .error (.fault f) → NameFault source f

/-- **The flaws of a node**: what its members hold that makes a fault of its reading. -/
inductive Flaw (ms : Members) : Fault → Prop where
  /-- A list or a dictionary is listed as required. -/
  | requiredMember {tag : Nat} {names : List Value} {v : Value} :
    member? "required" ms = some (.seq .list tag names) → v ∈ names → v.isHashable = false →
    Flaw ms (.unhashable v.typeName)
  /-- Two required names that no property is described for have no order. -/
  | requiredOrder {tag : Nat} {names : List Value} {v w : Value} {entries : Members} :
    member? "required" ms = some (.seq .list tag names) → part? "properties" ms = some entries →
    v ∈ names → w ∈ names → (∀ e ∈ entries, Value.keyEq v e.1 = false ∧ Value.keyEq w e.1 = false) →
    Value.order? v w = none → Flaw ms .unordered
  /-- The type beside an enumeration is a list or a dictionary. -/
  | enumType {values type : Value} :
    member? "enum" ms = some values → member? "type" ms = some type → type.isHashable = false →
    Flaw ms (.unhashable type.typeName)
  /-- The quantifier of a name is a list or a dictionary. -/
  | quantifier {patterns quantifiers : Members} {source : String} {node v : Value} :
    part? "patternProperties" ms = some patterns → (.text source, node) ∈ patterns →
    part? "x-quantifiers" ms = some quantifiers → Entries.find? (.text source) quantifiers = some v →
    v.isHashable = false → Flaw ms (.unhashable v.typeName)
  | pattern {source : String} {f : Fault} :
    member? "pattern" ms = some (.text source) → PatternFault source f → Flaw ms f
  | name {patterns : Members} {source : String} {node : Value} {f : Fault} :
    part? "patternProperties" ms = some patterns → (.text source, node) ∈ patterns →
    NameFault source f → Flaw ms f

/-- **A descriptor with a flaw** in one of its nodes, and the fault that it makes. -/
inductive Flawed : Value → Fault → Prop where
  | here {tag : Nat} {ms : Members} {f : Fault} : Flaw ms f → Flawed (.mapping .dict tag ms) f
  | inside {tag : Nat} {ms : Members} {v : Value} {f : Fault} :
    Subnode ms v → Flawed v f → Flawed (.mapping .dict tag ms) f

/-! ## Leaves -/

variable {fs : List (String × Value)}

/-- What is looked up is a member if it is not what stands for none. -/
theorem member?_of_getD {name : String} {ms : Members} {v default : Value}
    (h : (member? name ms).getD default = v) (hne : default ≠ v) : member? name ms = some v := by
  cases hfound : member? name ms with
  | none =>
    rw [hfound] at h
    exact absurd h hne
  | some w =>
    rw [hfound] at h
    exact congrArg some h

/-- Keywords are texts, and can always be listed. -/
theorem exists_sort?_keywords {ks : List Value} (h : ks ⊆ keywords (Entries.ofTexts fs)) :
    ∃ us, Value.sort? ks = .ok us := by
  refine Value.exists_sort?_of_texts fun k hk => ?_
  obtain ⟨e, he, rfl⟩ := List.mem_map.mp (List.mem_of_mem_filter (h hk))
  obtain ⟨f, -, rfl⟩ := List.mem_map.mp he
  exact ⟨f.1, rfl⟩

theorem faultsWithin_unsupported {ks : List Value} (h : ks ⊆ keywords (Entries.ofTexts fs)) :
    FaultsWithin P (do refuse pointer (.unsupportedKeywords (← ofFault (Value.sort? ks))) :
      Except Refusal α) := by
  obtain ⟨us, hus⟩ := exists_sort?_keywords h
  rw [hus]
  exact .refuse _ _

theorem faultsWithin_only (allowed : List String) :
    FaultsWithin P (only pointer allowed (Entries.ofTexts fs)) := by
  simp only [only]
  split
  · exact .ok ()
  · exact faultsWithin_unsupported fun _ hk => List.mem_of_mem_filter hk

theorem faultsWithin_decodeSimple (rule : Leaf) :
    FaultsWithin P (decodeSimple pointer (Entries.ofTexts fs) rule) :=
  (faultsWithin_only _).bind fun _ _ => .ok _

/-- An enumeration beside a type that can be no key. -/
theorem faultsWithin_decodeEnum {values : Value}
    (hvalues : member? "enum" (Entries.ofTexts fs) = some values) :
    FaultsWithin (Flaw (Entries.ofTexts fs)) (decodeEnum pointer (Entries.ofTexts fs) values) := by
  refine (faultsWithin_only _).bind fun _ _ => ?_
  split
  · split
    · split
      · exact .ok _
      · exact .ok _
    · next hnull =>
      -- without a type there is none beside the enumeration
      obtain ⟨type, htype⟩ : ∃ type, member? "type" (Entries.ofTexts fs) = some type := by
        rw [← Option.isSome_iff_exists, ← Option.ne_none_iff_isSome]
        intro hnone
        exact hnull (by rw [hnone]; rfl)
      rw [htype, Option.getD_some]
      cases hhash : type.isHashable with
      | false => exact FaultsWithin.fault (.enumType hvalues htype hhash)
      | true =>
        simp only [Bool.not_true, Bool.false_eq_true, if_false]
        split
        · exact .ok _
        split
        · exact .ok _
        · exact .refuse _ _
  · exact .refuse _ _

theorem faultsWithin_decodeRegex (source : String) :
    FaultsWithin (PatternFault source) (decodeRegex pointer source) := by
  unfold decodeRegex
  split
  · exact .ok _
  · exact .refuse _ _
  · next f hf => exact .fault (.regex hf)

/-- A pattern that asks for too much. -/
theorem faultsWithin_decodeString :
    FaultsWithin (Flaw (Entries.ofTexts fs)) (decodeString pointer (Entries.ofTexts fs)) := by
  refine (faultsWithin_only _).bind fun _ _ => ?_
  split
  · exact .ok _
  · next source hsource =>
    refine .mono (P := PatternFault source) ?_ fun f hf => .pattern hsource hf
    split
    · exact faultsWithin_decodeRegex source
    · next charset counts hsplit =>
      refine (FaultsWithin.ofFault fun f hf => .counts hsplit hf).bind fun lengths hlengths => ?_
      have hlengths' : StringRule.lengths counts = .ok lengths := by
        cases hread : StringRule.lengths counts with
        | ok _ => rw [hread] at hlengths; exact congrArg Except.ok (Except.ok.inj hlengths)
        | error _ => rw [hread] at hlengths; cases hlengths
      dsimp only
      split
      · exact .ok _
      · exact faultsWithin_decodeRegex source
      · next other hnot hmake =>
        rcases other with e | d | f
        · exact absurd rfl (hnot e)
        · exact absurd hmake CharsetRule.make_ne_decode
        · exact .fault (.rule hsplit hlengths' hmake)
  · exact .refuse _ _

theorem faultsWithin_numberUnder (keyword : String) (v : Value) :
    FaultsWithin P (numberUnder pointer keyword v) := by
  unfold numberUnder
  split
  · exact .ok _
  · exact .refuse _ _

theorem faultsWithin_numberMember (keyword : String) (ms : Members) :
    FaultsWithin P (numberMember pointer keyword ms) := by
  unfold numberMember
  split
  · exact .ok _
  · exact (faultsWithin_numberUnder _ _).map some

theorem faultsWithin_stepList (ms : Members) : FaultsWithin P (stepList pointer ms) := by
  unfold stepList
  split
  · exact .ok _
  · next vs hsteps =>
    clear hsteps
    induction vs with
    | nil => exact .ok _
    | cons v vs ih =>
      rw [List.mapM_cons]
      exact (faultsWithin_numberUnder _ v).bind fun _ _ => ih.bind fun _ _ => .ok _
  · exact .refuse _ _

/-- A number is read or refused. -/
theorem faultsWithin_decodeNumber :
    FaultsWithin P (decodeNumber pointer (Entries.ofTexts fs)) := by
  refine (faultsWithin_only _).bind fun _ _ => ?_
  refine (faultsWithin_numberMember _ _).bind fun _ _ => ?_
  refine (faultsWithin_numberMember _ _).bind fun _ _ => ?_
  refine (faultsWithin_numberMember _ _).bind fun _ _ => ?_
  refine (faultsWithin_numberMember _ _).bind fun _ _ => ?_
  refine (faultsWithin_numberMember _ _).bind fun _ _ => ?_
  refine (faultsWithin_stepList _).bind fun _ _ => ?_
  dsimp only
  split
  · exact .ok _
  · exact .refuse _ _

/-! ## Keys -/

/-- **A key** is read or refused, unless the regex of its name faults. -/
theorem faultsWithin_property {written : String} {rule : Validator}
    (h : ∀ q name f, Key.split written = .ok (q, some name) →
      Regex.ofSource name .none = .error (.fault f) → P f) :
    FaultsWithin P (property pointer written rule) := by
  unfold property
  cases hkey : Key.ofWritten written with
  | ok k => exact .ok _
  | error e =>
    unfold Key.ofWritten at hkey
    split at hkey
    · next q source hsplit =>
      unfold Key.ofParts at hkey
      split at hkey
      · cases hkey
      · split at hkey
        · cases hkey
        · cases hkey
          exact .refuse _ _
        · next f hf =>
          cases hkey
          exact .fault (h q _ f hsplit hf)
    · cases hkey
      exact .refuse _ _

/-- What stands behind a sign is the name. -/
theorem name_of_split_sign {c : Char} {q q' : Quantifier} {source name : String}
    (hsign : Quantifier.ofSign? c = some q)
    (h : Key.split (String.singleton c ++ source) = .ok (q', some name)) : name = source := by
  have htoList : (String.singleton c ++ source).toList = c :: source.toList := by simp
  unfold Key.split at h
  split at h
  · cases h
  · rw [htoList] at h
    simp only [hsign, String.ofList_toList] at h
    split at h
    · cases h
    · cases h
      rfl

/-- A name that is a regex can be read as a key, or refused. -/
theorem faultsWithin_property_of_ok {written name : String} {rule : Validator} {r : Regex}
    (hr : Regex.ofSource name .none = .ok r)
    (hname : ∀ q name', Key.split written = .ok (q, some name') → name' = name) :
    FaultsWithin P (property pointer written rule) := by
  refine faultsWithin_property fun q name' f hsplit hf => ?_
  rw [hname q name' hsplit, hr] at hf
  cases hf

/-! ## Nodes with nodes inside -/

/-- A reader that ends with no faults but those of a descriptor's flaws, for descriptors of JSON below
a depth. -/
def ReadsWithin (depth : Nat) (decode : NodeReader) : Prop :=
  ∀ ⦃v⦄, JsonBelow depth v → ∀ pointer, FaultsWithin (Flawed v) (decode v pointer)

variable {depth : Nat} {decode : NodeReader}

theorem faultsWithin_decodeEach (hdecode : ReadsWithin depth decode) {nodes : List Value}
    (hnodes : ∀ v ∈ nodes, JsonBelow depth v) (i : Nat) :
    FaultsWithin (fun f => ∃ v ∈ nodes, Flawed v f) (decodeEach decode pointer i nodes) := by
  induction nodes generalizing i with
  | nil => exact .ok _
  | cons v vs ih =>
    obtain ⟨hv, hvs⟩ := List.forall_mem_cons.mp hnodes
    refine ((hdecode hv _).mono fun f hf => ⟨v, List.mem_cons_self, hf⟩).bind fun _ _ => ?_
    refine ((ih hvs (i + 1)).mono ?_).bind fun _ _ => .ok _
    rintro f ⟨w, hw, hf⟩
    exact ⟨w, List.mem_cons_of_mem v hw, hf⟩

theorem faultsWithin_lengthUnder (keyword : String) (v : Value) :
    FaultsWithin P (lengthUnder pointer keyword v) := by
  unfold lengthUnder
  split
  · exact .ok _
  · exact .refuse _ _

/-- The faults of the nodes directly inside a node. -/
def FlawedInside (ms : Members) (f : Fault) : Prop := ∃ v, Subnode ms v ∧ Flawed v f

theorem faultsWithin_decodeArray (hdecode : ReadsWithin (Value.record fs).depth decode)
    (hjson : ∀ f ∈ fs, f.2.IsJson) :
    FaultsWithin (FlawedInside (Entries.ofTexts fs))
      (decodeArray decode pointer (Entries.ofTexts fs)) := by
  refine (faultsWithin_only _).bind fun _ _ => ?_
  split
  · split
    · exact .refuse _ _
    · exact .ok _
  · next items hitems =>
    have hread : ∀ pointer, FaultsWithin (FlawedInside (Entries.ofTexts fs)) (decode items pointer) :=
      fun pointer => (hdecode (.of_member? hjson hitems) pointer).mono fun f hf =>
        ⟨items, .items hitems, hf⟩
    refine (faultsWithin_lengthUnder _ _).bind fun _ _ => ?_
    split
    · exact (FaultsWithin.ok _).bind fun _ _ => (hread _).bind fun _ _ => .ok _
    · exact ((faultsWithin_lengthUnder _ _).map some).bind fun _ _ => (hread _).bind fun _ _ => .ok _

/-- A member of `properties` becomes a key of its own, since its name is literal or escaped. -/
theorem faultsWithin_decodeProperty (required : List Value) (name : String) {node : Value}
    (hnode : ∀ pointer, FaultsWithin P (decode node pointer)) :
    FaultsWithin P (decodeProperty decode pointer required (.text name) node) := by
  have hoptional : ∀ {source : String} {rule : Validator} {r : Regex},
      Regex.ofSource source .none = .ok r → FaultsWithin P (property pointer ("?" ++ source) rule) :=
    fun hr => faultsWithin_property_of_ok hr fun _ _ hsplit =>
      name_of_split_sign (c := '?') (q := .optional) rfl hsplit
  rw [decodeProperty_text]
  refine (hnode _).bind fun rule _ => ?_
  dsimp only
  by_cases hliteral : isLiteralName name = true
  · have hr := Regex.ofSource_literal hliteral
    simp only [hliteral, Bool.not_true, Bool.false_eq_true, if_false]
    split
    · rw [property_of_ofWritten (Key.ofWritten_literal hliteral hr)]
      exact .ok _
    · exact hoptional hr
  · simp only [hliteral, Bool.not_false, if_true]
    split
    · exact .refuse _ _
    · exact hoptional (Regex.ofSource_escapeName name)

/-- The faults of a member of `patternProperties`, apart from those of its node. -/
inductive MemberFault (quantifiers : Members) (source : String) : Fault → Prop where
  | quantifier {v : Value} : Entries.find? (.text source) quantifiers = some v →
    v.isHashable = false → MemberFault quantifiers source (.unhashable v.typeName)
  | name {f : Fault} : NameFault source f → MemberFault quantifiers source f

theorem faultsWithin_patternSign {quantifiers : Members} {source : String} :
    FaultsWithin (MemberFault quantifiers source) (patternSign quantifiers (.text source)) := by
  unfold patternSign
  split
  · exact .ok _
  · next v hv =>
    split
    · next hhash => exact .fault (.quantifier hv (by simpa using hhash))
    · split
      · exact .ok _
      · exact .ok _

theorem faultsWithin_unanchor (source : String) :
    FaultsWithin (NameFault source) (unanchor source) := by
  intro e he
  have hfault : ∃ f, e = .fault f := by
    unfold unanchor at he
    dsimp only at he
    split at he
    · split at he
      · cases he
      · cases he
      · next f _ => exact ⟨f, (Except.error.inj he).symm⟩
    · cases he
  obtain ⟨f, rfl⟩ := hfault
  exact .inr ⟨f, rfl, .inner he⟩

/-- **A member of `patternProperties`** faults only by its quantifier, its name or its node. -/
theorem faultsWithin_decodePatternProperty (quantifiers : Members) (source : String) {node : Value}
    (hnode : ∀ pointer, FaultsWithin P (decode node pointer)) :
    FaultsWithin (fun f => P f ∨ MemberFault quantifiers source f)
      (decodePatternProperty decode pointer quantifiers (.text source) node) := by
  refine ((hnode _).mono fun f hf => .inl hf).bind fun rule _ => ?_
  refine .mono (P := MemberFault quantifiers source) ?_ fun f hf => .inr hf
  refine faultsWithin_patternSign.bind fun sign hsign => ?_
  obtain ⟨c, rfl, hofSign⟩ := exists_sign_of_patternSign hsign
  refine .mono (P := NameFault source) ?_ fun f hf => .name hf
  refine (faultsWithin_unanchor source).bind fun name hname => faultsWithin_property ?_
  intro _ name' f hsplit hf
  rw [name_of_split_sign hofSign hsplit] at hf
  exact .whole hname hf

theorem faultsWithin_decodeMembers {read : Value → Value → Except Refusal (Property Validator)}
    {ms : Members} (h : ∀ e ∈ ms, FaultsWithin P (read e.1 e.2)) :
    FaultsWithin P (decodeMembers read ms) := by
  induction ms with
  | nil => exact .ok _
  | cons e ms ih =>
    obtain ⟨he, hms⟩ := List.forall_mem_cons.mp h
    exact he.bind fun _ _ => (ih hms).bind fun _ _ => .ok _

theorem faultsWithin_decodeAdditional (hdecode : ReadsWithin (Value.record fs).depth decode)
    (hjson : ∀ f ∈ fs, f.2.IsJson) :
    FaultsWithin (FlawedInside (Entries.ofTexts fs))
      (decodeAdditional decode pointer (Entries.ofTexts fs)) := by
  unfold decodeAdditional
  split
  · next tag entries hvalue =>
    have hmember : member? "additionalProperties" (Entries.ofTexts fs) =
        some (.mapping .dict tag entries) := by
      refine member?_of_getD hvalue ?_
      intro htrue
      cases htrue
    have hread := hdecode (.of_member? hjson hmember) s!"{pointer}/additionalProperties"
    refine (hread.mono fun f hf => ⟨_, .additional hmember, hf⟩).bind fun rule _ => ?_
    have hcatch : Key.ofWritten "*" = .ok ⟨"*", .catchAll, none⟩ := rfl
    rw [property_of_ofWritten hcatch]
    exact .ok _
  · exact .ok _
  · exact .refuse _ _

/-! ## Required names -/

/-- The names that are left over are among the required ones, and no property has them. -/
theorem mem_foldl_unknown {known : Value → Bool} {names seen : List Value} {v : Value}
    (h : v ∈ names.foldl (fun seen v => if known v || seen.any (Value.keyEq v) then seen
      else seen ++ [v]) seen) : v ∈ seen ∨ v ∈ names ∧ known v = false := by
  induction names generalizing seen with
  | nil => exact .inl h
  | cons name names ih =>
    rw [List.foldl_cons] at h
    rcases ih h with hseen | ⟨hmem, hknown⟩
    · split at hseen
      · exact .inl hseen
      · next hnew =>
        rcases List.mem_append.mp hseen with hseen | hseen
        · exact .inl hseen
        · rw [List.mem_singleton.mp hseen]
          rw [Bool.or_eq_true, not_or, Bool.not_eq_true] at hnew
          exact .inr ⟨List.mem_cons_self, hnew.1⟩
    · exact .inr ⟨List.mem_cons_of_mem name hmem, hknown⟩

/-- The left over names of an object's descriptor. -/
theorem mem_unknown {names : List Value} {properties : Members} {v : Value}
    (h : v ∈ names.foldl (fun seen v =>
      if properties.any (fun p => Value.keyEq v p.1) || seen.any (Value.keyEq v) then seen
      else seen ++ [v]) []) : v ∈ names ∧ ∀ e ∈ properties, Value.keyEq v e.1 = false := by
  rcases mem_foldl_unknown h with hnil | ⟨hmem, hknown⟩
  · cases hnil
  · rw [List.any_eq_false] at hknown
    exact ⟨hmem, fun e he => by simpa using hknown e he⟩

/-- **Required names** that can be no keys, or that are left over and cannot be sorted. -/
theorem faultsWithin_requiredNames {properties : Members}
    (hproperties : part? "properties" (Entries.ofTexts fs) = some properties) :
    FaultsWithin (Flaw (Entries.ofTexts fs))
      (requiredNames pointer (Entries.ofTexts fs) properties) := by
  unfold requiredNames
  split
  · next tag names hvalue =>
    have hlisted : ∀ v ∈ names, member? "required" (Entries.ofTexts fs) =
        some (.seq .list tag names) := by
      intro v hv
      refine member?_of_getD hvalue ?_
      intro hnil
      cases hnil
      cases hv
    split
    · next v hfind =>
      have hv : v ∈ names := List.mem_of_find?_eq_some hfind
      have hhash : v.isHashable = false := by simpa using List.find?_some hfind
      exact .fault (.requiredMember (hlisted v hv) hv hhash)
    · dsimp only
      split
      · exact .ok _
      · refine (FaultsWithin.ofFault fun f hf => ?_).bind fun _ _ => .refuse _ _
        obtain ⟨rfl, v, hv, w, hw, hnone⟩ := Value.exists_unordered_of_sort? hf
        obtain ⟨hv, hvproperties⟩ := mem_unknown hv
        obtain ⟨hw, hwproperties⟩ := mem_unknown hw
        exact .requiredOrder (hlisted v hv) hproperties hv hw
          (fun e he => ⟨hvproperties e he, hwproperties e he⟩) hnone
  · exact .refuse _ _

/-! ## Nodes -/

/-- **An object** faults only by its flaws and by those of the nodes inside it. -/
theorem faultsWithin_decodeObject (hdecode : ReadsWithin (Value.record fs).depth decode)
    (hjson : ∀ f ∈ fs, f.2.IsJson) :
    FaultsWithin (fun f => Flaw (Entries.ofTexts fs) f ∨ FlawedInside (Entries.ofTexts fs) f)
      (decodeObject decode pointer (Entries.ofTexts fs)) := by
  refine (faultsWithin_only _).bind fun _ _ => ?_
  split
  · next properties patterns quantifiers hproperties hpatterns hquantifiers =>
    refine ((faultsWithin_requiredNames hproperties).mono fun f => .inl).bind fun required _ => ?_
    -- the nodes of both parts are inside
    have hinside : ∀ {part : String} {entries : Members},
        part = "properties" ∨ part = "patternProperties" →
        part? part (Entries.ofTexts fs) = some entries → ∀ e ∈ entries, (∃ name, e.1 = .text name) ∧
          ∀ pointer, FaultsWithin (FlawedInside (Entries.ofTexts fs)) (decode e.2 pointer) := by
      intro part entries hpart hentries e he
      obtain ⟨gs, rfl, -, hgs⟩ := exists_of_part? hjson hentries
      obtain ⟨g, hg, rfl⟩ := List.mem_map.mp he
      refine ⟨⟨g.1, rfl⟩, fun pointer => (hdecode (hgs g hg) pointer).mono fun f hf => ?_⟩
      exact ⟨g.2, .member hpart hentries he, hf⟩
    refine (faultsWithin_decodeMembers ?_).bind fun named _ => ?_
    · rintro ⟨name, node⟩ he
      obtain ⟨⟨name, rfl⟩, hnode⟩ := hinside (.inl rfl) hproperties _ he
      exact (faultsWithin_decodeProperty required name hnode).mono fun f => .inr
    refine (faultsWithin_decodeMembers ?_).bind fun matched _ => ?_
    · rintro ⟨source, node⟩ he
      obtain ⟨⟨source, rfl⟩, hnode⟩ := hinside (.inr rfl) hpatterns _ he
      refine (faultsWithin_decodePatternProperty quantifiers source hnode).mono fun f hf => ?_
      rcases hf with hf | hf
      · exact .inr hf
      · refine .inl ?_
        cases hf with
        | quantifier hv hhash => exact .quantifier hpatterns he hquantifiers hv hhash
        | name hname => exact .name hpatterns he hname
    exact ((faultsWithin_decodeAdditional hdecode hjson).mono fun f => .inr).bind fun _ _ => .ok _
  · exact .refuse _ _

section TypeOnly

variable {type : Value}

/-- A node that holds a type only has no other members. -/
theorem member?_type_ne {name : String} {v : Value} (hne : name ≠ "type") :
    member? name (Entries.ofTexts [("type", type)]) ≠ some v := by
  intro hsome
  cases List.mem_singleton.mp (mem_of_member? hsome)
  exact hne rfl

theorem not_mem_part?_type {name : String} {entries : Members} {e : Value × Value} (hne : name ≠ "type")
    (hsome : part? name (Entries.ofTexts [("type", type)]) = some entries) : e ∉ entries := by
  intro he
  unfold part? at hsome
  split at hsome
  · cases hsome
    cases he
  · next hfound => exact member?_type_ne hne hfound
  · cases hsome

/-- There are no nodes inside a node that holds a type only. -/
theorem not_subnode_type {node : Value} : ¬ Subnode (Entries.ofTexts [("type", type)]) node := by
  intro hsub
  cases hsub with
  | alternative h => exact member?_type_ne (by decide) h
  | items h => exact member?_type_ne (by decide) h
  | member hname h he => exact not_mem_part?_type (by rcases hname with rfl | rfl <;> decide) h he
  | additional h => exact member?_type_ne (by decide) h

/-- A node that holds a type only has no flaws. -/
theorem not_flawed_type (f : Fault) : ¬ Flawed (Value.record [("type", type)]) f := by
  intro h
  cases h with
  | here h =>
    cases h with
    | requiredMember h => exact member?_type_ne (by decide) h
    | requiredOrder h => exact member?_type_ne (by decide) h
    | enumType h => exact member?_type_ne (by decide) h
    | quantifier h he => exact not_mem_part?_type (by decide) h he
    | pattern h => exact member?_type_ne (by decide) h
    | name h he => exact not_mem_part?_type (by decide) h he
  | inside hsub => exact not_subnode_type hsub

end TypeOnly

/-- **A node with a type.** -/
theorem faultsWithin_decodeTyped (hdecode : ReadsWithin (Value.record fs).depth decode)
    (hjson : ∀ f ∈ fs, f.2.IsJson) (type : String) :
    FaultsWithin (fun f => Flaw (Entries.ofTexts fs) f ∨ FlawedInside (Entries.ofTexts fs) f)
      (decodeTyped decode pointer (Entries.ofTexts fs) type) := by
  unfold decodeTyped
  split
  · exact faultsWithin_decodeSimple _
  · exact faultsWithin_decodeSimple _
  · exact faultsWithin_decodeSimple _
  · exact faultsWithin_decodeString.mono fun f => .inl
  · exact faultsWithin_decodeNumber
  · exact (faultsWithin_decodeArray hdecode hjson).mono fun f => .inr
  · exact faultsWithin_decodeObject hdecode hjson
  · exact .refuse _ _

/-- **One node** faults only by its flaws and by those of the nodes inside it. -/
theorem faultsWithin_decodeMembersOf {n : Nat} (hdecode : ReadsWithin (Value.record fs).depth decode)
    (hjson : ∀ f ∈ fs, f.2.IsJson) :
    FaultsWithin (fun f => Flaw (Entries.ofTexts fs) f ∨ FlawedInside (Entries.ofTexts fs) f)
      (decodeMembersOf n decode pointer (Entries.ofTexts fs)) := by
  unfold decodeMembersOf
  dsimp only
  split
  · exact .ok _
  split
  · exact .refuse _ _
  split
  · -- a reference
    refine (faultsWithin_only _).bind fun _ _ => ?_
    split
    · exact .ok _
    · exact .refuse _ _
  split
  · -- a choice
    next branches hbranches =>
    refine (faultsWithin_only _).bind fun _ _ => ?_
    split
    · next node nodes =>
      have hnodes : ∀ v ∈ node :: nodes, JsonBelow (Value.record fs).depth v :=
        fun v hv => (JsonBelow.of_member? hjson hbranches).of_mem hv
      refine ((faultsWithin_decodeEach hdecode hnodes 0).mono ?_).bind fun _ _ => .ok _
      rintro f ⟨v, hv, hf⟩
      exact .inr ⟨v, .alternative hbranches hv, hf⟩
    · exact .refuse _ _
  split
  · exact (faultsWithin_only _).bind fun _ _ => .ok _
  split
  · next values hvalues => exact (faultsWithin_decodeEnum hvalues).mono fun f => .inl
  split
  · exact faultsWithin_unsupported (List.Subset.refl _)
  · -- a choice of types
    next types htypes =>
    refine (faultsWithin_only _).bind fun _ _ => ?_
    have hnodes : ∀ v ∈ types.map fun t => Value.record [("type", t)],
        JsonBelow (Value.record fs).depth v :=
      List.forall_mem_map.mpr fun type htype => (JsonBelow.of_member? hjson htypes).of_type htype
    refine ((faultsWithin_decodeEach hdecode hnodes 0).mono ?_).bind fun _ _ => .ok _
    rintro f ⟨v, hv, hf⟩
    obtain ⟨type, -, rfl⟩ := List.mem_map.mp hv
    exact absurd hf (not_flawed_type f)
  · exact faultsWithin_decodeTyped hdecode hjson _
  · exact .refuse _ _

theorem readsWithin_decodeTo (n depth : Nat) : ReadsWithin depth (decodeTo n depth) := by
  induction depth with
  | zero => exact fun v hv => absurd hv.2 (Nat.not_lt_zero _)
  | succ depth ih =>
    rintro v ⟨hjson, hdepth⟩ pointer
    unfold decodeTo decodeNode
    split
    · next tag ms =>
      obtain ⟨fs, rfl, -, hfs⟩ := exists_of_isJson hjson
      have hrecord : (Value.record fs).depth = (Value.mapping .dict tag (Entries.ofTexts fs)).depth := by
        simp only [Value.record_eq, Value.dict, Value.depth]
      have hread : ReadsWithin (Value.record fs).depth (decodeTo n depth) := by
        rintro w ⟨hw, hlt⟩
        exact ih ⟨hw, by omega⟩
      refine (faultsWithin_decodeMembersOf hread hfs).mono fun f hf => ?_
      rcases hf with hf | ⟨w, hw, hf⟩
      · exact .here hf
      · exact .inside hw hf
    · exact .refuse _ _

/-- **Reading a descriptor** of JSON ends with no other faults than those of its flaws. -/
theorem faultsWithin_decode {n : Nat} {descriptor : Value} (h : descriptor.IsJson) :
    FaultsWithin (Flawed descriptor) (Descriptor.decode n descriptor) :=
  readsWithin_decodeTo n _ ⟨h, by omega⟩ _

end Conformance.Descriptor
