import Conformance.Proofs.Descriptor.Objects
import Conformance.Proofs.Validator.Describing
import Conformance.Proofs.Validator.Recoverable

/-!
# What validators come back as from their descriptors

What is written of a validator that can be read back is read, in any session, as what the validator
comes back as.  The two halves, writing and reading, meet at the members of the dictionary in between.

## Main Definitions

* `Descriptor.ReadsAs` — a dictionary and what it is read as in each session
* `Property.ToldAs` — what is known of a key of an object pattern, and what it comes back as

## Main statements

* `Validator.describe_rebuilt` — there is a descriptor of a validator whose rules have descriptors that are
  read, and it is read as what the validator is rebuilt as
* `Validator.describe_readsAs` — the same of a validator that can be read back
-/

namespace Conformance

/-- **A dictionary is read in each session** as some validator: it has each name once, the dialect not
among them. -/
structure Descriptor.ReadsAs (R : Nat → Validator → Prop) (fs : List (String × Value)) : Prop where
  nodup : (fs.map Prod.fst).Nodup
  dialect : "$schema" ∉ fs.map Prod.fst
  reads : ∀ n, Descriptor.Reads n (.record fs) (R n)

/-- **What is known of a key**: its descriptor is read as what the rule under it comes back as, and the
name is listed as required unless it does not have to be there or its absence was admitted. -/
structure Property.ToldAs (back : Leaf → Validator → Prop) (admitted : Key → Validator → Prop)
    (p : Property Validator) (d : Described) : Prop where
  key : d.key = p.key
  rule : ∃ fs, d.descriptor = .record fs ∧
    Descriptor.ReadsAs (fun n => Validator.RebuiltAs back admitted n p.rule) fs
  written : d.key.written = "" → d.required = true
  required : d.required = true → p.key.asksAbsence = true
  admitted : p.key.asksAbsence = true → d.required = false → admitted p.key p.rule

namespace Descriptor

/-! ## Names -/

/-- Names that stand in a fixed order. -/
theorem ReadsAs.of_sublist {R : Nat → Validator → Prop} {fs : List (String × Value)}
    (names : List String) (hnames : names.Nodup ∧ "$schema" ∉ names)
    (hsub : (fs.map Prod.fst).Sublist names) (hreads : ∀ n, Reads n (.record fs) (R n)) :
    ReadsAs R fs :=
  ⟨hsub.nodup hnames.1, fun hmem => hnames.2 (hsub.subset hmem), hreads⟩

theorem ReadsAs.mono {R R' : Nat → Validator → Prop} {fs : List (String × Value)} (h : ReadsAs R fs)
    (himp : ∀ n w, R n w → R' n w) : ReadsAs R' fs :=
  ⟨h.nodup, h.dialect, fun n => (h.reads n).mono (himp n)⟩

/-- A member that may be left out. -/
theorem sublist_segment (empty : Bool) (name : String) (v : Value) :
    ((if empty then [] else [(name, v)] : List (String × Value)).map Prod.fst).Sublist [name] := by
  cases empty with
  | true => exact List.nil_sublist _
  | false => exact List.Sublist.refl _

theorem sublist_boundField (keyword : String) (o : Option Num) :
    ((boundField keyword o).map Prod.fst).Sublist [keyword] := by
  cases o with
  | none => exact List.nil_sublist _
  | some n => exact List.Sublist.refl _

theorem sublist_stepField (steps : List Num) :
    ((stepField steps).map Prod.fst).Sublist ["multipleOf", "x-multipleOf"] := by
  rcases steps with _ | ⟨s, _ | ⟨s', steps⟩⟩
  · exact List.nil_sublist _
  · exact List.sublist_append_left ["multipleOf"] ["x-multipleOf"]
  · exact List.sublist_append_right ["multipleOf"] ["x-multipleOf"]

theorem sublist_numberFields (b : Bounds) :
    ((numberFields b).map Prod.fst).Sublist numberNames := by
  simp only [numberFields, List.map_append]
  exact .append (.append (.append (.append (.append (.refl _) (sublist_boundField _ _))
    (sublist_boundField _ _)) (sublist_boundField _ _)) (sublist_boundField _ _))
    (sublist_stepField _)

theorem sublist_arrayFields (least : Nat) (most : Option Nat) (node : Value) :
    ((arrayFields least most node).map Prod.fst).Sublist arrayNames := by
  have hleast := sublist_segment (least = 0) "minItems" (.int least)
  simp only [decide_eq_true_eq] at hleast
  simp only [arrayFields, List.map_append]
  refine .append (.append (.refl ["type", "items"]) hleast) ?_
  cases most with
  | none => exact List.nil_sublist _
  | some m => exact List.Sublist.refl _

/-- The names of an object's descriptor, in the order they are written in. -/
def fieldNames : List String :=
  ["type", "additionalProperties", "properties", "required", "patternProperties", "x-quantifiers"]

theorem sublist_fields (parts : ObjectParts) (additional : Option Value) :
    ((parts.fields additional.toList).map Prod.fst).Sublist fieldNames := by
  have hown : ((("type", Value.text "object") :: additional.toList.map fun v =>
      ("additionalProperties", v)).map Prod.fst).Sublist ["type", "additionalProperties"] := by
    cases additional with
    | none => exact List.sublist_append_left ["type"] ["additionalProperties"]
    | some v => exact List.Sublist.refl _
  simp only [ObjectParts.fields, List.map_append]
  exact .append (.append (.append (.append hown (sublist_segment _ _ _)) (sublist_segment _ _ _))
    (sublist_segment _ _ _)) (sublist_segment _ _ _)

theorem sublist_members {ds : List Described} (h : (ds.map (·.key.member)).Nodup) :
    ((Described.members ds).map Prod.fst).Sublist fieldNames := by
  rw [Described.members_eq_fields, inPart_additional h, ← Option.toList_map]
  exact sublist_fields _ _

/-! ## Rules -/

/-- **The descriptor of a rule** is read as what the rule comes back as. -/
theorem readsAs_leaf {rule : Leaf} (h : rule.Recoverable) :
    ∃ fs, rule.describe = .record fs ∧ ReadsAs (fun _ w => rule.ComesBackAs w) fs := by
  cases rule with
  | instanceOf c =>
    have htype : ∀ {name : String}, (Leaf.instanceOf c).describe = .record [("type", .text name)] →
        (∀ n, Reads n (.record [("type", .text name)]) fun w => (Leaf.instanceOf c).ComesBackAs w) →
        ∃ fs, (Leaf.instanceOf c).describe = .record fs ∧
          ReadsAs (fun _ w => (Leaf.instanceOf c).ComesBackAs w) fs :=
      fun hdescribe hreads => ⟨_, hdescribe, .of_sublist ["type"] (by decide) (.refl _) hreads⟩
    -- the six classes that JSON has a type for
    cases c with
    | host c => cases h
    | builtin b =>
      cases b with
      | str => exact htype rfl fun n => reads_leaf (fun _ _ => rfl) .text
      | int => exact htype rfl fun n => reads_leaf (fun _ _ => rfl) (.same _)
      | float => exact htype rfl fun n => reads_leaf (fun _ _ => rfl) .float
      | bool => exact htype rfl fun n => reads_leaf (fun _ _ => rfl) (.same _)
      | dict => exact htype rfl fun n => reads_leaf (fun _ _ => rfl) .dict
      | list => exact htype rfl fun n => reads_leaf (fun _ _ => rfl) .list
      | _ => cases h
  | regex r =>
    obtain ⟨hsource, hrule⟩ := h
    refine ⟨_, rfl, .of_sublist ["type", "pattern"] (by decide) (.refl _) fun n => ?_⟩
    exact reads_leaf (fun _ _ => decodeString_regex hsource hrule) (.same _)
  | literal x =>
    refine ⟨_, rfl, .of_sublist ["enum"] (by decide) (.refl _) fun n => ?_⟩
    exact reads_leaf (fun _ _ => rfl) (.literal x)
  | equals x =>
    refine ⟨_, rfl, .of_sublist ["const"] (by decide) (.refl _) fun n => ?_⟩
    cases x <;> exact reads_leaf (fun _ _ => rfl) (.same _)
  | null =>
    refine ⟨_, rfl, .of_sublist ["type"] (by decide) (.refl _) fun n => ?_⟩
    exact reads_leaf (fun _ _ => rfl) (.same _)
  | anything =>
    refine ⟨_, rfl, .of_sublist [] (by decide) (.refl _) fun n => ?_⟩
    exact reads_leaf (fun _ _ => rfl) (.same _)
  | number b =>
    refine ⟨_, rfl, .of_sublist numberNames (by decide) (sublist_numberFields b) fun n => ?_⟩
    refine (reads_number h).mono ?_
    rintro w rfl
    exact .same _
  | string =>
    refine ⟨_, rfl, .of_sublist ["type"] (by decide) (.refl _) fun n => ?_⟩
    exact reads_leaf (fun _ _ => rfl) (.same _)
  | stringOf rule =>
    refine ⟨_, rfl, .of_sublist ["type", "pattern"] (by decide) (.refl _) fun n => ?_⟩
    refine (reads_stringOf h).mono ?_
    rintro w (rfl | rfl)
    · exact .same _
    · exact .regex (Key.source_of_ofSource (CharsetRule.make_eq_ok h.2).2.2)
  | array =>
    refine ⟨_, rfl, .of_sublist ["type"] (by decide) (.refl _) fun n => ?_⟩
    exact reads_leaf (fun _ _ => rfl) (.same _)
  | sequenceLike x =>
    refine ⟨_, rfl, .of_sublist ["type", "enum"] (by decide) (.refl _) fun n => ?_⟩
    exact reads_leaf (fun _ _ => rfl) (.sequenceLike x)
  | mappingLike x =>
    refine ⟨_, rfl, .of_sublist ["type", "enum"] (by decide) (.refl _) fun n => ?_⟩
    exact reads_leaf (fun _ _ => rfl) (.mappingLike x)
  | mapping =>
    refine ⟨_, rfl, .of_sublist ["type"] (by decide) (.refl _) fun n => ?_⟩
    exact reads_leaf (fun _ _ => rfl) .mapping
  | reference x => cases h
  | callable => cases h

/-- **The descriptor of a rule that can be read back** is read as what the rule comes back as. -/
theorem readsAs_of_good {good : Leaf → Prop} (hgood : ∀ rule, good rule → rule.Recoverable) (rule : Leaf)
    (h : good rule) : ∃ fs, rule.describe = .record fs ∧
      ReadsAs (fun _ w => good rule ∧ rule.ComesBackAs w) fs := by
  obtain ⟨fs, hfs, hreads⟩ := readsAs_leaf (hgood rule h)
  exact ⟨fs, hfs, hreads.mono fun _ w hw => ⟨h, hw⟩⟩

/-! ## Choices, arrays and object patterns -/

variable {back : Leaf → Validator → Prop} {admitted : Key → Validator → Prop}

/-- The descriptor of a choice. -/
theorem readsAs_anyOf {vs : List Validator} {nodes : List Value} (hne : vs ≠ [])
    (h : List.Forall₂ (fun v node => ∃ fs, node = .record fs ∧
      ReadsAs (fun n => Validator.RebuiltAs back admitted n v) fs) vs nodes) :
    ReadsAs (fun n => Validator.RebuiltAs back admitted n (.anyOf vs)) [("anyOf", .list nodes)] := by
  refine .of_sublist ["anyOf"] (by decide) (.refl _) fun n => ?_
  have hnodes : List.Forall₂ (fun v node => Reads n node fun w =>
      Validator.RebuiltAs back admitted n v w) vs nodes := by
    refine h.imp ?_
    rintro v node ⟨fs, rfl, htold⟩
    exact htold.reads n
  refine (reads_anyOf hne hnodes).mono ?_
  rintro w ⟨ws, rfl, hws⟩
  obtain ⟨es, rfl, rfl, hes⟩ := hws.exists_columns
  exact .anyOf hes

/-- The descriptor of an array. -/
theorem readsAs_arrayOf {v : Validator} {node : Value}
    (h : ∃ fs, node = .record fs ∧ ReadsAs (fun n => Validator.RebuiltAs back admitted n v) fs)
    (least : Nat) (most : Option Nat) :
    ReadsAs (fun n => Validator.RebuiltAs back admitted n (.arrayOf v least most))
      (arrayFields least most node) := by
  obtain ⟨fs, rfl, htold⟩ := h
  refine .of_sublist arrayNames (by decide) (sublist_arrayFields _ _ _) fun n => ?_
  refine (reads_arrayOf (htold.reads n) least most).mono ?_
  rintro w ⟨item, rfl, hitem⟩
  exact .arrayOf least most hitem

section Object

variable {ps : List (Property Validator)} {ds : List Described}
  (hkeys : ∀ p ∈ ps, Key.ofWritten p.key.written = .ok p.key)
  (hmembers : ps.Pairwise fun p q => p.key.member ≠ q.key.member)
  (h : List.Forall₂ (Property.ToldAs back admitted) ps ds)
include h

theorem map_member_eq : ds.map (·.key.member) = ps.map (·.key.member) :=
  (h.map_eq_map fun _ _ htold => by rw [htold.key]).symm

include hkeys

/-- What is known of keys is known as it is written and read. -/
theorem forall_isRead : ∀ d ∈ ds, d.IsRead := by
  intro d hd
  obtain ⟨p, hp, htold⟩ := h.exists_left hd
  refine ⟨?_, htold.written, fun hrequired => ?_⟩
  · rw [htold.key]
    exact hkeys p hp
  · rw [htold.key]
    exact htold.required hrequired

include hmembers

/-- **The descriptor of an object pattern.** -/
theorem readsAs_object : describeObject ds = .record (Described.members ds) ∧
    ReadsAs (fun n => Validator.RebuiltAs back admitted n (.object ps)) (Described.members ds) := by
  have hnodup : (ps.map (·.key.member)).Nodup := List.pairwise_map.mpr hmembers
  have hdescribed : (ds.map (·.key.member)).Nodup := by rwa [map_member_eq h]
  refine ⟨describeObject_eq hdescribed, .of_sublist _ (by decide) (sublist_members hdescribed) ?_⟩
  intro n
  -- what is read under a key is what comes back of a rule that the key was told of
  let R : Described → Validator → Prop := fun d w =>
    ∃ p ∈ ps, p.ToldAs back admitted d ∧ Validator.RebuiltAs back admitted n p.rule w
  have hreads : ∀ d ∈ ds, Reads n d.descriptor (R d) := by
    intro d hd
    obtain ⟨p, hp, htold⟩ := h.exists_left hd
    obtain ⟨fs, hfs, hrule⟩ := htold.rule
    rw [hfs]
    exact (hrule.reads n).mono fun w hw => ⟨p, hp, htold, hw⟩
  have hobject := reads_byPart (forall_isRead hkeys h) hdescribed hreads
  rw [describeObject_eq hdescribed] at hobject
  refine hobject.mono ?_
  rintro w ⟨qs, rfl, hqs⟩
  have hordered : List.Forall₂ (Property.ToldAs back admitted) (Key.byPart (·.key) ps)
      (Key.byPart (·.key) ds) := Key.forall₂_byPart (fun _ _ htold => htold.key) h
  obtain ⟨es, hcolumn, rfl, hes⟩ := (hordered.comp hqs).exists_columns
  refine .object hkeys hmembers hcolumn (fun e he => ?_) fun e he => ?_
  · obtain ⟨d, htold, hrereads⟩ := hes e he
    have hkey := hrereads.key
    rw [htold.key] at hkey
    refine hkey.imp fun hliteral hexact hrequired => htold.admitted ?_ hrequired
    simp [Key.asksAbsence, hliteral, hexact]
  · obtain ⟨d, htold, hrereads⟩ := hes e he
    obtain ⟨p, hp, htold', hrule⟩ := hrereads.rule
    have hmem : e.1 ∈ ps := by
      rw [← Key.mem_byPart Property.key, ← hcolumn]
      exact List.mem_map_of_mem he
    have heq : p = e.1 := List.inj_on_of_nodup_map hnodup hp hmem (by rw [← htold'.key, htold.key])
    rwa [heq] at hrule

end Object

end Descriptor

/-! ## Whole validators -/

namespace Validator

open Descriptor (ReadsAs)

variable {env : Env} {absent : Key → Validator → Walk Bool} {follow : Validator → Walk Value}
  {good : Leaf → Prop} {back : Leaf → Validator → Prop} {kept admitted : Key → Validator → Prop}

/-- A key is written, with what `f` makes of the rule under it, if there is always an answer to whether
absence is admitted. -/
theorem exists_toldAs {f : Validator → Validator} (habsent : ∀ k u, ∃ b, (absent k u).outcome = .ok b)
    {p : Property Validator}
    (hadmits : (absent p.key p.rule).outcome = .ok true → admitted p.key (f p.rule))
    (hempty : p.key.written = "" → p.key.asksAbsence = true ∧ (absent p.key p.rule).outcome = .ok false)
    (h : ∃ fs, (p.rule.describe env absent follow).outcome = .ok (.record fs) ∧
      ReadsAs (fun n => RebuiltAs back admitted n (f p.rule)) fs) :
    ∃ d, p.DescribedBy env absent follow d ∧ (p.map f).bare.ToldAs back admitted d := by
  obtain ⟨fs, hfs, hreads⟩ := h
  refine ⟨_, p.describedBy hfs, rfl, ⟨fs, rfl, hreads⟩, fun hwritten => ?_, fun hrequired => ?_,
    fun hasks hrequired => hadmits ?_⟩
  · simpa using hempty hwritten
  · simp only [Bool.and_eq_true] at hrequired
    exact hrequired.1
  · -- there is an answer, and it is not that absence is refused
    obtain ⟨b, hb⟩ := habsent p.key p.rule
    have hasks : p.key.asksAbsence = true := hasks
    cases b with
    | true => exact hb
    | false => simp [hasks, hb] at hrequired

/-- **A validator has a descriptor, and it is read as what the validator is rebuilt as**, the sessions of
its references left out, if the descriptors of its rules are read as what these come back as.  Absence is
asked about what stands in the validator; what is admitted there counts for what is left of it, and the
absence of an empty key is refused. -/
theorem describe_rebuilt {S : Validator → Prop} (hparts : ∀ v w, S v → v.Part w → S w)
    (habsent : ∀ k u, ∃ b, (absent k u).outcome = .ok b)
    (hadmits : ∀ k u, S u → (absent k u).outcome = .ok true → admitted k u.release)
    (hkept : ∀ k u, S u → kept k u.release → k.written = "" → (absent k u).outcome = .ok false)
    (hgood : ∀ rule, good rule → ∃ fs, rule.describe = .record fs ∧ ReadsAs (fun _ => back rule) fs)
    {v : Validator} (hv : v.release.MadeOf good kept) (hs : S v) :
    ∃ fs, (v.describe env absent follow).outcome = .ok (.record fs) ∧
      ReadsAs (fun n => RebuiltAs back admitted n v.release) fs := by
  induction v using treeInduction with
  | leaf rule =>
    cases hv with
    | leaf hrule =>
    obtain ⟨fs, hfs, htold⟩ := hgood rule hrule
    refine ⟨fs, ?_, htold.mono fun _ w hw => .leaf hw⟩
    rw [describe, hfs]
    rfl
  | anyOf vs ih =>
    rw [release, releaseEach_eq_map] at hv ⊢
    cases hv with
    | anyOf hne hvs =>
    have heach : ∀ v ∈ vs, ∃ node, (v.describe env absent follow).outcome = .ok node ∧
        ∃ fs, node = .record fs ∧ ReadsAs (fun n => RebuiltAs back admitted n v.release) fs := by
      intro v hmem
      obtain ⟨fs, hfs, hreads⟩ := ih v hmem (List.forall_mem_map.mp hvs v hmem)
        (hparts _ _ hs (.alternative hmem))
      exact ⟨_, hfs, fs, rfl, hreads⟩
    obtain ⟨nodes, hnodes⟩ := List.Forall₂.exists_of_forall heach
    have hdescribed := describeEach_eq_ok_iff.mpr (hnodes.imp fun _ _ h => h.1)
    refine ⟨[("anyOf", .list nodes)], ?_, Descriptor.readsAs_anyOf hne ?_⟩
    · rw [describe, Walk.outcome_bind_of_ok hdescribed]
      rfl
    · exact List.forall₂_map_left_iff.mpr (hnodes.imp fun _ _ h => h.2)
  | object ps ih =>
    rw [release, releaseProperties_eq_map] at hv ⊢
    cases hv with
    | object hkeys hmembers hrules =>
    have heach : ∀ p ∈ ps, ∃ d, p.DescribedBy env absent follow d ∧
        (p.map release).bare.ToldAs back admitted d := by
      intro p hp
      have hpart := hparts _ _ hs (.property hp)
      obtain ⟨hkey, hkeep⟩ := List.forall_mem_map.mp hkeys p hp
      refine exists_toldAs habsent (hadmits p.key p.rule hpart) (fun hwritten => ?_)
        (ih p hp (List.forall_mem_map.mp hrules p hp) hpart)
      rw [Property.key_bare, Property.key_map, hwritten] at hkey
      exact ⟨Key.asksAbsence_of_empty hkey, hkept _ _ hpart hkeep hwritten⟩
    obtain ⟨ds, hds⟩ := List.Forall₂.exists_of_forall heach
    have hdescribed := (describeProperties_eq_ok_iff habsent).mpr (hds.imp fun _ _ h => h.1)
    obtain ⟨hfields, hreads⟩ := Descriptor.readsAs_object (fun p hp => (hkeys p hp).1) hmembers
      (List.forall₂_map_left_iff.mpr (hds.imp fun _ _ h => h.2))
    refine ⟨Described.members ds, ?_, hreads⟩
    rw [describe, Walk.outcome_bind_of_ok hdescribed, hfields]
    rfl
  | arrayOf items least most ih =>
    cases hv with
    | arrayOf _ _ hitems =>
    obtain ⟨fs, hfs, htold⟩ := ih hitems (hparts _ _ hs (.element items least most))
    refine ⟨Descriptor.arrayFields least most (.record fs), ?_,
      Descriptor.readsAs_arrayOf ⟨fs, rfl, htold⟩ least most⟩
    rw [describe, Walk.outcome_bind_of_ok hfs]
    rfl
  | selfRef own =>
    refine ⟨[("$ref", .text "#")], rfl, .of_sublist ["$ref"] (by decide) (.refl _) fun n => ?_⟩
    exact Descriptor.reads_leaf (fun _ _ => rfl) .selfRef
  | delegate t => cases hv
  | delegateTo t copy => cases hv
  | external e => cases hv

/-- **A validator has a descriptor, and it is read as what the validator comes back as**, if its rules can
be read back. -/
theorem describe_readsAs {S : Validator → Prop} (hparts : ∀ v w, S v → v.Part w → S w)
    (habsent : ∀ k u, ∃ b, (absent k u).outcome = .ok b)
    (hadmits : ∀ k u, S u → (absent k u).outcome = .ok true → admitted k u.release)
    (hkept : ∀ k u, S u → kept k u.release → k.written = "" → (absent k u).outcome = .ok false)
    (hgood : ∀ rule, good rule → rule.Recoverable) {v : Validator} (hv : v.release.MadeOf good kept)
    (hs : S v) :
    ∃ fs, (v.describe env absent follow).outcome = .ok (.record fs) ∧
      ReadsAs (fun n => ComesBackAs good admitted n v.release) fs :=
  describe_rebuilt hparts habsent hadmits hkept (Descriptor.readsAs_of_good hgood) hv hs

end Validator

end Conformance
