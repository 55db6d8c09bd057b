import Conformance.Proofs.Descriptor.ComingBack

/-!
# Descriptors of what comes back

What a validator comes back as has the same descriptor.  Signs that say the same are written alike, and
the order in which the keys come back is the one in which a descriptor lists them.

## Main Definitions

* `Described.Alike` — two keys that are written alike

## Main statements

* `describeObject_eq_of_alike` — keys that are written alike make the same descriptor, in the order of
  the parts
* `Validator.ComesBackAs.describe_eq` — what a validator comes back as has the same descriptor
-/

namespace Conformance

/-! ## Keys that say the same -/

namespace Key.SaysSame

variable {admitted : Prop} {k l : Key}

/-- They are written to the same member. -/
theorem member (h : SaysSame admitted k l) : l.member = k.member := by
  have hproperty : l.isProperty = k.isProperty := by
    unfold isProperty
    rw [h.isLiteral]
    cases h with
    | same _ heq => rw [heq]
    | anyNumber _ hliteral _ _ => rw [hliteral, Bool.false_and, Bool.false_and]
    | atMostOne _ _ hexact hoptional _ =>
      rw [hexact, hoptional]
      rfl
  rw [Key.member, Key.member, h.isCatchAll, hproperty, h.sourceText]

/-- They ask for their absence alike, unless it was admitted. -/
theorem asksAbsence (h : SaysSame admitted k l) :
    l.asksAbsence = k.asksAbsence ∨ (admitted ∧ l.asksAbsence = false) := by
  unfold Key.asksAbsence
  rw [h.isLiteral]
  cases h with
  | same _ heq => exact .inl (by rw [heq])
  | anyNumber _ hliteral _ _ => exact .inl (by rw [hliteral, Bool.false_and, Bool.false_and])
  | atMostOne _ _ _ hoptional hadmitted => exact .inr ⟨hadmitted, by simp [hoptional]⟩

end Key.SaysSame

/-! ## Keys that are written alike -/

/-- **Two keys are written alike**: to the same member, with the same descriptor, both as required or
neither, and among the pattern properties with the same sign. -/
structure Described.Alike (d d' : Described) : Prop where
  member : d'.key.member = d.key.member
  descriptor : d'.descriptor = d.descriptor
  required : d'.required = d.required
  sign : d.key.member.1 = "patternProperties" → d'.hasSign = d.hasSign ∧
    (d.hasSign = true → d'.key.quantifier = d.key.quantifier)

/-- Keys that say the same are written alike, with what is the same otherwise. -/
theorem Key.SaysSame.alike {admitted : Prop} {k l : Key} (h : SaysSame admitted k l) (node : Value)
    (required : Bool) : Described.Alike ⟨k, node, required⟩ ⟨l, node, required⟩ := by
  refine ⟨h.member, rfl, rfl, fun hpart => ?_⟩
  unfold Described.hasSign
  cases h with
  | same _ heq => exact ⟨by rw [heq], fun _ => heq⟩
  | anyNumber _ _ hexact hany => simp [hexact, hany]
  | atMostOne _ hliteral hexact _ _ =>
    -- a literal name without a sign is written to the properties
    obtain ⟨-, hproperty, -⟩ := Key.of_member_patterns hpart
    simp [Key.isProperty, hliteral, hexact] at hproperty

open Described (inPart)

/-- Each part has its keys in the order of the parts. -/
theorem inPart_byPart {part : String}
    (hpart : part = "properties" ∨ part = "patternProperties" ∨ part = "additionalProperties")
    (ds : List Described) : inPart part (Key.byPart (·.key) ds) = inPart part ds := by
  have hsame : ∀ part, inPart part (inPart part ds) = inPart part ds := by
    intro part
    simp only [inPart, List.filter_filter, Bool.and_self]
  have hother : ∀ part part', part ≠ part' → inPart part (inPart part' ds) = [] := by
    intro part part' hne
    refine List.filter_eq_nil_iff.mpr fun d hd => ?_
    rw [(Described.mem_inPart.mp hd).2, decide_eq_true_eq]
    exact hne.symm
  have hparts : inPart part (Key.byPart (·.key) ds) = inPart part (inPart "properties" ds) ++
      inPart part (inPart "patternProperties" ds) ++
      inPart part (inPart "additionalProperties" ds) := by
    rw [inPart, Key.byPart, List.filter_append, List.filter_append]
    rfl
  rw [hparts]
  rcases hpart with rfl | rfl | rfl
  · rw [hsame, hother _ _ (by decide), hother _ _ (by decide), List.append_nil, List.append_nil]
  · rw [hother _ _ (by decide), hsame, hother _ _ (by decide), List.nil_append, List.append_nil]
  · rw [hother _ _ (by decide), hother _ _ (by decide), hsame, List.nil_append, List.nil_append]

section Alike

variable {ds ds' : List Described} (h : List.Forall₂ Described.Alike ds ds')
include h

theorem entries_of_alike : Described.entries ds' = Described.entries ds :=
  (h.map_eq_map fun _ _ hd => by rw [hd.member, hd.descriptor]).symm

/-- The names that are listed as required are the same. -/
theorem required_of_alike : (ds'.filter (·.required)).map (fun d => Value.text d.key.member.2) =
    (ds.filter (·.required)).map fun d => .text d.key.member.2 :=
  ((h.filter fun _ _ hd => hd.required.symm).map_eq_map fun _ _ hd => by rw [hd.member]).symm

/-- The signs that are listed are the same. -/
theorem signs_of_alike (hpart : ∀ d ∈ ds, d.key.member.1 = "patternProperties") :
    (ds'.filter (·.hasSign)).map (fun d => (d.key.member.2, Value.text d.key.quantifier.symbol)) =
      (ds.filter (·.hasSign)).map fun d => (d.key.member.2, .text d.key.quantifier.symbol) := by
  have hboth : List.Forall₂ (fun d d' => d.key.member.1 = "patternProperties" ∧ d.Alike d') ds ds' :=
    (List.forall₂_and_left _ _).mpr ⟨hpart, h⟩
  have hsigns := hboth.filter (p := (·.hasSign)) (q := (·.hasSign)) fun _ _ hd => (hd.2.sign hd.1).1.symm
  have hkept : List.Forall₂ (fun d d' => d.hasSign = true ∧
      d.key.member.1 = "patternProperties" ∧ d.Alike d') (ds.filter (·.hasSign))
      (ds'.filter (·.hasSign)) :=
    (List.forall₂_and_left _ _).mpr ⟨fun _ hd => (List.mem_filter.mp hd).2, hsigns⟩
  exact (hkept.map_eq_map fun _ _ hd => by
    rw [hd.2.2.member, (hd.2.2.sign hd.2.1).2 hd.1]).symm

end Alike

/-- **Keys that are written alike make the same descriptor**, if those of one list stand in the order of
the parts of the other's descriptor. -/
theorem describeObject_eq_of_alike {ds ds' : List Described} (hnodup : (ds.map (·.key.member)).Nodup)
    (h : List.Forall₂ Described.Alike (Key.byPart (·.key) ds) ds') :
    describeObject ds' = describeObject ds := by
  have hnodup' : (ds'.map (·.key.member)).Nodup := by
    rw [← h.map_eq_map (f := (·.key.member)) fun _ _ hd => hd.member.symm]
    exact (((Key.perm_byPart _ ds).map _).nodup_iff).mpr hnodup
  have hpart : ∀ part, part = "properties" ∨ part = "patternProperties" ∨
      part = "additionalProperties" →
      List.Forall₂ Described.Alike (inPart part ds) (inPart part ds') := by
    intro part hpart
    rw [← inPart_byPart hpart ds]
    exact h.filter fun _ _ hd => by rw [hd.member]
  have hproperties := hpart "properties" (by decide)
  have hpatterns := hpart "patternProperties" (by decide)
  have hadditional := hpart "additionalProperties" (by decide)
  have hown : (inPart "additionalProperties" ds').map (fun d => ("additionalProperties", d.descriptor)) =
      (inPart "additionalProperties" ds).map fun d => ("additionalProperties", d.descriptor) :=
    (hadditional.map_eq_map fun _ _ hd => by rw [hd.descriptor]).symm
  have hparts : ObjectParts.ofKeys ds' = ObjectParts.ofKeys ds := by
    simp only [ObjectParts.ofKeys, hown, entries_of_alike hproperties, entries_of_alike hpatterns,
      required_of_alike hproperties,
      signs_of_alike hpatterns fun _ hd => (Described.mem_inPart.mp hd).2]
  unfold describeObject
  rw [← ObjectParts.start, ObjectParts.foldl_add hnodup, ObjectParts.foldl_add hnodup', hparts]

/-! ## Validators that come back -/

/-- What a rule comes back as has the same descriptor. -/
theorem Leaf.ComesBackAs.describe {rule : Leaf} {w : Validator} (h : rule.ComesBackAs w) (env : Env)
    (absent : Key → Validator → Walk Bool) (follow : Validator → Walk Value) :
    (w.describe env absent follow).outcome = .ok rule.describe := by
  cases h with
  | regex hsource =>
    rw [Validator.describe, Leaf.describe, Leaf.describe, hsource]
    rfl
  | literal x | sequenceLike x | mappingLike x =>
    rw [Validator.describe, Leaf.describe, Leaf.describe, Value.jsonable_jsonable]
    rfl
  | _ => rfl

namespace Validator.ComesBackAs

variable {good : Leaf → Prop} {admitted : Key → Validator → Prop} {n : Nat} {env env' : Env}
  {absent absent' : Key → Validator → Walk Bool} {follow follow' : Validator → Walk Value}

/-- A key that says the same, with a rule that has the same descriptor, is described alike. -/
theorem exists_describedBy {p q : Property Validator} {d : Described}
    (hd : p.DescribedBy env absent follow d)
    (hkey : Key.SaysSame (admitted p.key p.rule) p.key q.key)
    (hadmitted : admitted p.key p.rule → (absent p.key p.rule).outcome ≠ .ok false)
    (habsent : (absent' q.key q.rule).outcome = (absent p.key p.rule).outcome)
    (hrule : (q.rule.describe env' absent' follow').outcome = .ok d.descriptor) :
    ∃ d', q.DescribedBy env' absent' follow' d' ∧ d.Alike d' := by
  refine ⟨⟨q.key, d.descriptor, d.required⟩, ⟨rfl, hrule, ?_⟩, ?_⟩
  · rw [habsent, hd.required]
    rcases hkey.asksAbsence with hasks | ⟨hadmits, hasks⟩
    · rw [hasks]
    · -- what was admitted to be absent is not required, and the key does not ask any more
      rw [hasks]
      exact iff_of_false (fun h => hadmitted hadmits h.2) fun h => Bool.false_ne_true h.1
  · obtain ⟨dkey, node, required⟩ := d
    obtain rfl : dkey = p.key := hd.key
    exact hkey.alike node required

/-- **What a validator comes back as has the same descriptor**, if absence is answered alike. -/
theorem describe_eq {v w : Validator} (h : ComesBackAs good admitted n v w)
    (hanswer : ∀ k u, ∃ b, (absent k u).outcome = .ok b)
    (hadmitted : ∀ k u, admitted k u → (absent k u).outcome ≠ .ok false)
    (habsent : ∀ k l u u', ComesBackAs good admitted n u u' →
      (absent' l u').outcome = (absent k u).outcome)
    (hanswer' : ∀ k u, ∃ b, (absent' k u).outcome = .ok b)
    {D : Value} (hD : (v.describe env absent follow).outcome = .ok D) :
    (w.describe env' absent' follow').outcome = .ok D := by
  induction h generalizing D with
  | leaf hrule =>
    cases hD
    exact hrule.2.describe env' absent' follow'
  | @anyOf es _ ih =>
    obtain ⟨nodes, hnodes, hD⟩ := Walk.bind_eq_ok_iff.mp hD
    cases hD
    have hback : (describeEach env' absent' follow' (es.map Prod.snd)).outcome = .ok nodes := by
      refine describeEach_eq_ok_iff.mpr (List.forall₂_map_left_iff.mpr ?_)
      have heach := List.forall₂_map_left_iff.mp (describeEach_eq_ok_iff.mp hnodes)
      refine ((List.forall₂_and_left _ _).mpr ⟨fun e he => he, heach⟩).imp ?_
      exact fun e node hnode => ih e hnode.1 hnode.2
    rw [describe, Walk.outcome_bind_of_ok hback]
    rfl
  | @object ps es hkeys hmembers hcolumn hsame hrules ih =>
    obtain ⟨ds, hds, hD⟩ := Walk.bind_eq_ok_iff.mp hD
    cases hD
    have hds := (describeProperties_eq_ok_iff hanswer).mp hds
    have hnodup : (ds.map (·.key.member)).Nodup := by
      rw [← hds.map_eq_map (f := (·.key.member)) fun _ _ hd => by rw [hd.key]]
      exact List.pairwise_map.mpr hmembers
    -- the keys that come back stand in the order of the parts, and so does what is known of them
    have hordered : List.Forall₂ (fun e d => Property.DescribedBy env absent follow e.1 d) es
        (Key.byPart (·.key) ds) := by
      refine List.forall₂_map_left_iff.mp ?_
      rw [hcolumn]
      exact Key.forall₂_byPart (fun _ _ hd => hd.key) hds
    have heach : List.Forall₂ (fun e d => ∃ d', Property.DescribedBy env' absent' follow' e.2 d' ∧
        d.Alike d') es (Key.byPart (·.key) ds) := by
      refine ((List.forall₂_and_left _ _).mpr ⟨fun e he => he, hordered⟩).imp ?_
      rintro e d ⟨he, hd⟩
      exact exists_describedBy hd (hsame e he) (hadmitted _ _) (habsent _ _ _ _ (hrules e he))
        (ih e he hd.node)
    obtain ⟨ds', hback, halike⟩ := heach.exists_between
    have hback' : (describeProperties env' absent' follow' (es.map Prod.snd)).outcome = .ok ds' :=
      (describeProperties_eq_ok_iff hanswer').mpr (List.forall₂_map_left_iff.mpr hback)
    rw [describe, Walk.outcome_bind_of_ok hback', ← describeObject_eq_of_alike hnodup halike]
    rfl
  | arrayOf least most _ ih =>
    obtain ⟨node, hnode, hD⟩ := Walk.bind_eq_ok_iff.mp hD
    cases hD
    rw [describe, Walk.outcome_bind_of_ok (ih hnode)]
    rfl
  | selfRef =>
    cases hD
    rfl

end Validator.ComesBackAs

end Conformance
