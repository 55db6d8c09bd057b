import Conformance.Proofs.Descriptor.Objects
import Mathlib.Data.List.Dedup

/-!
# What is written over

Keys of an object pattern that are written to the same member of its descriptor write over one another.
The descriptor has a node for every member that some key is written to, and the node is the one of the
key that was written there last.

## Main Definitions

* `Entries.Records` — a dictionary with texts as keys, and what it has under each
* `Described.last` — the key that was written to a member last
* `Descriptor.held` — the nodes that the descriptor of an object pattern holds
* `Descriptor.required`, `Descriptor.signs` — the names and the quantifiers it lists

## Main statements

* `Descriptor.mem_held_describeObject` — the nodes are those of the keys that were written last
* `Descriptor.length_held_eq_iff` — no node is missing if the members are pairwise different
-/

/-- Where no key is repeated, the last member with a key is the only one. -/
theorem List.find?_reverse_eq_some_iff {α β : Type} [DecidableEq β] {key : α → β} {as : List α}
    (hnodup : (as.map key).Nodup) {k : β} {a : α} :
    as.reverse.find? (fun a => key a = k) = some a ↔ a ∈ as ∧ key a = k := by
  constructor
  · intro h
    exact ⟨List.mem_reverse.mp (List.mem_of_find?_eq_some h), by simpa using List.find?_some h⟩
  · rintro ⟨ha, rfl⟩
    have hsome : (as.reverse.find? fun b => key b = key a).isSome = true :=
      List.find?_isSome.mpr ⟨a, List.mem_reverse.mpr ha, by simp⟩
    obtain ⟨b, hb⟩ := Option.isSome_iff_exists.mp hsome
    have hmem : b ∈ as := List.mem_reverse.mp (List.mem_of_find?_eq_some hb)
    have hkey : key b = key a := by simpa using List.find?_some hb
    rw [hb, List.inj_on_of_nodup_map hnodup hmem ha hkey]

namespace Conformance

/-! ## Dictionaries with texts as keys -/

namespace Entries

variable {α : Type} {f : String → Option α} {es : List (Value × α)}

/-- **A dictionary records what `f` says**: its keys are texts without repetition, and under each text
it has what `f` says. -/
def Records (f : String → Option α) (es : List (Value × α)) : Prop :=
  ∃ fs, es = ofTexts fs ∧ (fs.map Prod.fst).Nodup ∧ ∀ name, fs.lookup name = f name

theorem Records.congr {g : String → Option α} (h : Records f es) (hfg : ∀ name, f name = g name) :
    Records g es := by
  obtain ⟨fs, hes, hnodup, hlookup⟩ := h
  exact ⟨fs, hes, hnodup, fun name => (hlookup name).trans (hfg name)⟩

/-- What is found under a name: the first entry's, or what is found in the others. -/
theorem lookup_cons (name k : String) (b : α) (fs : List (String × α)) :
    ((k, b) :: fs).lookup name = if name = k then some b else fs.lookup name := by
  rw [List.lookup_cons]
  by_cases h : name = k
  · rw [if_pos h, beq_iff_eq.mpr h]
  · rw [if_neg h, beq_eq_false_iff_ne.mpr h]

/-- Where no name is repeated, what stands under a name is what is found there. -/
theorem mem_iff_lookup {fs : List (String × α)} (hnodup : (fs.map Prod.fst).Nodup) {name : String}
    {a : α} : (name, a) ∈ fs ↔ fs.lookup name = some a := by
  induction fs with
  | nil => simp
  | cons e fs ih =>
    obtain ⟨k, b⟩ := e
    obtain ⟨hk, hfs⟩ := List.nodup_cons.mp hnodup
    rw [lookup_cons, List.mem_cons, ih hfs]
    by_cases hname : name = k
    · have hnone : fs.lookup name ≠ some a := fun hfound =>
        hk (List.mem_map.mpr ⟨(name, a), (ih hfs).mpr hfound, hname⟩)
      simp [hname, hname ▸ hnone, eq_comm]
    · simp [hname]

/-- What a dictionary records is what stands in it. -/
theorem Records.mem_iff (h : Records f es) {name : String} {a : α} :
    (.text name, a) ∈ es ↔ f name = some a := by
  obtain ⟨fs, rfl, hnodup, hlookup⟩ := h
  rw [← hlookup, ← mem_iff_lookup hnodup, ofTexts, List.mem_map]
  constructor
  · rintro ⟨⟨k, b⟩, hmem, heq⟩
    obtain ⟨hk, rfl⟩ := Prod.mk.inj heq
    rwa [← Value.text.inj hk]
  · exact fun hmem => ⟨(name, a), hmem, rfl⟩

/-- **Writing under a name** keeps every other name as it is. -/
theorem Records.insert (h : Records f es) (name : String) (a : α) :
    Records (fun k => if k = name then some a else f k) (Entries.insert (.text name) a es) := by
  obtain ⟨fs, rfl, hnodup, hlookup⟩ := h
  have hwritten : ∃ gs, Entries.insert (.text name) a (ofTexts fs) = ofTexts gs ∧
      (gs.map Prod.fst).Nodup ∧ (∀ k ∈ gs.map Prod.fst, k = name ∨ k ∈ fs.map Prod.fst) ∧
      ∀ k, gs.lookup k = if k = name then some a else fs.lookup k := by
    clear hlookup
    induction fs with
    | nil => exact ⟨[(name, a)], rfl, by simp, by simp, fun k => lookup_cons k name a []⟩
    | cons e fs ih =>
      obtain ⟨k, b⟩ := e
      obtain ⟨hk, hfs⟩ := List.nodup_cons.mp hnodup
      rw [ofTexts, List.map_cons, Entries.insert, keyEq_text, ← ofTexts]
      by_cases hsame : k = name
      · subst hsame
        refine ⟨(k, a) :: fs, by rw [beq_self_eq_true]; rfl, hnodup, fun _ => .inr, fun k' => ?_⟩
        rw [lookup_cons, lookup_cons]
        split <;> rfl
      · obtain ⟨gs, hgs, hgsNodup, hnames, hgsLookup⟩ := ih hfs
        have hdiffer : (k == name) = false := beq_eq_false_iff_ne.mpr hsame
        refine ⟨(k, b) :: gs, by rw [hdiffer, hgs]; rfl, ?_, ?_, fun k' => ?_⟩
        · refine List.nodup_cons.mpr ⟨fun hmem => ?_, hgsNodup⟩
          exact (hnames k hmem).elim hsame hk
        · refine List.forall_mem_cons.mpr ⟨.inr List.mem_cons_self, fun k' hk' => ?_⟩
          exact (hnames k' hk').imp id (List.mem_cons_of_mem k)
        · rw [lookup_cons, lookup_cons, hgsLookup]
          by_cases hk' : k' = k
          · rw [if_pos hk', if_pos hk', if_neg (hk' ▸ hsame)]
          · rw [if_neg hk', if_neg hk']
  obtain ⟨gs, hgs, hgsNodup, -, hgsLookup⟩ := hwritten
  exact ⟨gs, hgs, hgsNodup, fun k => by rw [hgsLookup, hlookup]⟩

end Entries

/-! ## Keys written one after another -/

namespace Described

variable {ds : List Described} {d : Described} {m : String × String}

/-- **The key that was written to a member last.** -/
def last (m : String × String) (ds : List Described) : Option Described :=
  ds.reverse.find? fun d => d.key.member = m

theorem last_concat (m : String × String) (ds : List Described) (d : Described) :
    last m (ds ++ [d]) = if d.key.member = m then some d else last m ds := by
  rw [last, List.reverse_append, List.reverse_singleton, List.singleton_append, List.find?_cons]
  by_cases h : d.key.member = m <;> simp [h, last]

/-- The last key that is written to a member is written there. -/
theorem member_of_last (h : last m ds = some d) : d.key.member = m := by
  simpa using List.find?_some h

theorem mem_of_last (h : last m ds = some d) : d ∈ ds :=
  List.mem_reverse.mp (List.mem_of_find?_eq_some h)

/-- Some key was written to a member last if any was. -/
theorem isSome_last : (last m ds).isSome = true ↔ m ∈ ds.map (·.key.member) := by
  rw [last, List.find?_isSome, List.mem_map]
  simp

/-- A key that is alone with its member is the last one there. -/
theorem last_eq_some_iff_mem (hnodup : (ds.map (·.key.member)).Nodup) :
    last m ds = some d ↔ d ∈ ds ∧ d.key.member = m :=
  List.find?_reverse_eq_some_iff hnodup

end Described

/-! ## The parts of a descriptor -/

open Described (inPart last)

/-- **What the parts of an object's descriptor record** once some keys were taken in, whether they write
over one another or not. -/
structure ObjectParts.Written (ds : List Described) (parts : ObjectParts) : Prop where
  own : parts.own = Entries.ofTexts (("type", .text "object") ::
    ((last ("additionalProperties", "") ds).map (·.descriptor)).toList.map fun v =>
      ("additionalProperties", v))
  properties : Entries.Records (fun name => (last ("properties", name) ds).map (·.descriptor))
    parts.properties
  required : parts.required =
    ((inPart "properties" ds).filter (·.required)).map fun d => .text d.key.member.2
  patterns : Entries.Records (fun name => (last ("patternProperties", name) ds).map (·.descriptor))
    parts.patterns
  quantifiers : Entries.Records (fun name =>
    (last ("patternProperties", name) (ds.filter (·.hasSign))).map fun d =>
      .text d.key.quantifier.symbol) parts.quantifiers

namespace ObjectParts

variable {ds : List Described} {d : Described} {parts : ObjectParts}

/-- **Taking in one more key**, which may be written over others. -/
theorem Written.add (h : Written ds parts) (d : Described) : Written (ds ++ [d]) (parts.add d) := by
  obtain ⟨hown, hproperties, hrequired, hpatterns, hquantifiers⟩ := h
  rcases Key.member_cases d.key with ⟨hcatch, hm⟩ | ⟨hcatch, hproperty, hm⟩ | ⟨hcatch, hproperty, hm⟩
  · have hadd : parts.add d =
        { parts with own := putMember "additionalProperties" d.descriptor parts.own } := by
      rw [ObjectParts.add, if_pos hcatch]
    rw [hadd]
    refine ⟨?_, ?_, ?_, ?_, ?_⟩
    · simp only [putMember, hown, Described.last_concat, hm]
      cases last ("additionalProperties", "") ds <;>
        simp [Entries.insert, Entries.ofTexts, Entries.keyEq_text]
    · exact hproperties.congr fun name => by simp [Described.last_concat, hm]
    · simp [hrequired, inPart_concat, hm]
    · exact hpatterns.congr fun name => by simp [Described.last_concat, hm]
    · refine hquantifiers.congr fun name => ?_
      cases hsign : d.hasSign <;> simp [List.filter_append, hsign, Described.last_concat, hm]
  · have hadd : parts.add d =
        { parts with
          properties := putMember d.key.sourceText d.descriptor parts.properties
          required := if d.required then parts.required ++ [.text d.key.sourceText]
            else parts.required } := by
      rw [ObjectParts.add, if_neg (by simp [hcatch]), if_pos hproperty]
    rw [hadd]
    refine ⟨?_, ?_, ?_, ?_, ?_⟩
    · simp [hown, Described.last_concat, hm]
    · refine (hproperties.insert d.key.sourceText d.descriptor).congr fun name => ?_
      by_cases hname : name = d.key.sourceText
      · simp [Described.last_concat, hm, hname]
      · simp [Described.last_concat, hm, hname, Ne.symm hname]
    · cases hreq : d.required <;> simp [hrequired, inPart_concat, hm, hreq]
    · exact hpatterns.congr fun name => by simp [Described.last_concat, hm]
    · refine hquantifiers.congr fun name => ?_
      cases hsign : d.hasSign <;> simp [List.filter_append, hsign, Described.last_concat, hm]
  · have hadd : parts.add d =
        { parts with
          patterns := putMember (anchored d.key.sourceText) d.descriptor parts.patterns
          quantifiers := if d.hasSign then
              putMember (anchored d.key.sourceText) (.text d.key.quantifier.symbol) parts.quantifiers
            else parts.quantifiers } := by
      rw [ObjectParts.add, if_neg (by simp [hcatch]), if_neg (by simp [hproperty])]
      rfl
    rw [hadd]
    refine ⟨?_, ?_, ?_, ?_, ?_⟩
    · simp [hown, Described.last_concat, hm]
    · exact hproperties.congr fun name => by simp [Described.last_concat, hm]
    · simp [hrequired, inPart_concat, hm]
    · refine (hpatterns.insert (anchored d.key.sourceText) d.descriptor).congr fun name => ?_
      by_cases hname : name = anchored d.key.sourceText
      · simp [Described.last_concat, hm, hname]
      · simp [Described.last_concat, hm, hname, Ne.symm hname]
    · cases hsign : d.hasSign with
      | false => simpa [List.filter_append, hsign] using hquantifiers
      | true =>
        refine (hquantifiers.insert (anchored d.key.sourceText)
          (.text d.key.quantifier.symbol)).congr fun name => ?_
        by_cases hname : name = anchored d.key.sourceText
        · simp [List.filter_append, hsign, Described.last_concat, hm, hname]
        · simp [List.filter_append, hsign, Described.last_concat, hm, hname, Ne.symm hname]

/-- **What the parts of an object's descriptor record.** -/
theorem written_foldl (ds : List Described) : Written ds (ds.foldl add start) := by
  induction ds using List.reverseRecOn with
  | nil =>
    refine ⟨rfl, ?_, rfl, ?_, ?_⟩ <;> exact ⟨[], rfl, List.nodup_nil, fun _ => rfl⟩
  | append_singleton ds d ih =>
    rw [List.foldl_append]
    exact ih.add d

end ObjectParts

/-! ## What a descriptor holds -/

namespace Descriptor

/-- The members of a descriptor. -/
def membersOf : Value → Members
  | .mapping .dict _ ms => ms
  | _ => []

/-- Nodes under names, each with the member that it stands in. -/
def heldIn (part : String) (nodes : Members) : List ((String × String) × Value) :=
  nodes.map fun e => ((part, e.1.nameText), e.2)

/-- **The nodes that the descriptor of an object pattern holds**, each with the member that it stands
in. -/
def held (descriptor : Value) : List ((String × String) × Value) :=
  ((member? "additionalProperties" (membersOf descriptor)).toList.map fun v =>
    (("additionalProperties", ""), v)) ++
  heldIn "properties" ((part? "properties" (membersOf descriptor)).getD []) ++
  heldIn "patternProperties" ((part? "patternProperties" (membersOf descriptor)).getD [])

/-- The names that a descriptor lists as required. -/
def required (descriptor : Value) : List Value :=
  match member? "required" (membersOf descriptor) with
  | some (.seq .list _ names) => names
  | _ => []

/-- The quantifiers that a descriptor lists. -/
def signs (descriptor : Value) : Members :=
  (part? "x-quantifiers" (membersOf descriptor)).getD []

section HeldIn

variable {f : String → Option Value} {nodes : Members}

theorem mem_heldIn (h : Entries.Records f nodes) {part : String} {m : String × String} {v : Value} :
    (m, v) ∈ heldIn part nodes ↔ m.1 = part ∧ f m.2 = some v := by
  obtain ⟨fs, rfl, hnodup, hlookup⟩ := h
  rw [heldIn, Entries.ofTexts, List.map_map, List.mem_map, ← hlookup, ← Entries.mem_iff_lookup hnodup]
  constructor
  · rintro ⟨⟨name, w⟩, hmem, heq⟩
    obtain ⟨rfl, rfl⟩ := Prod.mk.inj heq
    exact ⟨rfl, hmem⟩
  · rintro ⟨rfl, hmem⟩
    exact ⟨(m.2, v), hmem, rfl⟩

theorem nodup_heldIn (h : Entries.Records f nodes) (part : String) :
    ((heldIn part nodes).map Prod.fst).Nodup := by
  obtain ⟨fs, rfl, hnodup, -⟩ := h
  have hmap : (heldIn part (Entries.ofTexts fs)).map Prod.fst =
      (fs.map Prod.fst).map fun name => (part, name) := by
    rw [heldIn, Entries.ofTexts, List.map_map, List.map_map, List.map_map]
    rfl
  rw [hmap]
  exact hnodup.map fun _ _ h => (Prod.mk.inj h).2

end HeldIn

variable {ds : List Described}

/-- What is looked up in the descriptor of an object pattern. -/
theorem parts_describeObject (ds : List Described) :
    let parts := ds.foldl ObjectParts.add ObjectParts.start
    let ms := membersOf (describeObject ds)
    member? "additionalProperties" ms = (last ("additionalProperties", "") ds).map (·.descriptor) ∧
    part? "properties" ms = some parts.properties ∧
    part? "patternProperties" ms = some parts.patterns ∧
    required (describeObject ds) = parts.required ∧
    signs (describeObject ds) = parts.quantifiers := by
  intro parts ms
  have hms : ms = Entries.ofTexts
      (parts.fields ((last ("additionalProperties", "") ds).map (·.descriptor)).toList) := by
    rw [show ms = membersOf (describeObject ds) from rfl,
      describeObject_eq_fields (ObjectParts.written_foldl ds).own]
    rfl
  obtain ⟨-, hproperties, hrequired, hpatterns, hquantifiers, hadditional⟩ :=
    lookup_fields parts ((last ("additionalProperties", "") ds).map (·.descriptor)).toList
  refine ⟨?_, ?_, ?_, ?_, ?_⟩
  · rw [hms, member?, Entries.find?_ofTexts, hadditional, Option.head?_toList]
  · rw [hms, part?_of_lookup hproperties]
  · rw [hms, part?_of_lookup hpatterns]
  · rw [required, show membersOf (describeObject ds) = ms from rfl, hms, member?,
      Entries.find?_ofTexts, hrequired]
    cases parts.required <;> rfl
  · rw [signs, show membersOf (describeObject ds) = ms from rfl, hms, part?_of_lookup hquantifiers]
    rfl

/-- **The nodes of an object's descriptor** are those of the keys that were written last. -/
theorem mem_held_describeObject {m : String × String} {v : Value} :
    (m, v) ∈ held (describeObject ds) ↔ ∃ d, last m ds = some d ∧ d.descriptor = v := by
  obtain ⟨hadditional, hproperties, hpatterns, -⟩ := parts_describeObject ds
  have hwritten := ObjectParts.written_foldl ds
  rw [held, hadditional, hproperties, hpatterns, Option.getD_some, Option.getD_some,
    List.mem_append, List.mem_append, mem_heldIn hwritten.properties, mem_heldIn hwritten.patterns]
  simp only [List.mem_map, Option.mem_toList, Option.map_eq_some_iff]
  constructor
  · rintro ((⟨v, ⟨d, hd, rfl⟩, heq⟩ | ⟨hpart, hd⟩) | ⟨hpart, hd⟩)
    · obtain ⟨rfl, rfl⟩ := Prod.mk.inj heq
      exact ⟨d, hd, rfl⟩
    · rwa [← hpart] at hd
    · rwa [← hpart] at hd
  · rintro ⟨d, hd, rfl⟩
    have hm := Described.member_of_last hd
    rcases Key.member_cases d.key with ⟨-, hmember⟩ | ⟨-, -, hmember⟩ | ⟨-, -, hmember⟩
    · rw [← hm, hmember] at hd ⊢
      exact .inl (.inl ⟨_, ⟨d, hd, rfl⟩, rfl⟩)
    · rw [← hm, hmember] at hd ⊢
      exact .inl (.inr ⟨rfl, d, hd, rfl⟩)
    · rw [← hm, hmember] at hd ⊢
      exact .inr ⟨rfl, d, hd, rfl⟩

/-- No two nodes of an object's descriptor stand in the same member. -/
theorem nodup_held_describeObject (ds : List Described) :
    ((held (describeObject ds)).map Prod.fst).Nodup := by
  obtain ⟨hadditional, hproperties, hpatterns, -⟩ := parts_describeObject ds
  have hwritten := ObjectParts.written_foldl ds
  have hin : ∀ part nodes, ∀ m ∈ (heldIn part nodes).map Prod.fst, m.1 = part := by
    intro part nodes m hm
    simp only [heldIn, List.map_map, List.mem_map] at hm
    obtain ⟨e, -, rfl⟩ := hm
    rfl
  rw [held, hadditional, hproperties, hpatterns, Option.getD_some, Option.getD_some, List.map_append,
    List.map_append]
  refine List.nodup_append.mpr ⟨List.nodup_append.mpr ⟨?_, nodup_heldIn hwritten.properties _, ?_⟩,
    nodup_heldIn hwritten.patterns _, ?_⟩
  · cases last ("additionalProperties", "") ds <;> simp
  · intro m hm m' hm' heq
    have hpart := hin _ _ m' hm'
    simp only [List.map_map, List.mem_map] at hm
    obtain ⟨v, -, rfl⟩ := hm
    rw [← heq] at hpart
    exact absurd hpart (by simp)
  · intro m hm m' hm' heq
    have hpart := hin _ _ m' hm'
    rw [← heq] at hpart
    rcases List.mem_append.mp hm with hm | hm
    · simp only [List.map_map, List.mem_map] at hm
      obtain ⟨v, -, rfl⟩ := hm
      exact absurd hpart (by simp)
    · rw [hin _ _ m hm] at hpart
      exact absurd hpart (by decide)

/-- The members that hold a node are those that some key is written to, each once. -/
theorem perm_members_held (ds : List Described) :
    ((held (describeObject ds)).map Prod.fst).Perm (ds.map (·.key.member)).dedup := by
  refine (List.perm_ext_iff_of_nodup (nodup_held_describeObject ds) (List.nodup_dedup _)).mpr ?_
  intro m
  rw [List.mem_dedup, ← Described.isSome_last, Option.isSome_iff_exists, List.mem_map]
  constructor
  · rintro ⟨⟨m, v⟩, hmem, rfl⟩
    obtain ⟨d, hd, -⟩ := mem_held_describeObject.mp hmem
    exact ⟨d, hd⟩
  · rintro ⟨d, hd⟩
    exact ⟨(m, d.descriptor), mem_held_describeObject.mpr ⟨d, hd, rfl⟩, rfl⟩

/-- **An object's descriptor has a node for each key** exactly when the keys are written to pairwise
different members. -/
theorem length_held_eq_iff (ds : List Described) :
    (held (describeObject ds)).length = ds.length ↔ (ds.map (·.key.member)).Nodup := by
  have hlength := (perm_members_held ds).length_eq
  rw [List.length_map] at hlength
  have hcount : (ds.map (·.key.member)).length = ds.length := List.length_map _
  rw [hlength, ← hcount]
  constructor
  · intro h
    rw [← (List.dedup_sublist _).eq_of_length h]
    exact List.nodup_dedup _
  · exact fun h => by rw [h.dedup]

end Descriptor

end Conformance
