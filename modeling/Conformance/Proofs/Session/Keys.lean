import Conformance.Proofs.Descriptor.Recovering
import Conformance.Proofs.Session.RoundTrip

/-!
# Keys that are lost in a descriptor

The descriptor of an object pattern has one node for each member that a key is written to.  Two keys
with the same member, such as a required and an optional name, share the node of the one that was
written last; what stands under the other is lost.

## Main Definitions

* `Property.last` — the key of an object pattern that is written to a member last
* `Schema.KeepsKeys` — a descriptor that tells of every key, and is read back key by key

## Main statements

* `Schema.describe_mapping` — what the descriptor of a mapping holds, and when no key is lost
-/

namespace Conformance

/-- **The key of an object pattern that is written to a member last.** -/
def Property.last (m : String × String) (ps : List (Property Validator)) :
    Option (Property Validator) :=
  ps.reverse.find? fun p => p.key.member = m

/-- **What is written of a key**: its descriptor, and whether a property of its name is listed as
required. -/
structure Property.IsDescribed (env : Env) (p : Property Validator) (d : Described) : Prop where
  key : d.key = p.key
  node : (env.describe p.rule).outcome = .ok d.descriptor
  required : d.required = true ↔
    p.key.asksAbsence = true ∧ (env.admitsAbsence p.key p.rule).outcome = .ok false

namespace Env

/-- **The descriptor of an object pattern** is put together from what is known of its keys. -/
theorem exists_of_describe_object {env : Env} {ps : List (Property Validator)} {D : Value}
    (h : (env.describe (.object ps)).outcome = .ok D) :
    ∃ ds, List.Forall₂ (Property.IsDescribed env) ps ds ∧ D = describeObject ds := by
  rw [describe, show depthLimit = 999 + 1 from rfl, describeTo, Validator.describe] at h
  obtain ⟨ds, hds, hD⟩ := Walk.bind_eq_ok_iff.mp h
  cases hD
  refine ⟨ds, ((Validator.describeProperties_eq_ok_iff env.exists_admitsAbsence).mp hds).imp ?_, rfl⟩
  rintro p d ⟨hkey, hnode, hrequired⟩
  exact ⟨hkey, hnode, hrequired⟩

end Env

/-! ### What is written last -/

section Last

variable {R : Property Validator → Described → Prop} {ps : List (Property Validator)}
  {ds : List Described} (h : List.Forall₂ R ps ds) (hkey : ∀ p d, R p d → d.key = p.key)
include h hkey

/-- What is known of the key that is written last is what is known last. -/
theorem last_rel (m : String × String) :
    Option.Rel R (Property.last m ps) (Described.last m ds) := by
  refine (List.forall₂_reverse_iff.mpr h).find?_rel fun p d hd => ?_
  rw [hkey p d hd]

end Last

section Described

variable {env : Env} {ps : List (Property Validator)} {ds : List Described}
  (h : List.Forall₂ (Property.IsDescribed env) ps ds)
include h

theorem map_member_of_described : ds.map (·.key.member) = ps.map (·.key.member) :=
  (h.map_eq_map fun _ _ hd => by rw [hd.key]).symm

/-- **The nodes of the descriptor** are those of the keys that are written last. -/
theorem mem_held_of_described {m : String × String} {v : Value} :
    (m, v) ∈ Descriptor.held (describeObject ds) ↔
      ∃ p, Property.last m ps = some p ∧ (env.describe p.rule).outcome = .ok v := by
  have hkey : ∀ p d, Property.IsDescribed env p d → d.key = p.key := fun p d hd => hd.key
  rw [Descriptor.mem_held_describeObject]
  constructor
  · rintro ⟨d, hd, rfl⟩
    obtain ⟨p, hp, hdescribed⟩ := (last_rel h hkey m).exists_left hd
    exact ⟨p, hp, hdescribed.node⟩
  · rintro ⟨p, hp, hnode⟩
    obtain ⟨d, hd, hdescribed⟩ := (last_rel h hkey m).exists_right hp
    exact ⟨d, hd, Except.ok.inj (hdescribed.node.symm.trans hnode)⟩

/-- A name is listed as required because of a key of that name that refuses its absence. -/
theorem mem_required_of_described {name : String} :
    .text name ∈ Descriptor.required (describeObject ds) ↔
      ∃ p ∈ ps, p.key.member = ("properties", name) ∧ p.key.asksAbsence = true ∧
        (env.admitsAbsence p.key p.rule).outcome = .ok false := by
  obtain ⟨-, -, -, hrequired, -⟩ := Descriptor.parts_describeObject ds
  rw [hrequired, (ObjectParts.written_foldl ds).required, List.mem_map]
  constructor
  · rintro ⟨d, hd, hname⟩
    obtain ⟨hpart, hrequired⟩ := List.mem_filter.mp hd
    obtain ⟨hmem, hpart⟩ := Described.mem_inPart.mp hpart
    obtain ⟨p, hp, hdescribed⟩ := h.exists_left hmem
    refine ⟨p, hp, ?_, hdescribed.required.mp hrequired⟩
    rw [← hdescribed.key]
    exact Prod.ext hpart (Value.text.inj hname)
  · rintro ⟨p, hp, hmember, hrefused⟩
    obtain ⟨d, hd, hdescribed⟩ := h.exists_right hp
    rw [← hdescribed.key] at hmember
    refine ⟨d, List.mem_filter.mpr ⟨?_, hdescribed.required.mpr hrefused⟩, by rw [hmember]⟩
    exact Described.mem_inPart.mpr ⟨hd, congrArg Prod.fst hmember⟩

/-- If no key is written over, a quantifier is listed for each key with a sign of its own. -/
theorem mem_signs_of_described (hnodup : (ps.map (·.key.member)).Nodup) {name : String}
    {sign : Value} : (.text name, sign) ∈ Descriptor.signs (describeObject ds) ↔
      ∃ p ∈ ps, p.key.member = ("patternProperties", name) ∧
        (p.key.quantifier = .optional ∨ p.key.quantifier = .atLeastOne) ∧
        sign = .text p.key.quantifier.symbol := by
  obtain ⟨-, -, -, -, hsigns⟩ := Descriptor.parts_describeObject ds
  have hsigned : ((ds.filter (·.hasSign)).map (·.key.member)).Nodup := by
    rw [← map_member_of_described h] at hnodup
    exact hnodup.sublist (List.filter_sublist.map _)
  have hsign : ∀ p d, Property.IsDescribed env p d → (d.hasSign = true ↔
      (p.key.quantifier = .optional ∨ p.key.quantifier = .atLeastOne)) := by
    intro p d hd
    rw [Described.hasSign, hd.key, Bool.or_eq_true, decide_eq_true_eq, decide_eq_true_eq]
  rw [hsigns, (ObjectParts.written_foldl ds).quantifiers.mem_iff, Option.map_eq_some_iff]
  simp only [Described.last_eq_some_iff_mem hsigned, List.mem_filter]
  constructor
  · rintro ⟨d, ⟨⟨hmem, hd⟩, hmember⟩, rfl⟩
    obtain ⟨p, hp, hdescribed⟩ := h.exists_left hmem
    rw [hdescribed.key] at hmember ⊢
    exact ⟨p, hp, hmember, (hsign p d hdescribed).mp hd, rfl⟩
  · rintro ⟨p, hp, hmember, hquantifier, rfl⟩
    obtain ⟨d, hd, hdescribed⟩ := h.exists_right hp
    rw [← hdescribed.key] at hmember ⊢
    exact ⟨d, ⟨⟨hd, (hsign p d hdescribed).mpr hquantifier⟩, hmember⟩, rfl⟩

end Described

namespace Schema

variable {host : Host} {s : Store} {h : Handle}

/-- **A mapping is compiled to an object pattern**, entry by entry. -/
theorem exists_of_compile_mapping {form : MapForm} {tag : Nat} {entries : List (Value × Pattern)}
    (hcompile : (compile host (.mapping form tag entries) s).outcome = .ok h) :
    ∃ ps, h.validator = .object ps ∧ List.Forall₂ (fun e p => e.1 = .text p.key.written ∧
      Key.ofWritten p.key.written = .ok p.key) entries ps := by
  obtain ⟨v, label, r, hmade, hrebind, hvalidator⟩ := (ended_compile host s _).exists_rebound hcompile
  simp only [Pattern.compile, Except.bind_eq_ok_iff, Except.pure_eq_ok_iff] at hmade
  obtain ⟨qs, hqs, rfl⟩ := hmade
  obtain ⟨ps, hps, hkeys⟩ := Validator.exists_of_rebindTo_object hrebind
  refine ⟨ps, hvalidator.trans hps, ?_⟩
  -- binding keeps the keys, and the rest is of no account
  have hread : List.Forall₂ (fun (e : Value × Pattern) k => e.1 = .text k.written ∧
      Key.ofWritten k.written = .ok k) entries (qs.map (·.key)) :=
    List.forall₂_map_right_iff.mpr
      ((Pattern.forall₂_of_compileEntries hqs).imp fun e q he => ⟨he.written, he.key⟩)
  rw [← hkeys] at hread
  exact List.forall₂_map_right_iff.mp hread

section Decode

variable {ds : List Described}

/-- Decoding a descriptor with its dialect in front begins a session and binds it to what is read of the
descriptor. -/
theorem ended_decode_declared (host : Host) (s : Store) {D : Value} (h : Descriptor.Undeclared D) :
    Ended host s (Descriptor.decode s.sessions.length D)
      (decode host (host.settings.declareDialect D) s) := by
  have hended := ended_decode host s (Descriptor.ofDocument_declareDialect h host.settings)
  rwa [Descriptor.decode_declareDialect h] at hended

/-- A descriptor of an object pattern is read as an object pattern, and binding keeps its keys. -/
theorem exists_of_decode_describeObject
    (hdecode : (decode host (host.settings.declareDialect (describeObject ds)) s).outcome = .ok h)
    (hnode : (("additionalProperties", ""), .bool true) ∉ Descriptor.held (describeObject ds)) :
    ∃ qs qs', Descriptor.decode s.sessions.length (describeObject ds) = .ok (.object qs) ∧
      h.validator = .object qs' ∧ qs'.map (·.key) = qs.map (·.key) := by
  obtain ⟨w, label, r, hmade, hrebind, hvalidator⟩ :=
    (ended_decode_declared host s (Descriptor.undeclared_describeObject ds)).exists_rebound hdecode
  obtain ⟨qs, rfl, -⟩ := Descriptor.length_of_decode hmade hnode
  obtain ⟨qs', hqs', hkeys⟩ := Validator.exists_of_rebindTo_object hrebind
  exact ⟨qs, qs', hmade, hvalidator.trans hqs', hkeys⟩

end Decode

/-- **A descriptor tells of every key** of an object pattern: each key has its own node, the names and
quantifiers that are listed are those of the key whose node stands there, and what is read back, if
anything is, has one key for each.  It is read back if each node is and no key is empty. -/
structure KeepsKeys (host : Host) (env : Env) (ps : List (Property Validator)) (D : Value) : Prop where
  node : ∀ m v, (m, v) ∈ Descriptor.held D ↔
    ∃ p ∈ ps, p.key.member = m ∧ (env.describe p.rule).outcome = .ok v
  required : ∀ name, .text name ∈ Descriptor.required D ↔
    ∃ p ∈ ps, p.key.member = ("properties", name) ∧ p.key.asksAbsence = true ∧
      (env.admitsAbsence p.key p.rule).outcome = .ok false
  sign : ∀ name sign, (.text name, sign) ∈ Descriptor.signs D ↔
    ∃ p ∈ ps, p.key.member = ("patternProperties", name) ∧
      (p.key.quantifier = .optional ∨ p.key.quantifier = .atLeastOne) ∧
      sign = .text p.key.quantifier.symbol
  back : ∀ s g, (decode host (host.settings.declareDialect D) s).outcome = .ok g →
    (("additionalProperties", ""), .bool true) ∉ Descriptor.held D →
    ∃ qs keys, g.validator = .object qs ∧ keys.Perm (ps.map (·.key)) ∧
      List.Forall₂ (fun k q => Key.SaysSame (.text k.member.2 ∉ Descriptor.required D) k q.key)
        keys qs
  read : (∀ n, ∀ e ∈ Descriptor.held D, Descriptor.Reads n e.2 fun w => w.SelfContained (some n)) →
    (∀ p ∈ ps, p.key.written ≠ "") →
    ∀ s, ∃ g, (decode host (host.settings.declareDialect D) s).outcome = .ok g

section KeepsKeys

variable {env : Env} {ps : List (Property Validator)} {ds : List Described}
  (hkeys : ∀ p ∈ ps, Key.ofWritten p.key.written = .ok p.key)
  (hdescribed : List.Forall₂ (Property.IsDescribed env) ps ds)
  (hnodup : (ds.map (·.key.member)).Nodup)
include hkeys hdescribed hnodup

/-- **What is read back has one key for each**, and the key says the same. -/
theorem saysSame_of_decode_describeObject
    (hdecode : (decode host (host.settings.declareDialect (describeObject ds)) s).outcome = .ok h)
    (hnode : (("additionalProperties", ""), .bool true) ∉ Descriptor.held (describeObject ds)) :
    ∃ qs keys, h.validator = .object qs ∧ keys.Perm (ps.map (·.key)) ∧
      List.Forall₂ (fun k q => Key.SaysSame
        (.text k.member.2 ∉ Descriptor.required (describeObject ds)) k q.key) keys qs := by
  obtain ⟨qs, qs', hmade, hvalidator, hsame⟩ := exists_of_decode_describeObject hdecode hnode
  have hds : ∀ d ∈ ds, Key.ofWritten d.key.written = .ok d.key ∧
      (d.required = true → d.key.asksAbsence = true) := by
    intro d hd
    obtain ⟨p, hp, hd⟩ := hdescribed.exists_left hd
    rw [hd.key]
    exact ⟨hkeys p hp, fun hrequired => (hd.required.mp hrequired).1⟩
  obtain ⟨ds', hperm, hall⟩ := Descriptor.saysSame_of_decode hnodup hds hmade hnode
  -- a name that is listed as required is the one of a key that is
  have hlisted : ∀ d ∈ ds, d.key.isLiteral = true → d.key.quantifier = .exact → d.required = false →
      .text d.key.member.2 ∉ Descriptor.required (describeObject ds) := by
    intro d hd hliteral hexact hrequired hmem
    obtain ⟨p, hp, hmember, hrefused⟩ := (mem_required_of_described hdescribed).mp hmem
    obtain ⟨d', hd', hdescribed'⟩ := hdescribed.exists_right hp
    have hm : d.key.member = ("properties", d.key.sourceText) := by
      simp [Key.member, Key.isCatchAll, Key.isProperty, hliteral, hexact]
    have heq : d' = d := by
      refine List.inj_on_of_nodup_map hnodup hd' hd ?_
      rw [hdescribed'.key, hmember, hm]
    rw [← heq, hdescribed'.required.mpr hrefused] at hrequired
    cases hrequired
  have hkeys' : List.Forall₂ (fun k l => Key.SaysSame
      (.text k.member.2 ∉ Descriptor.required (describeObject ds)) k l)
      (ds'.map (·.key)) (qs.map (·.key)) := by
    rw [List.forall₂_map_left_iff, List.forall₂_map_right_iff]
    refine ((List.forall₂_and_left _ _).mpr ⟨fun d hd => hperm.subset hd, hall⟩).imp ?_
    rintro d q ⟨hd, hsays⟩
    exact hsays.imp (hlisted d hd)
  refine ⟨qs', ds'.map (·.key), hvalidator, ?_, ?_⟩
  · have hmap : ds.map (·.key) = ps.map (·.key) := by
      clear hnodup hkeys hdecode hnode hmade hds hperm hlisted hkeys'
      induction hdescribed with
      | nil => rfl
      | cons hd _ ih => rw [List.map_cons, List.map_cons, hd.key, ih]
    rw [← hmap]
    exact hperm.map _
  · rw [← hsame] at hkeys'
    exact List.forall₂_map_right_iff.mp hkeys'

/-- **A descriptor is read back** if each of its nodes is and no key is empty. -/
theorem exists_decode_describeObject (s : Store)
    (hreads : ∀ n, ∀ e ∈ Descriptor.held (describeObject ds),
      Descriptor.Reads n e.2 fun w => w.SelfContained (some n))
    (hne : ∀ p ∈ ps, p.key.written ≠ "") :
    ∃ g, (decode host (host.settings.declareDialect (describeObject ds)) s).outcome = .ok g := by
  let n := s.sessions.length
  have hread : ∀ d ∈ ds, d.IsRead := by
    intro d hd
    obtain ⟨p, hp, hd⟩ := hdescribed.exists_left hd
    refine ⟨?_, fun hempty => ?_, fun hrequired => ?_⟩
    · rw [hd.key, hkeys p hp]
    · rw [hd.key] at hempty
      exact absurd hempty (hne p hp)
    · rw [hd.key]
      exact (hd.required.mp hrequired).1
  have hnodes : ∀ d ∈ ds, Descriptor.Reads n d.descriptor fun w => w.SelfContained (some n) := by
    intro d hd
    have hlast : Described.last d.key.member ds = some d :=
      (Described.last_eq_some_iff_mem hnodup).mpr ⟨hd, rfl⟩
    exact hreads n _ (Descriptor.mem_held_describeObject.mpr ⟨d, hlast, rfl⟩)
  obtain ⟨w, hw, qs, rfl, -, hback⟩ := Descriptor.reads_describeObject hread hnodup hnodes
    ((describeObject ds).depth + 2) "#" (Nat.le_add_right _ 2)
  have hcontained : (Validator.object qs).SelfContained (some n) := by
    refine .object fun q hq => ?_
    obtain ⟨d, -, hrereads⟩ := hback q hq
    exact hrereads.rule
  have hended := ended_decode_declared host s (Descriptor.undeclared_describeObject ds)
  obtain ⟨g, hg, -⟩ := hended.exists_bound hw hcontained.release
  exact ⟨g, hg⟩

end KeepsKeys

/-- **A descriptor tells of every key if no two keys are written to the same member.** -/
theorem keepsKeys_of_described {env : Env} {ps : List (Property Validator)} {ds : List Described}
    (hkeys : ∀ p ∈ ps, Key.ofWritten p.key.written = .ok p.key)
    (hdescribed : List.Forall₂ (Property.IsDescribed env) ps ds)
    (hnodup : (ps.map (·.key.member)).Nodup) : KeepsKeys host env ps (describeObject ds) := by
  have hmembers : (ds.map (·.key.member)).Nodup := by
    rwa [map_member_of_described hdescribed]
  refine ⟨fun m v => ?_, fun name => mem_required_of_described hdescribed,
    fun name sign => mem_signs_of_described hdescribed hnodup,
    fun s g => saysSame_of_decode_describeObject hkeys hdescribed hmembers,
    fun hreads hne s => exists_decode_describeObject hkeys hdescribed hmembers s hreads hne⟩
  rw [mem_held_of_described hdescribed]
  simp only [Property.last, List.find?_reverse_eq_some_iff hnodup, and_assoc]

/-- **What the descriptor of a mapping holds.**  A mapping is compiled to an object pattern with one
key for each entry.  Its descriptor has a node for each member that some key is written to, and it is
the node of the key that is written there last, so no key is lost exactly when no two keys are written
to the same member.  What is read back has a key for each node, and if no key is lost the descriptor
tells of every key. -/
theorem describe_mapping (host : Host) {form : MapForm} {tag : Nat}
    {entries : List (Value × Pattern)} {s : Store} {h : Handle}
    (hcompile : (compile host (.mapping form tag entries) s).outcome = .ok h) {t : Store} {D : Value}
    (hdescribe : (describe host h t).outcome = .ok D) :
    ∃ ps, h.validator = .object ps ∧ entries.map Prod.fst = ps.map (fun p => .text p.key.written) ∧
      ((Descriptor.held D).map Prod.fst).Nodup ∧
      (∀ m v, (m, v) ∈ Descriptor.held D ↔
        ∃ p, Property.last m ps = some p ∧ ((t.env host).describe p.rule).outcome = .ok v) ∧
      ((Descriptor.held D).length = entries.length ↔ (ps.map (·.key.member)).Nodup) ∧
      (∀ s' g, (decode host (host.settings.declareDialect D) s').outcome = .ok g →
        (("additionalProperties", ""), .bool true) ∉ Descriptor.held D →
        ∃ qs, g.validator = .object qs ∧ qs.length = (Descriptor.held D).length) ∧
      ((ps.map (·.key.member)).Nodup → KeepsKeys host (t.env host) ps D) := by
  obtain ⟨ps, hvalidator, hentries⟩ := exists_of_compile_mapping hcompile
  have hwalk : ((t.env host).describe (.object ps)).outcome = .ok D := by
    rw [← hvalidator]
    exact Except.mapError_eq_ok_iff.mp hdescribe
  obtain ⟨ds, hdescribed, rfl⟩ := Env.exists_of_describe_object hwalk
  have hkeys : ∀ p ∈ ps, Key.ofWritten p.key.written = .ok p.key := by
    intro p hp
    obtain ⟨e, -, -, hkey⟩ := hentries.exists_left hp
    exact hkey
  have hlength : ds.length = entries.length := by
    rw [hentries.length_eq, hdescribed.length_eq]
  refine ⟨ps, hvalidator, ?_, Descriptor.nodup_held_describeObject ds,
    fun m v => mem_held_of_described hdescribed, ?_, ?_, keepsKeys_of_described hkeys hdescribed⟩
  · clear hcompile hvalidator hwalk hdescribed hkeys hlength
    induction hentries with
    | nil => rfl
    | cons he _ ih => rw [List.map_cons, List.map_cons, he.1, ih]
  · rw [← hlength, Descriptor.length_held_eq_iff, map_member_of_described hdescribed]
  · intro s' g hdecode hnode
    obtain ⟨qs, qs', hmade, hqs', hsame⟩ := exists_of_decode_describeObject hdecode hnode
    obtain ⟨_, hobject, hcount⟩ := Descriptor.length_of_decode hmade hnode
    cases hobject
    refine ⟨qs', hqs', ?_⟩
    rw [← hcount]
    simpa using congrArg List.length hsame

/-- A required and an optional key of one name: what stands under the required one is lost, and a text
is accepted where the mapping asks for an integer. -/
theorem describe_mapping_of_two_keys :
    let host : Host := ⟨fun _ => .absent, Settings.standard⟩
    let s : Store := ⟨[], 0⟩
    let p : Pattern := .mapping .dict 0
      [(.text "a", .value (.cls (.builtin .int))), (.text "?a", .value (.cls (.builtin .str)))]
    let x : Value := .dict [(.text "a", .text "x")]
    ∃ v D w, (compile host p s).outcome = .ok v ∧
      (describe host v (compile host p s).store).outcome = .ok D ∧
      (decode host (host.settings.declareDialect D) s).outcome = .ok w ∧
      (Descriptor.held D).length ≠ 2 ∧
      (((compile host p s).store.env host).validate v.validator x).outcome = .ok false ∧
      (((decode host (host.settings.declareDialect D) s).store.env host).validate w.validator x).outcome =
        .ok true := by
  intro host s p x
  have hread : (compile host p s).outcome.toOption.any (fun v =>
      (((compile host p s).store.env host).validate v.validator x).outcome = .ok false &&
      (describe host v (compile host p s).store).outcome.toOption.any fun D =>
        (decode host (host.settings.declareDialect D) s).outcome.toOption.any fun w =>
          (((decode host (host.settings.declareDialect D) s).store.env host).validate w.validator
            x).outcome = .ok true) = true := by
    decide +kernel
  obtain ⟨v, hv, hread⟩ := Except.exists_of_any hread
  obtain ⟨hrefused, hread⟩ := Bool.and_eq_true_iff.mp hread
  obtain ⟨D, hD, hread⟩ := Except.exists_of_any hread
  obtain ⟨w, hw, haccepted⟩ := Except.exists_of_any hread
  refine ⟨v, D, w, hv, hD, hw, fun hlength => ?_, of_decide_eq_true hrefused,
    of_decide_eq_true haccepted⟩
  -- both keys are written to the same member, so one of them is lost
  obtain ⟨ps, hobject, -, -, -, hcount, -⟩ := describe_mapping host hv hD
  have hmembers : (compile host p s).outcome.toOption.all (fun v =>
      (properties v).all fun ps => ¬ (ps.map (·.key.member)).Nodup) = true := by
    decide +kernel
  rw [hv, Except.toOption, Option.all_some, properties, hobject, Option.all_some] at hmembers
  exact of_decide_eq_true hmembers (hcount.mp hlength)

end Schema

end Conformance
