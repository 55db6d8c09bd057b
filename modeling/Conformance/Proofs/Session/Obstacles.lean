import Conformance.Proofs.Descriptor.ObjectHindering
import Conformance.Proofs.Session.Keys
import Conformance.Proofs.Validator.Library

/-!
# Obstacles in validators

Not every descriptor that is written can be read back.  What stands in the way can be seen in the
validator, as far as its descriptor shows it: under a key that is written over nothing is in the way.

## Main Definitions

* `Validator.Shows` — a validator whose descriptor stands in that of another one
* `Leaf.Obstacle`, `Validator.Obstacle` — why the descriptor of a rule, or of a validator, cannot be read
  back, whatever the descriptors inside it are
* `Env.Obstacle` — the same of a validator with everything that its descriptor shows

## Main statements

* `Env.obstacle_anyOf`, `Env.obstacle_object`, … — the obstacles in a validator are its own and those of
  what it shows
* `Env.written_describeTo` — the descriptor of a validator of the library is hindered by its obstacles and by
  nothing else
-/

namespace Conformance

/-! ## What is shown -/

/-- **The descriptor of the second validator stands in that of the first**: it is a part of it and under no
key that is written over, or it is what a live delegate stands for. -/
inductive Validator.Shows (slot : Nat → Slot) : Validator → Validator → Prop where
  | copy (t : Target) (v : Validator) : Shows slot (.delegateTo t v) v
  | live {t : Target} {h : Handle} : slot t.id = .validator h → Shows slot (.delegate t) h.validator
  | alternative {vs : List Validator} {v : Validator} : v ∈ vs → Shows slot (.anyOf vs) v
  | property {ps : List (Property Validator)} {m : String × String} {p : Property Validator} :
    Property.last m ps = some p → Shows slot (.object ps) p.rule
  | element (v : Validator) (least : Nat) (most : Option Nat) : Shows slot (.arrayOf v least most) v

/-! ## Obstacles -/

/-- **Why the descriptor of a rule cannot be read back**: it names a class, an object or a function of the
host, or the source of its regex is no pattern on its own. -/
inductive Leaf.Obstacle : Leaf → Refusal → Prop where
  | ofClass {c : Class} : c.jsonType? = none →
    Obstacle (instanceOf c) (DecodeCause.identity "x-instanceOf").refusal
  | ofObject (x : Value) : Obstacle (reference x) (DecodeCause.identity "x-reference").refusal
  | ofFunction : Obstacle callable (DecodeCause.identity "x-instanceOf").refusal
  | ofRegex {r : Regex} {e : Refusal} : Descriptor.Unreadable r.source e → Obstacle (regex r) e

/-- **Why the descriptor of a validator cannot be read back**, whatever the descriptors inside it are:
because of its rule, because a delegate stands for no validator, because a choice has no alternatives, or
because an object pattern has the empty key and its property may be absent. -/
inductive Validator.Obstacle (env : Env) : Validator → Refusal → Prop where
  | ofRule {rule : Leaf} {e : Refusal} : rule.Obstacle e → Obstacle env (.leaf rule) e
  | ofDelegate {t : Target} : (∀ h, env.slot t.id ≠ .validator h) →
    Obstacle env (.delegate t) (DecodeCause.identity "x-delegate").refusal
  | noAlternatives : Obstacle env (.anyOf []) DecodeCause.anyOfNotList.refusal
  | emptyKey {ps : List (Property Validator)} : (∃ p ∈ ps, p.key.written = "") →
    (∀ p ∈ ps, p.key.written = "" → (env.admitsAbsence p.key p.rule).outcome = .ok true) →
    Obstacle env (.object ps) (DecodeCause.key (.keyWithoutName "?")).refusal

namespace Env

/-- **Why the descriptor of a validator cannot be read back**, by whatever stands in it. -/
def Obstacle (env : Env) (v : Validator) (e : Refusal) : Prop :=
  ∃ w, Relation.ReflTransGen (Validator.Shows env.slot) v w ∧ w.Obstacle env e

variable {env : Env} {e : Refusal}

/-- An obstacle is the validator's own or one of what it shows. -/
theorem obstacle_iff {v : Validator} :
    env.Obstacle v e ↔ v.Obstacle env e ∨ ∃ w, v.Shows env.slot w ∧ env.Obstacle w e := by
  constructor
  · rintro ⟨u, hu, he⟩
    rcases Relation.ReflTransGen.cases_head_iff.mp hu with rfl | ⟨w, hw, hu⟩
    · exact .inl he
    · exact .inr ⟨w, hw, u, hu, he⟩
  · rintro (he | ⟨w, hw, u, hu, he⟩)
    · exact ⟨v, .refl, he⟩
    · exact ⟨u, .head hw hu, he⟩

theorem obstacle_leaf (rule : Leaf) : env.Obstacle (.leaf rule) e ↔ rule.Obstacle e := by
  rw [obstacle_iff]
  constructor
  · rintro (he | ⟨w, hw, -⟩)
    · cases he with
      | ofRule he => exact he
    · cases hw
  · exact fun he => .inl (.ofRule he)

theorem obstacle_live {t : Target} {h : Handle} (hslot : env.slot t.id = .validator h) :
    env.Obstacle (.delegate t) e ↔ env.Obstacle h.validator e := by
  rw [obstacle_iff]
  constructor
  · rintro (he | ⟨w, hw, he⟩)
    · cases he with
      | ofDelegate hnone => exact absurd hslot (hnone h)
    · cases hw with
      | live hslot' =>
        cases hslot.symm.trans hslot'
        exact he
  · exact fun he => .inr ⟨_, .live hslot, he⟩

theorem obstacle_dead {t : Target} (hslot : ∀ h, env.slot t.id ≠ .validator h) :
    env.Obstacle (.delegate t) e ↔ e = (DecodeCause.identity "x-delegate").refusal := by
  rw [obstacle_iff]
  constructor
  · rintro (he | ⟨w, hw, -⟩)
    · cases he
      rfl
    · cases hw with
      | live hslot' => exact absurd hslot' (hslot _)
  · rintro rfl
    exact .inl (.ofDelegate hslot)

theorem obstacle_delegateTo (t : Target) (copy : Validator) :
    env.Obstacle (.delegateTo t copy) e ↔ env.Obstacle copy e := by
  rw [obstacle_iff]
  constructor
  · rintro (he | ⟨w, hw, he⟩)
    · cases he
    · cases hw
      exact he
  · exact fun he => .inr ⟨copy, .copy t copy, he⟩

theorem obstacle_anyOf (vs : List Validator) : env.Obstacle (.anyOf vs) e ↔
    (vs = [] ∧ e = DecodeCause.anyOfNotList.refusal) ∨ ∃ v ∈ vs, env.Obstacle v e := by
  rw [obstacle_iff]
  refine or_congr ⟨?_, ?_⟩ ⟨?_, ?_⟩
  · rintro ⟨⟩
    exact ⟨rfl, rfl⟩
  · rintro ⟨rfl, rfl⟩
    exact .noAlternatives
  · rintro ⟨w, hw, he⟩
    cases hw with
    | alternative hw => exact ⟨w, hw, he⟩
  · rintro ⟨v, hv, he⟩
    exact ⟨v, .alternative hv, he⟩

theorem obstacle_object (ps : List (Property Validator)) : env.Obstacle (.object ps) e ↔
    (Validator.object ps).Obstacle env e ∨
      ∃ m p, Property.last m ps = some p ∧ env.Obstacle p.rule e := by
  rw [obstacle_iff]
  refine or_congr_right ⟨?_, ?_⟩
  · rintro ⟨w, hw, he⟩
    cases hw with
    | property hp => exact ⟨_, _, hp, he⟩
  · rintro ⟨m, p, hp, he⟩
    exact ⟨p.rule, .property hp, he⟩

theorem obstacle_arrayOf (items : Validator) (least : Nat) (most : Option Nat) :
    env.Obstacle (.arrayOf items least most) e ↔ env.Obstacle items e := by
  rw [obstacle_iff]
  constructor
  · rintro (he | ⟨w, hw, he⟩)
    · cases he
    · cases hw
      exact he
  · exact fun he => .inr ⟨items, .element items least most, he⟩

theorem not_obstacle_selfRef (session : Option Nat) : ¬ env.Obstacle (.selfRef session) e := by
  rw [obstacle_iff]
  rintro (he | ⟨w, hw, -⟩)
  · cases he
  · cases hw

end Env

/-! ## Descriptors that are hindered by obstacles -/

/-- **A descriptor that is written**: a dictionary that declares no dialect yet, and is hindered by `O`
and by nothing else. -/
structure Descriptor.Written (O : Refusal → Prop) (D : Value) : Prop where
  undeclared : Undeclared D
  hinders : ∀ n, Hinders n O D

namespace Descriptor

variable {O : Refusal → Prop} {fs : List (String × Value)}

/-- A dictionary with names that stand in a fixed order. -/
theorem Written.of_sublist (names : List String) (hnames : names.Nodup ∧ "$schema" ∉ names)
    (hsub : (fs.map Prod.fst).Sublist names) (h : ∀ n, Hinders n O (.record fs)) :
    Written O (.record fs) :=
  ⟨⟨fs, rfl, hsub.nodup hnames.1, fun hmem => hnames.2 (hsub.subset hmem)⟩, h⟩

/-- What is read is not hindered. -/
theorem ReadsAs.written {R : Nat → Validator → Prop} (h : ReadsAs R fs) (hO : ∀ e, ¬ O e) :
    Written O (.record fs) :=
  ⟨⟨fs, rfl, h.nodup, h.dialect⟩, fun n => (h.reads n).hinders hO⟩

/-- A dictionary that is refused whatever stands in it. -/
theorem Written.of_refused {cause : DecodeCause} (names : List String)
    (hnames : names.Nodup ∧ "$schema" ∉ names) (hsub : (fs.map Prod.fst).Sublist names)
    (hrefused : ∀ n (decode : NodeReader) pointer,
      decodeMembersOf n decode pointer (Entries.ofTexts fs) = refuse pointer cause)
    (hO : ∀ e, O e ↔ e = cause.refusal) : Written O (.record fs) :=
  .of_sublist names hnames hsub fun n =>
    (hinders_of_refused (hrefused n)).congr fun e => (hO e).symm

/-- A rule that can be read back has no obstacles. -/
theorem not_obstacle_of_recoverable {rule : Leaf} (h : rule.Recoverable) {e : Refusal} :
    ¬ rule.Obstacle e := by
  intro he
  cases he with
  | ofClass hnone =>
    rw [Leaf.Recoverable, hnone] at h
    cases h
  | ofObject x => exact h
  | ofFunction => exact h
  | ofRegex he =>
    obtain ⟨hsource, hrule⟩ := h
    cases he with
    | invalid _ hinvalid => cases hsource.symm.trans hinvalid
    | regex _ hfault => cases hsource.symm.trans hfault
    | counts hsplit hcounts =>
      obtain ⟨least, most, e, hlengths, -⟩ := hrule _ _ hsplit
      cases hlengths.symm.trans hcounts
    | rule hsplit hlengths hmake =>
      obtain ⟨least, most, e, hlengths', hmake'⟩ := hrule _ _ hsplit
      cases hlengths.symm.trans hlengths'
      cases hmake.symm.trans hmake'

/-- A rule that can be read back is read back. -/
theorem written_of_recoverable {rule : Leaf} (h : rule.Recoverable) :
    Written rule.Obstacle rule.describe := by
  obtain ⟨fs, hfs, hreads⟩ := readsAs_leaf h
  rw [hfs]
  exact hreads.written fun _ => not_obstacle_of_recoverable h

/-- **The descriptor of a class** is hindered if JSON has no type for the class. -/
theorem written_instanceOf (c : Class) :
    Written (Leaf.instanceOf c).Obstacle (Leaf.instanceOf c).describe := by
  cases hc : c.jsonType? with
  | none =>
    have hdescribe : (Leaf.instanceOf c).describe = .record [("type", .text "object"),
        ("x-instanceOf", .text s!"{c.home}.{c.name}")] := by rw [Leaf.describe, hc]
    rw [hdescribe]
    refine .of_refused ["type", "x-instanceOf"] (by decide) (.refl _) (fun _ _ _ => rfl) fun e => ?_
    constructor
    · rintro ⟨-⟩
      rfl
    · rintro rfl
      exact .ofClass hc
  | some name => exact written_of_recoverable (by rw [Leaf.Recoverable, hc]; rfl)

/-- **The descriptor of a rule** is hindered by the obstacles of the rule. -/
theorem written_leaf {rule : Leaf} (h : rule.WellFormed) : Written rule.Obstacle rule.describe := by
  cases rule with
  | instanceOf c => exact written_instanceOf c
  | regex r =>
    refine .of_sublist ["type", "pattern"] (by decide) (.refl _) fun n => ?_
    refine hinders_of_members fun depth pointer _ => ?_
    have hstring : Hindered (Unreadable r.source) (decodeString pointer _) := hindered_decodeString
    refine hstring.congr fun e => ⟨.ofRegex, fun he => ?_⟩
    cases he with
    | ofRegex he => exact he
  | reference x =>
    refine .of_refused ["x-reference"] (by decide) (.refl _) (fun _ _ _ => rfl) fun e => ?_
    constructor
    · intro he
      cases he
      rfl
    · rintro rfl
      exact .ofObject x
  | callable =>
    refine .of_refused ["x-instanceOf"] (by decide) (.refl _) (fun _ _ _ => rfl) fun e => ?_
    constructor
    · intro he
      cases he
      rfl
    · rintro rfl
      exact .ofFunction
  | number b => exact written_of_recoverable h
  | stringOf rule => exact written_of_recoverable h
  | literal | equals | null | anything | string | array | sequenceLike | mappingLike | mapping =>
    exact written_of_recoverable trivial

theorem Written.congr {O' : Refusal → Prop} {D : Value} (h : Written O D) (hO : ∀ e, O e ↔ O' e) :
    Written O' D :=
  ⟨h.undeclared, fun n => (h.hinders n).congr hO⟩

/-- What is written is a dictionary. -/
theorem Written.exists_dict {D : Value} (h : Written O D) :
    ∃ tag entries, D = .mapping .dict tag entries := by
  obtain ⟨fs, rfl, -⟩ := h.undeclared
  exact ⟨_, _, rfl⟩

/-- **The descriptor of a choice.** -/
theorem written_anyOf {O : Validator → Refusal → Prop} {vs : List Validator} {nodes : List Value}
    (h : List.Forall₂ (fun v node => Written (O v) node) vs nodes) :
    Written (fun e => (vs = [] ∧ e = DecodeCause.anyOfNotList.refusal) ∨ ∃ v ∈ vs, O v e)
      (.record [("anyOf", .list nodes)]) :=
  .of_sublist ["anyOf"] (by decide) (.refl _) fun n =>
    hinders_anyOf (h.imp fun _ _ hnode => hnode.hinders n)

/-- **The descriptor of an array.** -/
theorem written_arrayOf {node : Value} (h : Written O node) (least : Nat) (most : Option Nat) :
    Written O (describeArray least most node) :=
  .of_sublist arrayNames (by decide) (sublist_arrayFields least most node) fun n =>
    hinders_arrayOf (h.hinders n) least most

end Descriptor

/-! ## Whole validators -/

open Descriptor (Written)

namespace Validator

variable {env : Env} {absent : Key → Validator → Walk Bool} {follow : Validator → Walk Value}

/-- **A key stands for what is written of it**: it is the same key, its node is what `W` says, and it is
listed as required if it asks for it and its absence is refused. -/
structure IsWritten (env : Env) (W : Validator → Value → Prop) (p : Property Validator) (d : Described) :
    Prop where
  key : d.key = p.key
  node : W p.rule d.descriptor
  required : d.required = true ↔ p.key.asksAbsence = true ∧
    (env.admitsAbsence p.key p.rule).outcome = .ok false

section Object

variable {W : Validator → Value → Prop} {ps : List (Property Validator)} {ds : List Described}
  (hkeys : ∀ p ∈ ps, Key.ofWritten p.key.written = .ok p.key)
  (hds : List.Forall₂ (IsWritten env W) ps ds)
include hkeys hds

/-- The empty name is in the way of reading the descriptor if the empty key is in the way. -/
theorem emptyName_iff {e : Refusal} :
    Descriptor.EmptyName ds e ↔ (object ps).Obstacle env e := by
  -- an empty key asks for its absence, so it is listed as required unless absence is admitted
  have hrequired : ∀ p ∈ ps, ∀ d, IsWritten env W p d → p.key.written = "" →
      (d.required = false ↔ (env.admitsAbsence p.key p.rule).outcome = .ok true) := by
    intro p hp d hd hempty
    have hread := hkeys p hp
    rw [hempty] at hread
    have hasks : p.key.asksAbsence = true := Key.asksAbsence_of_empty hread
    obtain ⟨b, hb⟩ := Env.exists_admitsAbsence env p.key p.rule
    rw [← Bool.not_eq_true, hd.required, hb]
    cases b <;> simp [hasks]
  constructor
  · rintro ⟨rfl, ⟨d, hd, hempty⟩, hnot⟩
    refine .emptyKey ?_ fun p hp hempty => ?_
    · obtain ⟨p, hp, hdescribed⟩ := hds.exists_left hd
      exact ⟨p, hp, hdescribed.key ▸ hempty⟩
    · obtain ⟨d, hd, hdescribed⟩ := hds.exists_right hp
      exact (hrequired p hp d hdescribed hempty).mp (hnot d hd (hdescribed.key ▸ hempty))
  · intro he
    cases he with
    | emptyKey hsome hadmits =>
      obtain ⟨p, hp, hempty⟩ := hsome
      obtain ⟨d, hd, hdescribed⟩ := hds.exists_right hp
      refine ⟨rfl, ⟨d, hd, hdescribed.key ▸ hempty⟩, fun d hd hempty => ?_⟩
      obtain ⟨p, hp, hdescribed⟩ := hds.exists_left hd
      rw [hdescribed.key] at hempty
      exact (hrequired p hp d hdescribed hempty).mpr (hadmits p hp hempty)

end Object

/-- **The descriptor of an object pattern** is hindered by the empty key, if its property may be absent,
and by what is written last. -/
theorem written_object {O : Validator → Refusal → Prop} {ps : List (Property Validator)}
    {ds : List Described} (hkeys : ∀ p ∈ ps, Key.ofWritten p.key.written = .ok p.key)
    (hds : List.Forall₂ (IsWritten env fun v => Written (O v)) ps ds) :
    Written (fun e => (object ps).Obstacle env e ∨ ∃ m p, Property.last m ps = some p ∧ O p.rule e)
      (describeObject ds) := by
  have hkey : ∀ p d, IsWritten env (fun v => Written (O v)) p d → d.key = p.key :=
    fun p d hd => hd.key
  refine ⟨Descriptor.undeclared_describeObject ds, fun n => ?_⟩
  refine (Descriptor.hinders_describeObject
    (O := fun m e => ∃ p, Property.last m ps = some p ∧ O p.rule e) ?_ ?_ ?_ ?_).congr fun e => ?_
  · intro d hd
    obtain ⟨p, hp, hdescribed⟩ := hds.exists_left hd
    rw [hdescribed.key]
    exact ⟨hkeys p hp, fun hrequired => (hdescribed.required.mp hrequired).1⟩
  · rintro m hnone e ⟨p, hp, -⟩
    obtain ⟨d, hd, -⟩ := (last_rel hds hkey m).exists_right hp
    cases hnone.symm.trans hd
  · intro d hd
    obtain ⟨p, -, hdescribed⟩ := hds.exists_left hd
    exact hdescribed.node.exists_dict
  · intro m d hd
    obtain ⟨p, hp, hdescribed⟩ := (last_rel hds hkey m).exists_left hd
    refine (hdescribed.node.hinders n).congr fun e => ?_
    rw [hp]
    simp only [Option.some.injEq, exists_eq_left']
  · rw [emptyName_iff hkeys hds, or_comm]

/-- **One layer of a validator.** -/
theorem written_describe
    (hfollow : ∀ w D, w.OfLibrary env.slot → (follow w).outcome = .ok D → Written (env.Obstacle w) D)
    {v : Validator} (hv : v.OfLibrary env.slot) {D : Value}
    (h : (v.describe env env.admitsAbsence follow).outcome = .ok D) : Written (env.Obstacle v) D := by
  induction v using treeInduction generalizing D with
  | leaf rule =>
    cases h
    exact (Descriptor.written_leaf hv.wellFormed).congr fun e => (Env.obstacle_leaf rule).symm
  | delegate t =>
    rw [describe] at h
    cases hslot : env.slot t.id with
    | validator handle =>
      rw [hslot] at h
      exact (hfollow _ D (hv.linked (.live hslot)) h).congr fun e => (Env.obstacle_live hslot).symm
    | _ =>
      rw [hslot] at h
      cases h
      refine .of_refused ["x-delegate"] (by decide) (.refl _) (fun _ _ _ => rfl) fun e => ?_
      exact Env.obstacle_dead (by simp [hslot])
  | delegateTo t copy ih =>
    exact (ih (hv.part (.copy t copy)) h).congr fun e => (Env.obstacle_delegateTo t copy).symm
  | anyOf vs ih =>
    obtain ⟨nodes, hnodes, h⟩ := Walk.bind_eq_ok_iff.mp h
    cases h
    refine (Descriptor.written_anyOf (O := env.Obstacle) ?_).congr fun e => (Env.obstacle_anyOf vs).symm
    refine ((List.forall₂_and_left _ _).mpr ⟨fun v hmem => hmem, describeEach_eq_ok_iff.mp hnodes⟩).imp ?_
    rintro v node ⟨hmem, hnode⟩
    exact ih v hmem (hv.part (.alternative hmem)) hnode
  | object ps ih =>
    obtain ⟨ds, hds, h⟩ := Walk.bind_eq_ok_iff.mp h
    cases h
    refine (written_object (O := env.Obstacle) hv.wellFormed ?_).congr fun e =>
      (Env.obstacle_object ps).symm
    refine ((List.forall₂_and_left _ _).mpr
      ⟨fun p hmem => hmem, (describeProperties_eq_ok_iff env.exists_admitsAbsence).mp hds⟩).imp ?_
    rintro p d ⟨hmem, hkey, hnode, hrequired⟩
    exact ⟨hkey, ih p hmem (hv.part (.property hmem)) hnode, hrequired⟩
  | arrayOf items least most ih =>
    obtain ⟨node, hnode, h⟩ := Walk.bind_eq_ok_iff.mp h
    cases h
    exact (Descriptor.written_arrayOf (ih (hv.part (.element items least most)) hnode) least most).congr
      fun e => (Env.obstacle_arrayOf items least most).symm
  | selfRef session =>
    cases h
    refine .of_sublist ["$ref"] (by decide) (.refl _) fun n => ?_
    have hreads : Descriptor.Reads n (.record [("$ref", .text "#")]) (· = .selfRef (some n)) :=
      Descriptor.reads_leaf (fun _ _ => rfl) rfl
    exact hreads.hinders fun e => Env.not_obstacle_selfRef session
  | external e => exact absurd hv.wellFormed id

end Validator

/-- **The descriptor of a validator of the library** is hindered by the obstacles in the validator, and by
nothing else. -/
theorem Env.written_describeTo {env : Env} {v : Validator} (hv : v.OfLibrary env.slot) {depth : Nat}
    {D : Value} (h : (env.describeTo depth v).outcome = .ok D) : Written (env.Obstacle v) D := by
  induction depth generalizing v D with
  | zero => cases h
  | succ depth ih => exact Validator.written_describe (fun w D hw hD => ih hw hD) hv h

end Conformance
