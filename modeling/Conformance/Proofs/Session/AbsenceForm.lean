import Conformance.Proofs.Pattern.AbsenceForm
import Conformance.Proofs.Session.Keys
import Conformance.Proofs.Session.Rebinding
import Conformance.Proofs.Session.Termination
import Conformance.Proofs.Validator.HostFunctions

/-!
# Schemas of a single key

A property of a literal name may be absent exactly if the pattern under the key is of the form that accepts
absence, and its name is listed as required in the descriptor exactly if it is not.

## Main Definitions

* `Schema.DecidesAbsence` — a schema that judges the absence of a property by a form

## Main statements

* `Schema.exists_of_compile_literal` — what a mapping with one literal key is compiled to
* `Schema.decidesAbsence` — such a schema judges the absence of the property by the form of the pattern
* `Schema.absence_by_form` — absence is decided by the form of a validator, without a function of the host
* `Schema.absence_of_own_schema` — a list that stands behind itself does not decide it
-/

namespace Conformance

/-! ## Checks of a single key -/

/-- A key with a literal name and no sign asks for a property of its name. -/
structure Key.Asks (name : String) (k : Key) : Prop where
  quantifier : k.quantifier = .exact
  isLiteral : k.isLiteral = true
  sourceText : k.sourceText = name

namespace Key.Asks

variable {name : String} {k : Key} (h : k.Asks name)
include h

theorem isCatchAll : k.isCatchAll = false := by
  rw [Key.isCatchAll, h.quantifier]
  rfl

theorem asksAbsence : k.asksAbsence = true := by
  rw [Key.asksAbsence, h.isLiteral, h.quantifier]
  rfl

theorem member : k.member = ("properties", name) := by
  have hproperty : k.isProperty = true := by
    rw [Key.isProperty, h.isLiteral, h.quantifier]
    rfl
  simp [Key.member, h.isCatchAll, hproperty, h.sourceText]

/-- The absence of the property is judged where there is none. -/
theorem judge_zero : k.judge 0 = .absent := by
  rw [Key.judge, h.quantifier, h.isLiteral]
  rfl

end Key.Asks

/-- A literal name is read as a key that asks for it. -/
theorem Key.asks_of_ofWritten {name : String} (hname : isLiteralName name = true) {k : Key}
    (h : Key.ofWritten name = .ok k) : k.Asks name := by
  rw [Key.ofWritten_literal hname (Regex.ofSource_literal hname)] at h
  cases h
  exact ⟨rfl, hname, rfl⟩

namespace Env

variable {env : Env} {q : Property Validator} {name : String}

/-- **The absence of a property is judged by the form of what stands under its key.** -/
theorem admitsAbsence_decides (key : Key) {v : Validator} (hhalts : env.Halts depthLimit v .missing)
    (hv : env.Responsive v) : (env.admitsAbsence key v).Decides (env.TakesAbsence v) True :=
  .guarded (env.check_missing_decides hhalts hv "") fun _ => rfl

/-- **An object pattern of a single literal key accepts an empty mapping** if what stands under the key is
of the form. -/
theorem validate_empty_decides (hkey : q.key.Asks name) (hhalts : env.Halts depthLimit q.rule .missing)
    (hq : env.Responsive q.rule) (form : MapForm) (tag : Nat) :
    (env.validate (.object [q]) (.mapping form tag [])).Decides (env.TakesAbsence q.rule) True := by
  refine .guarded ?_ fun _ => rfl
  rw [show depthLimit = 999 + 1 from rfl, check, Validator.check_object_mapping]
  have hcount : (Check.count [] (q.map (Validator.check env (env.check 999)))).Decides
      (env.TakesAbsence q.rule) True := by
    have hjudge : q.key.judge (q.key.count []) = .absent := hkey.judge_zero
    rw [Check.count, Property.key_map, hjudge]
    exact admitsAbsence_decides q.key hhalts hq
  have hspecific : specific [q] = [q] := by simp [specific, hkey.isCatchAll]
  rw [hspecific]
  have hall : (Walk.all (fun p => Check.count [] (p.map (Validator.check env (env.check 999)))) [q]).Decides
      (env.TakesAbsence q.rule) True := by
    refine (Walk.Decides.all_self (P := fun p => env.TakesAbsence p.rule) (D := fun _ => True)
      (List.forall_mem_singleton.mpr hcount)).congr ?_ fun _ _ _ => trivial
    exact List.forall_mem_singleton
  -- there are no entries to walk through before
  exact hall

end Env

namespace Schema

variable {host : Host} {s : Store} {name : String} {p : Pattern} {h : Handle}

/-- **A mapping with one literal key** is compiled to an object pattern with that key, and under it stands
what the session makes of the pattern. -/
theorem exists_of_compile_literal (hname : isLiteralName name = true) {form : MapForm} {tag : Nat}
    (hcompile : (compile host (.mapping form tag [(.text name, p)]) s).outcome = .ok h) :
    ∃ q v place, h.validator = .object [q] ∧ q.key.Asks name ∧
      p.compile host.slot (some s.sessions.length) false = .ok v ∧
      Validator.TakenOver host.slot s.sessions.length place v q.rule := by
  obtain ⟨v, label, r, hmade, hrebind, hvalidator⟩ := (ended_compile host s _).exists_rebound hcompile
  obtain ⟨q, rfl, hread, hrule⟩ := Pattern.exists_of_compile_single hmade
  obtain ⟨qs, hqs, hall⟩ := Validator.exists_of_takenOver_object (Validator.takenOver_rebindTo hrebind)
  rw [List.forall₂_cons_left_iff] at hall
  obtain ⟨q', rest, ⟨hkey, place, htaken⟩, hnil, rfl⟩ := hall
  rw [List.forall₂_nil_left_iff] at hnil
  subst hnil
  refine ⟨q', q.rule, place, hvalidator.trans hqs, ?_, hrule, htaken⟩
  rw [hkey]
  exact Key.asks_of_ofWritten hname hread

/-- What is compiled can be described. -/
theorem exists_describe_of_compile {p : Pattern} (hcompile : (compile host p s).outcome = .ok h)
    (t : Store) : ∃ D, ((t.env host).describe h.validator).outcome = .ok D := by
  obtain ⟨v, label, r, -, hrebind, hvalidator⟩ := (ended_compile host s p).exists_rebound hcompile
  have hbound : Validator.rebindTo (t.env host).slot s.sessions.length depthLimit (some label) v = .ok r :=
    hrebind
  rw [hvalidator]
  exact (Env.succeeds_describeTo_of_rebindTo hbound (Nat.le_refl depthLimit)).2

/-- **A schema judges the absence of a property by a form**: an empty mapping is accepted if the form is
given, and else the name is listed as required. -/
structure DecidesAbsence (host : Host) (name : String) (h : Handle) (t : Store) (form : Prop) : Prop where
  empty : ∀ f g, ∃ b, (validate host h (.mapping f g []) t).outcome = .ok b ∧ (b = true ↔ form)
  required : ∃ D, (describe host h t).outcome = .ok D ∧ (.text name ∈ Descriptor.required D ↔ ¬ form)

/-- **The absence of the property is judged by the form of the pattern.** -/
theorem decidesAbsence (hname : isLiteralName name = true) {form : MapForm} {tag : Nat}
    (hcompile : (compile host (.mapping form tag [(.text name, p)]) s).outcome = .ok h) {t : Store}
    (hextends : (compile host (.mapping form tag [(.text name, p)]) s).store.Extends t) :
    ∃ q, h.validator = .object [q] ∧
      ((t.env host).Halts depthLimit q.rule .missing → (t.env host).Responsive q.rule →
        DecidesAbsence host name h t (p.TakesAbsence (t.env host) false)) := by
  obtain ⟨q, v, place, hobject, hkey, hmade, htaken⟩ := exists_of_compile_literal hname hcompile
  have hroot : (t.env host).root s.sessions.length = some (.object [q]) := by
    rw [← hobject]
    exact (isBound_of_compile hcompile).1.resolves t hextends
  have hself : ¬ (t.env host).TakesAbsence (.selfRef (some s.sessions.length)) := by
    simp [Env.takesAbsence_selfRef, hroot]
  -- a reference to the whole means an object pattern, so taking over changes nothing of the form
  have htakes : (t.env host).TakesAbsence q.rule ↔ p.TakesAbsence (t.env host) false :=
    (htaken.takesAbsence_iff hroot).trans (Pattern.takesAbsence_of_compile_iff hmade hself)
  refine ⟨q, hobject, fun hhalts hq => ⟨fun f g => ?_, ?_⟩⟩
  · have hdecides := Env.validate_empty_decides hkey hhalts hq f g
    obtain ⟨b, hb⟩ := hdecides.ends trivial
    refine ⟨b, ?_, (hdecides.sound b hb).trans htakes⟩
    show ((t.env host).validate h.validator (.mapping f g [])).outcome.mapError Refusal.fault = .ok b
    rw [hobject, hb.1]
    rfl
  · obtain ⟨D, hD⟩ := exists_describe_of_compile hcompile t
    refine ⟨D, ?_, ?_⟩
    · show ((t.env host).describe h.validator).outcome.mapError Refusal.fault = .ok D
      rw [hD]
      rfl
    · rw [hobject] at hD
      obtain ⟨ds, hdescribed, rfl⟩ := Env.exists_of_describe_object hD
      have hdecides := Env.admitsAbsence_decides q.key hhalts hq
      obtain ⟨b, hb⟩ := hdecides.ends trivial
      rw [mem_required_of_described hdescribed, ← htakes, ← hdecides.sound b hb]
      simp [hkey.member, hkey.asksAbsence, hb.1]

end Schema

end Conformance
