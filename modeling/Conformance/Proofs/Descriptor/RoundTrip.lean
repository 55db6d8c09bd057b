import Conformance.Proofs.Descriptor.Annotations
import Conformance.Proofs.Descriptor.ComingBack
import Conformance.Proofs.Validator.Mirroring

/-!
# Descriptors tell of validators

What is written of a portable validator is read, in any session, as a validator that mirrors it, with a
dialect in front or without.

## Main Definitions

* `Descriptor.Tells` — a dictionary is read as a validator that mirrors a given one

## Main statements

* `Validator.describe_tells_release` — a descriptor tells of the validator as far as descriptors do:
  all references are written alike
* `Validator.Portable.describe_tells` — the descriptor of a portable validator tells of it
* `Descriptor.ReadsAs.declared` — a dialect in front changes nothing
-/

namespace Conformance

/-- **A dictionary tells of a validator**: it has each name once, the dialect not among them, and in any
session it is read as a validator of that session which mirrors the given one. -/
structure Descriptor.Tells (absent : Key → Validator → Walk Bool) (v : Validator)
    (fs : List (String × Value)) : Prop where
  nodup : (fs.map Prod.fst).Nodup
  dialect : "$schema" ∉ fs.map Prod.fst
  reads : ∀ n, Descriptor.Reads n (.record fs) fun w =>
    w.SelfContained (some n) ∧ Validator.Mirrors absent n v w

/-! ## The dialect in front -/

namespace Descriptor

variable {absent : Key → Validator → Walk Bool}

section Dialect

variable {decode : NodeReader} {pointer : String} {dialect : Value} {ms : Members}

/-- **What a node is does not depend on its dialect**, which is an annotation. -/
theorem decodeMembersOf_dialect (n : Nat) :
    decodeMembersOf n decode pointer ((.text "$schema", dialect) :: ms) =
      decodeMembersOf n decode pointer ms := by
  have halike : MembersAlike Eq ((.text "$schema", dialect) :: ms) ms := .left rfl (.refl ms)
  exact halike.decodeMembersOf_eq (fun _ => rfl) (fun v v' _ _ heq pointer => by rw [heq]) n
    fun _ _ _ _ _ _ => rfl

end Dialect

/-- New names go to the end one after another. -/
theorem foldl_insert_ofTexts {before fs : List (String × Value)}
    (h : ((before ++ fs).map Prod.fst).Nodup) :
    (Entries.ofTexts fs).foldl (fun done (k, v) => Entries.insert k v done)
      (Entries.ofTexts before) = Entries.ofTexts (before ++ fs) := by
  induction fs generalizing before with
  | nil => rw [List.append_nil]; rfl
  | cons f fs ih =>
    have hnew : ∀ g ∈ before, g.1 ≠ f.1 := by
      rw [List.map_append, List.nodup_append] at h
      exact fun g hg => h.2.2 _ (List.mem_map_of_mem hg) _ List.mem_cons_self
    have happend : before ++ f :: fs = before ++ [f] ++ fs := by simp
    rw [happend] at h ⊢
    rw [← ih h, ← Entries.insert_ofTexts f.2 hnew]
    rfl

/-- A dialect in front makes a descriptor no deeper. -/
theorem depth_dialect (dialect : String) (fs : List (String × Value)) :
    (Value.record (("$schema", .text dialect) :: fs)).depth = (Value.record fs).depth := by
  simp [Value.record, Value.dict, Value.depth, Value.depthUnder]

/-- A node with a dialect in front is read as without. -/
theorem Reads.dialect {n : Nat} {fs : List (String × Value)} {R : Validator → Prop}
    (h : Reads n (.record fs) R) (dialect : String) :
    Reads n (.record (("$schema", .text dialect) :: fs)) R := by
  refine reads_of_members fun depth pointer hdepth => ?_
  rw [depth_dialect] at hdepth
  obtain ⟨w, hw, hR⟩ := h (depth + 1) pointer hdepth
  refine ⟨w, ?_, hR⟩
  have hsame : decodeMembersOf n (decodeTo n depth) pointer
      (Entries.ofTexts (("$schema", .text dialect) :: fs)) =
        decodeMembersOf n (decodeTo n depth) pointer (Entries.ofTexts fs) := decodeMembersOf_dialect n
  rw [hsame]
  exact hw

/-- Where each name stands once and the dialect is none of them, declaring it puts it in front. -/
theorem declareDialect_record (settings : Settings) {fs : List (String × Value)}
    (hnodup : (fs.map Prod.fst).Nodup) (hdialect : "$schema" ∉ fs.map Prod.fst) :
    settings.declareDialect (.record fs) = if settings.emitSchemaDialect then
      .record (("$schema", .text settings.schemaDialect) :: fs) else .record fs := by
  have hfront : (([("$schema", Value.text settings.schemaDialect)] ++ fs).map Prod.fst).Nodup :=
    List.nodup_cons.mpr ⟨hdialect, hnodup⟩
  unfold Settings.declareDialect
  by_cases hemit : settings.emitSchemaDialect = true
  · rw [if_pos hemit, if_pos hemit]
    exact congrArg Value.dict (foldl_insert_ofTexts hfront)
  · rw [if_neg hemit, if_neg hemit]

/-- **A descriptor with its dialect in front** is read as the one without. -/
theorem ReadsAs.declared {R : Nat → Validator → Prop} {fs : List (String × Value)} (h : ReadsAs R fs)
    (settings : Settings) : ∃ fs', settings.declareDialect (.record fs) = .record fs' ∧
      ∀ n, Reads n (.record fs') (R n) := by
  rw [declareDialect_record settings h.nodup h.dialect]
  by_cases hemit : settings.emitSchemaDialect = true
  · rw [if_pos hemit]
    exact ⟨_, rfl, fun n => (h.reads n).dialect _⟩
  · rw [if_neg hemit]
    exact ⟨fs, rfl, h.reads⟩

/-- What tells of a validator does so with its dialect in front. -/
theorem Tells.declared {v : Validator} {fs : List (String × Value)} (h : Tells absent v fs)
    (settings : Settings) : ∃ fs', settings.declareDialect (.record fs) = .record fs' ∧
      ∀ n, Reads n (.record fs') fun w =>
        w.SelfContained (some n) ∧ Validator.Mirrors absent n v w :=
  ReadsAs.declared ⟨h.nodup, h.dialect, h.reads⟩ settings

end Descriptor

/-! ## Whole validators -/

namespace Validator

open Descriptor (Tells)

variable {env : Env} {absent absent' : Key → Validator → Walk Bool} {follow : Validator → Walk Value}

/-- **A descriptor tells of the validator without the sessions of its references**, and there is one:
writing it does not end with a fault.  Absence is asked about what stands in the validator, and what
is admitted there counts for what is left of it. -/
theorem describe_tells_release {S : Validator → Prop}
    (hparts : ∀ v w, S v → v.Part w → S w)
    (habsent : ∀ k u, ∃ b, (absent k u).outcome = .ok b)
    (hadmits : ∀ k u, S u → (absent k u).outcome = .ok true →
      (absent' k u.release).outcome = .ok true)
    {v : Validator} (hv : v.release.Portable) (hs : S v) :
    ∃ fs, (v.describe env absent follow).outcome = .ok (.record fs) ∧ Tells absent' v.release fs := by
  have htold : ∃ fs, (v.describe env absent follow).outcome = .ok (.record fs) ∧
      Descriptor.ReadsAs (fun n => ComesBackAs Leaf.Portable
        (fun k u => (absent' k u).outcome = .ok true) n v.release) fs :=
    describe_readsAs hparts habsent hadmits (fun _ _ _ hkept hempty => absurd hempty hkept)
      (fun _ => Leaf.Portable.recoverable) hv.madeOf hs
  obtain ⟨fs, hfs, hreads⟩ := htold
  refine ⟨fs, hfs, hreads.nodup, hreads.dialect, fun n => (hreads.reads n).mono fun w hw => ?_⟩
  exact ⟨hw.selfContained_some, hw.mirrors (fun _ => Leaf.Portable.isExact) fun _ _ => id⟩

/-- What is told of a portable validator without its identities is told of it. -/
theorem Portable.tells_of_release {v : Validator} (hv : v.Portable) {fs : List (String × Value)}
    (h : Tells absent v.release fs) : Tells absent v fs := by
  refine ⟨h.nodup, h.dialect, fun n => (h.reads n).mono fun w hw => ⟨hw.1, ?_⟩⟩
  intro n' env env' follow follow' hfacing
  have hsame : v.release.adopt (some n') = v.adopt (some n') := by
    rw [hv.selfContained.release_eq, adopt_adopt_none]
  exact hsame ▸ hw.2 n' env env' follow follow' hfacing

/-- **The descriptor of a portable validator tells of it**, and there is one.  Absence is asked about
validators up to identities. -/
theorem Portable.describe_tells {v : Validator} (hv : v.Portable)
    (habsent : ∀ k u, ∃ b, (absent k u).outcome = .ok b)
    (hbare : ∀ k u, absent k (u.adopt none) = absent k u) :
    ∃ fs, (v.describe env absent follow).outcome = .ok (.record fs) ∧ Tells absent v fs := by
  obtain ⟨fs, hfs, htells⟩ := @describe_tells_release env absent absent follow _
    (fun _ _ => SelfContained.part) habsent
    (fun k u hu hadmits => by rw [hu.release_eq, hbare, hadmits]) v hv.release hv.selfContained
  exact ⟨fs, hfs, hv.tells_of_release htells⟩

end Validator

end Conformance
