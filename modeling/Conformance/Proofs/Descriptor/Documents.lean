import Conformance.Proofs.Descriptor.Reading
import Conformance.Proofs.Json.Reading

/-!
# Descriptors of JSON

A descriptor of JSON is put together from values of JSON, each less deep than what it stands in.

## Main Definitions

* `Descriptor.JsonBelow` — a value of JSON that is less deep than something else

## Main statements

* `Descriptor.isJson_of_ofDocument` — a document of JSON stands for a descriptor of JSON
* `Descriptor.exists_of_part?` — the members of a part of a descriptor
-/

namespace Conformance.Descriptor

variable {fs : List (String × Value)}

/-- A document of JSON stands for a descriptor of JSON. -/
theorem isJson_of_ofDocument {document descriptor : Value} (hjson : document.IsJson)
    (hdocument : ofDocument document = .ok descriptor) : descriptor.IsJson := by
  unfold ofDocument at hdocument
  split at hdocument
  · next text =>
    cases hread : Json.read text with
    | ok v =>
      rw [hread] at hdocument
      cases hdocument
      exact (Json.yields_read text).ok _ hread
    | error e =>
      rw [hread] at hdocument
      cases e <;> cases hdocument
  · cases hjson
  · cases hdocument
    exact hjson

/-- What stands under the names of a dictionary of JSON. -/
theorem exists_of_isJson {tag : Nat} {ms : Members} (h : (Value.mapping .dict tag ms).IsJson) :
    ∃ fs, ms = Entries.ofTexts fs ∧ (fs.map Prod.fst).Nodup ∧ ∀ f ∈ fs, f.2.IsJson := by
  cases h with
  | dict hnodup hjson => exact ⟨_, rfl, hnodup, hjson⟩

theorem mem_of_member? {name : String} {v : Value} (h : member? name (Entries.ofTexts fs) = some v) :
    (name, v) ∈ fs := by
  rw [member?, Entries.find?_ofTexts] at h
  obtain ⟨before, after, rfl, -⟩ := List.lookup_eq_some_iff.mp h
  simp

/-- A value of JSON that is less deep than something else. -/
def JsonBelow (depth : Nat) (v : Value) : Prop := v.IsJson ∧ v.depth < depth

theorem JsonBelow.of_member? (hjson : ∀ f ∈ fs, f.2.IsJson) {name : String} {v : Value}
    (h : member? name (Entries.ofTexts fs) = some v) : JsonBelow (Value.record fs).depth v :=
  ⟨hjson _ (mem_of_member? h), depth_lt_of_mem_fields (mem_of_member? h)⟩

/-- The elements of a list are less deep than the list. -/
theorem JsonBelow.of_mem {depth tag : Nat} {items : List Value} {v : Value}
    (h : JsonBelow depth (.seq .list tag items)) (hv : v ∈ items) : JsonBelow depth v := by
  obtain ⟨hjson, hdepth⟩ := h
  have hlt : v.depth < (Value.seq .list tag items).depth := depth_lt_of_mem hv
  cases hjson with
  | list hitems => exact ⟨hitems v hv, Nat.lt_trans hlt hdepth⟩

/-- The members of a part have texts as names. -/
theorem exists_of_part? (hjson : ∀ f ∈ fs, f.2.IsJson) {part : String} {entries : Members}
    (h : part? part (Entries.ofTexts fs) = some entries) :
    ∃ gs, entries = Entries.ofTexts gs ∧ (gs.map Prod.fst).Nodup ∧
      ∀ g ∈ gs, JsonBelow (Value.record fs).depth g.2 := by
  unfold part? at h
  split at h
  · cases h
    exact ⟨[], rfl, List.nodup_nil, fun _ hg => nomatch hg⟩
  · next hmember =>
    cases h
    obtain ⟨hentries, hdepth⟩ := JsonBelow.of_member? hjson hmember
    obtain ⟨gs, rfl, hnodup, hgs⟩ := exists_of_isJson hentries
    refine ⟨gs, rfl, hnodup, fun g hg => ⟨hgs g hg, ?_⟩⟩
    have hlt : g.2.depth < (Value.record gs).depth := depth_lt_of_mem_fields hg
    exact Nat.lt_trans hlt hdepth
  · cases h

/-- A node of one type of a list is less deep than the list. -/
theorem JsonBelow.of_type {depth tag : Nat} {types : List Value} {type : Value}
    (h : JsonBelow depth (.seq .list tag types)) (htype : type ∈ types) :
    JsonBelow depth (.record [("type", type)]) := by
  have hdepth : type.depth < (Value.seq .list tag types).depth := depth_lt_of_mem htype
  have hrecord : (Value.record [("type", type)]).depth = type.depth + 1 := by
    simp [Value.record, Value.dict, Value.depth, Value.depthUnder]
  refine ⟨?_, ?_⟩
  · have hjson : type.IsJson := (h.of_mem htype).1
    exact .dict (List.nodup_singleton _) (List.forall_mem_singleton.mpr hjson)
  · rw [hrecord]
    exact Nat.lt_of_le_of_lt hdepth h.2

end Conformance.Descriptor
