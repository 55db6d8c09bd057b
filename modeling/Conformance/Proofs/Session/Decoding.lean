import Conformance.Proofs.Descriptor.Faults
import Conformance.Proofs.Descriptor.Decoded
import Conformance.Proofs.Session.RoundTrip
import Conformance.Proofs.Validator.Settled

/-!
# How decoding ends

Decoding ends as the reading of the descriptor does: the validator that is read has no delegates, so
binding it never fails.

## Main Definitions

* `Schema.Faulty` — a document of JSON that makes a fault, and the fault

## Main statements

* `Schema.exists_decode_iff` — a document has a schema exactly if its descriptor is read
* `Schema.decode_of_isJson` — a document of JSON has a schema, or is refused as a descriptor, or has a
  flaw that makes a fault
-/

namespace Conformance

namespace DecodeCause

/-- The codes of refused descriptors. -/
def codes : List ErrorCode := [.descriptorMalformed, .descriptorUnsupported, .descriptorIdentity]

/-- A refused descriptor has one of three codes. -/
theorem code_mem_codes (c : DecodeCause) : c.code ∈ codes := by
  cases c <;> simp [codes, code]

end DecodeCause

namespace Schema

variable {host : Host} {s : Store} {document descriptor : Value}

/-! ## Binding never fails -/

/-- A descriptor that is read makes a schema: the same tree, with the references of its session. -/
theorem exists_decode_of_read (host : Host) {v : Validator}
    (hdocument : Descriptor.ofDocument document = .ok descriptor)
    (hread : Descriptor.decode s.sessions.length descriptor = .ok v) :
    ∃ h : Handle, (decode host document s).outcome = .ok h ∧
      (decode host document s).store.root s.sessions.length = some h ∧
      h.validator.adopt none = v.adopt none := by
  have hcontained : v.SelfContained (some s.sessions.length) := Descriptor.selfContained_decode hread
  obtain ⟨h, houtcome, hroot, htree⟩ :=
    (ended_decode host s hdocument).exists_bound hread hcontained.release
  rw [Validator.adopt_of_selfContained hcontained] at htree
  exact ⟨h, houtcome, hroot, htree⟩

/-- A descriptor that is not read ends decoding in the same way. -/
theorem decode_of_unread {e : Refusal} (hdocument : Descriptor.ofDocument document = .ok descriptor)
    (hread : Descriptor.decode s.sessions.length descriptor = .error e) :
    (decode host document s).outcome = .error e := by
  cases ended_decode host s hdocument with
  | refused hmade houtcome =>
    rw [hread] at hmade
    cases hmade
    exact houtcome
  | fault hmade =>
    rw [hread] at hmade
    cases hmade
  | bound hmade =>
    rw [hread] at hmade
    cases hmade

/-- **A document has a schema exactly if its descriptor is read.** -/
theorem exists_decode_iff (hdocument : Descriptor.ofDocument document = .ok descriptor) :
    (∃ h, (decode host document s).outcome = .ok h) ↔
      ∃ v, Descriptor.decode s.sessions.length descriptor = .ok v := by
  constructor
  · rintro ⟨h, houtcome⟩
    cases hread : Descriptor.decode s.sessions.length descriptor with
    | ok v => exact ⟨v, rfl⟩
    | error e =>
      rw [decode_of_unread hdocument hread] at houtcome
      cases houtcome
  · rintro ⟨v, hread⟩
    obtain ⟨h, houtcome, -⟩ := exists_decode_of_read host hdocument hread
    exact ⟨h, houtcome⟩

/-- **The schema of a document is what was read**: there is nothing in it that binding would change. -/
theorem read_of_decode {h : Handle} (hdocument : Descriptor.ofDocument document = .ok descriptor)
    (hdecode : (decode host document s).outcome = .ok h) :
    Descriptor.decode s.sessions.length descriptor = .ok h.validator := by
  obtain ⟨v, label, r, hread, hrebind, hvalidator⟩ :=
    (ended_decode host s hdocument).exists_rebound hdecode
  have hfree : ¬ v.Holds host.slot none := by
    intro hholds
    cases (Descriptor.selfContained_decode hread).eq_of_holds hholds
  have hleft := Validator.rebindTo_of_not_holds hfree depthLimit s.sessions.length s.sessions.length
    (some label) (some label)
  rw [Validator.LeftAlike, hrebind] at hleft
  have hunchanged : r = .unchanged := Except.ok.inj hleft
  rw [hread, hvalidator, hunchanged]
  rfl

/-! ## Documents of JSON -/

/-- **A document of JSON that makes a fault**: a text with a numeral that is too long, or a descriptor
with a flaw. -/
inductive Faulty (document : Value) : Fault → Prop where
  | numeral {text : String} : document = .text text →
    Json.read text = .error (.fault .tooManyDigits) → Faulty document .tooManyDigits
  | flawed {descriptor : Value} {f : Fault} : Descriptor.ofDocument document = .ok descriptor →
    Descriptor.Flawed descriptor f → Faulty document f

/-- A document of JSON that is no descriptor is malformed, or holds a numeral that is too long. -/
theorem ofDocument_eq_error {e : Refusal} (hjson : document.IsJson)
    (hdocument : Descriptor.ofDocument document = .error e) :
    (∃ d, e = .decode d) ∨ ∃ f, e = .fault f ∧ Faulty document f := by
  unfold Descriptor.ofDocument at hdocument
  split at hdocument
  · next text =>
    cases hread : Json.read text with
    | ok v =>
      rw [hread] at hdocument
      cases hdocument
    | error failure =>
      rw [hread] at hdocument
      cases failure with
      | malformed => exact .inl ⟨_, (Except.error.inj hdocument).symm⟩
      | fault f =>
        cases (Json.yields_read text).fault f hread
        exact .inr ⟨_, (Except.error.inj hdocument).symm, .numeral rfl hread⟩
  · cases hjson
  · cases hdocument

/-- **How decoding a document of JSON ends**: with a schema, with a refusal of the descriptor under one
of its three codes, or with a fault that is made by a numeral that is too long or by a flaw of the
descriptor. -/
theorem decode_of_isJson (host : Host) (s : Store) (hjson : document.IsJson) :
    (∃ h, (decode host document s).outcome = .ok h) ∨
    (∃ d : DecodeError, (decode host document s).outcome = .error (.decode d) ∧
      d.cause.code ∈ DecodeCause.codes) ∨
    ∃ f, (decode host document s).outcome = .error (.fault f) ∧ Faulty document f := by
  -- what is known of a failure is the same wherever it comes from
  have hfailure : ∀ e, (decode host document s).outcome = .error e →
      ((∃ d, e = .decode d) ∨ ∃ f, e = .fault f ∧ Faulty document f) →
      (∃ d : DecodeError, (decode host document s).outcome = .error (.decode d) ∧
        d.cause.code ∈ DecodeCause.codes) ∨
      ∃ f, (decode host document s).outcome = .error (.fault f) ∧ Faulty document f := by
    rintro e houtcome (⟨d, rfl⟩ | ⟨f, rfl, hf⟩)
    · exact .inl ⟨d, houtcome, d.cause.code_mem_codes⟩
    · exact .inr ⟨f, houtcome, hf⟩
  cases hdocument : Descriptor.ofDocument document with
  | error e =>
    have houtcome : (decode host document s).outcome = .error e := by
      rw [decode_of_refused hdocument]
    exact .inr (hfailure e houtcome (ofDocument_eq_error hjson hdocument))
  | ok descriptor =>
    cases hread : Descriptor.decode s.sessions.length descriptor with
    | ok v => exact .inl ((exists_decode_iff hdocument).mpr ⟨v, hread⟩)
    | error e =>
      refine .inr (hfailure e (decode_of_unread hdocument hread) ?_)
      have hwithin := Descriptor.faultsWithin_decode (n := s.sessions.length)
        (Descriptor.isJson_of_ofDocument hjson hdocument) e hread
      rcases hwithin with hd | ⟨f, rfl, hf⟩
      · exact .inl hd
      · exact .inr ⟨f, rfl, .flawed hdocument hf⟩

/-- A list among the required names makes a fault, and the descriptor is not refused. -/
theorem decode_of_required_list :
    let host : Host := ⟨fun _ => .absent, Settings.standard⟩
    let s : Store := ⟨[], 0⟩
    let document : Value :=
      .record [("type", .text "object"), ("required", .list [.list []])]
    document.IsJson ∧ (decode host document s).outcome = .error (.fault (.unhashable "list")) ∧
      Faulty document (.unhashable "list") := by
  intro host s document
  have hjson : document.IsJson := by
    refine .dict (by decide) ?_
    simp only [List.forall_mem_cons]
    refine ⟨.text _, .list ?_, by simp⟩
    simp only [List.forall_mem_cons]
    exact ⟨.list (by simp), by simp⟩
  have houtcome : (decode host document s).outcome = .error (.fault (.unhashable "list")) := rfl
  rcases decode_of_isJson host s hjson with ⟨h, hok⟩ | ⟨d, hrefused, -⟩ | ⟨f, hfault, hf⟩
  · rw [houtcome] at hok
    cases hok
  · rw [houtcome] at hrefused
    cases hrefused
  · rw [houtcome] at hfault
    cases hfault
    exact ⟨hjson, houtcome, hf⟩

end Schema

end Conformance
