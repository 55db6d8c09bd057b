import Conformance.Validator.Explaining
import Conformance.Validator.Describing
import Conformance.Validator.Rebinding

/-!
# Sessions

A pattern can refer to the schema it is part of before that schema exists.  A session is the cell
that such references look into: it is empty at first, and is bound to a root exactly once.

## Main Definitions

* `Session`, `Store` — the sessions of a run, and the identities given out
* `Host` — what a run takes from its surroundings
* `Store.env` — what a validator sees when it is checked
* `Action` — an operation on the store that may fail
* `Action.begin`, `Action.reference`, `Action.bindRoot` — the operations on sessions

## Design Notes

Binding works on a copy wherever the root holds references of no session, so a validator that the
caller holds never changes.  An operation that fails leaves what it has done to the store behind:
a session that was begun stays, and an identity that was given out is not given out again.
-/

namespace Conformance

/-- A session: its root, once it is bound, and the number of references it took over. -/
structure Session where
  root : Option Handle
  adopted : Nat
  deriving Inhabited

/-- A session that is not bound. -/
def Session.empty : Session := ⟨none, 0⟩

/-- The sessions of a run, by number, and the next identity to give out. -/
structure Store where
  sessions : List Session
  next : Nat
  deriving Inhabited

/-- What a run takes from its surroundings: the `schema` of every object of the host, and the
settings. -/
structure Host where
  slot : Nat → Slot
  settings : Settings

namespace Store

/-- The root of a session, if it is bound. -/
def root (s : Store) (session : Nat) : Option Handle := s.sessions[session]?.bind Session.root

/-- What a validator sees when it is checked. -/
def env (s : Store) (host : Host) : Env :=
  ⟨fun session => (s.root session).map Handle.validator, host.slot, host.settings.stepTolerance⟩

end Store

/-- What an operation leaves behind: the store, the events it logged, and its result. -/
structure Step (α : Type) where
  store : Store
  events : List Event
  outcome : Except Refusal α

/-- An operation on the store that may fail. -/
def Action (α : Type) : Type := Store → Step α

namespace Action

variable {α β : Type}

/-- An operation that does nothing. -/
def pure (a : α) : Action α := fun s => ⟨s, [], .ok a⟩

/-- One operation after another; a failure ends both. -/
def bind (x : Action α) (f : α → Action β) : Action β := fun s =>
  let step := x s
  match step.outcome with
  | .error e => ⟨step.store, step.events, .error e⟩
  | .ok a =>
    let step' := f a step.store
    ⟨step'.store, step.events ++ step'.events, step'.outcome⟩

instance : Monad Action where
  pure := pure
  bind := bind

instance : LawfulMonad Action := LawfulMonad.mk' Action
  (by
    intro α x
    funext s
    cases h : (x s).outcome <;> simp [Functor.map, bind, pure, h] <;> rw [← h])
  (by
    intro α β a f
    funext s
    simp [Bind.bind, Pure.pure, bind, pure])
  (by
    intro α β γ x f g
    funext s
    cases h : (x s).outcome with
    | error e => simp [Bind.bind, bind, h]
    | ok a => cases h' : (f a (x s).store).outcome <;> simp [Bind.bind, bind, h, h'])

/-- A result that may be a refusal. -/
def ofExcept (r : Except Refusal α) : Action α := fun s => ⟨s, [], r⟩

/-- Fail. -/
def refuse (e : Refusal) : Action α := ofExcept (.error e)

/-- Log an event. -/
def log (e : Event) : Action Unit := fun s => ⟨s, [e], .ok ()⟩

/-- Log events. -/
def logAll (es : List Event) : Action Unit := fun s => ⟨s, es, .ok ()⟩

/-- The store as it is. -/
def store : Action Store := fun s => ⟨s, [], .ok s⟩

/-- Change the store. -/
def change (f : Store → Store) : Action Unit := fun s => ⟨f s, [], .ok ()⟩

/-- A walk as an operation: its events are logged and a fault is a failure. -/
def ofWalk (w : Walk α) : Action α := fun s => ⟨s, w.events, w.outcome.mapError .fault⟩

/-- An identity that was not given out before. -/
def freshLabel : Action Label := fun s => ⟨{ s with next := s.next + 1 }, [], .ok ⟨s.next, []⟩⟩

/-- A new validator. -/
def hold (v : Validator) : Action Handle := do
  return ⟨← freshLabel, v⟩

/-- Begin a session. -/
def begin : Action Nat := fun s =>
  ⟨{ s with sessions := s.sessions ++ [.empty] }, [], .ok s.sessions.length⟩

/-- A new reference to the root of a session. -/
def reference (session : Nat) : Action Handle := hold (.selfRef (some session))

/-- Change a session. -/
def changeSession (session : Nat) (f : Session → Session) : Action Unit :=
  change fun s => { s with sessions := s.sessions.modify session f }

/-- Make a validator the root of a session, after a number of references was taken over. -/
def setRoot (session : Nat) (root : Handle) (adopted : Nat) : Action Handle := do
  changeSession session fun cell => ⟨some root, cell.adopted + adopted⟩
  let adopted := (((← store).sessions[session]?).getD .empty).adopted
  if adopted ≠ 0 then log (.referencesAdopted adopted root.validator.name)
  return root

/-- **Bind a session to a root.**  References of no session in the root become the session's own, in
a copy; the result is that copy, or the root itself when there was nothing to change.  A session is
bound only once. -/
def bindRoot (host : Host) (session : Nat) (root : Handle) : Action Handle := do
  let s ← store
  if (s.root session).isSome then refuse (.compile .alreadyBound)
  else
    let r ← ofExcept <|
      (Validator.rebindTo host.slot session depthLimit (some root.label) root.validator).mapError
        .fault
    match r.copy with
    | none => setRoot session root r.adopted
    | some copy => setRoot session (← hold copy) r.adopted

end Action

end Conformance
