import Conformance.Event
import Conformance.Mismatch

/-!
# Walks

A check walks through a validator and a value side by side.  On its way it logs events and notes
mismatches, and it ends with a result or with a fault; what was logged and noted before a fault
stays.

## Main Definitions

* `Walk` — events, mismatches and outcome of a walk
* `Walk.log`, `Walk.note`, `Walk.fail` — the three things a walk can do
* `Walk.aside` — a walk whose mismatches are handed over as a result
* `Walk.guarded` — a walk that a fault ends with `false`

Walks obey the laws of a monad: putting them together is associative, and a walk that ends at once
changes nothing.
-/

namespace Conformance

/-- What a walk leaves behind. -/
structure Walk (α : Type) where
  events : List Event
  /-- The mismatches noted, in order. -/
  found : List Mismatch
  outcome : Except Fault α
  deriving Inhabited

namespace Walk

variable {α β : Type}

/-- A walk that ends at once. -/
def pure (a : α) : Walk α := ⟨[], [], .ok a⟩

/-- One walk after another; a fault ends both. -/
def bind (w : Walk α) (f : α → Walk β) : Walk β :=
  match w.outcome with
  | .error e => ⟨w.events, w.found, .error e⟩
  | .ok a =>
    let w' := f a
    ⟨w.events ++ w'.events, w.found ++ w'.found, w'.outcome⟩

instance : Monad Walk where
  pure := pure
  bind := bind

/-- A walk that ended with a result hands on to the next and keeps what it left behind. -/
theorem bind_ok (events : List Event) (found : List Mismatch) (a : α) (f : α → Walk β) :
    (Walk.mk events found (.ok a)).bind f =
      ⟨events ++ (f a).events, found ++ (f a).found, (f a).outcome⟩ := rfl

/-- A walk that ended with a fault hands on to nothing. -/
theorem bind_error (events : List Event) (found : List Mismatch) (e : Fault) (f : α → Walk β) :
    (Walk.mk events found (.error e)).bind f = ⟨events, found, .error e⟩ := rfl

instance : LawfulMonad Walk := LawfulMonad.mk' Walk
  (by
    intro α w
    obtain ⟨events, found, outcome⟩ := w
    cases outcome <;> simp [Functor.map, bind, pure])
  (by
    intro α β a f
    simp [Bind.bind, Pure.pure, bind, pure])
  (by
    intro α β γ w f g
    obtain ⟨events, found, outcome⟩ := w
    cases outcome with
    | error e => rfl
    | ok a => cases h : (f a).outcome <;> simp [Bind.bind, bind, h])

/-- Log an event. -/
def log (e : Event) : Walk Unit := ⟨[e], [], .ok ()⟩

/-- Note a mismatch. -/
def note (m : Mismatch) : Walk Unit := ⟨[], [m], .ok ()⟩

/-- End with a fault. -/
def fail (f : Fault) : Walk α := ⟨[], [], .error f⟩

/-- A result that may be a fault. -/
def ofExcept (r : Except Fault α) : Walk α := ⟨[], [], r⟩

/-- Note a mismatch and go on with `false`. -/
def reject (m : Mismatch) : Walk Bool := ⟨[], [m], .ok false⟩

/-- A walk on the side: its mismatches are handed over with its result, and are lost with a
fault. -/
def aside (w : Walk α) : Walk (α × List Mismatch) :=
  ⟨w.events, [], w.outcome.map fun a => (a, w.found)⟩

/-- A walk that a fault ends with `false`, after logging an event about it. -/
def guarded (event : Fault → Event) (w : Walk Bool) : Walk Bool :=
  match w.outcome with
  | .ok b => ⟨w.events, [], .ok b⟩
  | .error f => ⟨w.events ++ [event f], [], .ok false⟩

/-- Stop with `false` at the first walk that ends with `false`. -/
def all (step : α → Walk Bool) : List α → Walk Bool
  | [] => pure true
  | a :: as => bind (step a) fun passed => if passed then all step as else pure false

@[simp] theorem all_nil (step : α → Walk Bool) : all step [] = pure true := rfl

@[simp] theorem all_cons (step : α → Walk Bool) (a : α) (as : List α) :
    all step (a :: as) = bind (step a) fun passed => if passed then all step as else pure false := rfl

/-- Take every walk, and end with whether all ended with `true`. -/
def every (step : α → Walk Bool) : List α → Walk Bool
  | [] => pure true
  | a :: as => bind (step a) fun passed => bind (every step as) fun rest => pure (passed && rest)

@[simp] theorem every_nil (step : α → Walk Bool) : every step [] = pure true := rfl

@[simp] theorem every_cons (step : α → Walk Bool) (a : α) (as : List α) :
    every step (a :: as) =
      bind (step a) fun passed => bind (every step as) fun rest => pure (passed && rest) := rfl

/-- Stop with `true` at the first walk that ends with `true`. -/
def any (step : α → Walk Bool) : List α → Walk Bool
  | [] => pure false
  | a :: as => bind (step a) fun passed => if passed then pure true else any step as

@[simp] theorem any_nil (step : α → Walk Bool) : any step [] = pure false := rfl

@[simp] theorem any_cons (step : α → Walk Bool) (a : α) (as : List α) :
    any step (a :: as) = bind (step a) fun passed => if passed then pure true else any step as := rfl

end Walk

end Conformance
