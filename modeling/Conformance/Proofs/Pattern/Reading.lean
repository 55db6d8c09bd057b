import Conformance.Pattern.Basic
import Conformance.Proofs.Validator.Structure
import Conformance.Validator.Checking
import Mathlib.Order.FixedPoints

/-!
# Patterns, read directly

What a pattern means can be read off the pattern itself, form by form, without compiling it.  Where
the pattern speaks of itself the reading goes on with the whole pattern, so it is the least one that
agrees with what the forms say.

## Main Definitions

* `Asked`, `Conforms` — the rule of object patterns
* `Meaning` — what one form says: a test of the value, or how other readings are put together
* `Readable` — a pattern at its place, or a validator inside a pattern or outside of it
* `Pattern.meaning`, `Validator.meaning` — what each form says
* `Accepts` — **the reading of a pattern**
* `Settles` — a reading that comes to an end on a value, without a test that raises

## Design Notes

A validator that stands in a pattern is open: references of no session in it are taken over by the
whole, so they mean the whole pattern.  References of a session mean the root of that session, which
is read as it is.
-/

namespace Conformance

variable {R : Type}

/-! ## The rule of object patterns -/

section Objects

variable {V : Type}

/-- **What an object pattern asks about a mapping**: about which values it has to be known whether
they conform to what stands under a key. -/
inductive Asked (ps : List (Property V)) (es : List (Value × Value)) : Property V → Value → Prop where
  /-- A property is a matter of each key that matches its name. -/
  | claimed {e : Value × Value} {p : Property V} : e ∈ es → p ∈ ps → p.key.isCatchAll = false →
    p.key.claims e.1.nameText = true → Asked ps es p e.2
  /-- A property whose name no key matches is a matter of the catch-all key, if there is one. -/
  | unclaimed {e : Value × Value} {p : Property V} : e ∈ es →
    (∀ q ∈ ps, q.key.isCatchAll = false → q.key.claims e.1.nameText = false) →
    ps.find? (fun q => q.key.isCatchAll) = some p → Asked ps es p e.2
  /-- If the property of a literal name is absent, absence is a matter of its key. -/
  | absent {p : Property V} : p ∈ ps → p.key.quantifier = .exact → p.key.isLiteral = true →
    p.key.count (propertyNames es) = 0 → Asked ps es p .missing

/-- **The rule of object patterns.**  `accepts` tells whether a value conforms to what stands under a
key. -/
structure Conforms (accepts : V → Value → Prop) (ps : List (Property V))
    (es : List (Value × Value)) : Prop where
  asked : ∀ p y, Asked ps es p y → accepts p.rule y
  optional : ∀ p ∈ ps, p.key.quantifier = .optional → p.key.count (propertyNames es) ≤ 1
  atLeastOne : ∀ p ∈ ps, p.key.quantifier = .atLeastOne → 1 ≤ p.key.count (propertyNames es)

theorem Conforms.mono {accepts accepts' : V → Value → Prop}
    (h : ∀ v x, accepts v x → accepts' v x) {ps : List (Property V)} {es : List (Value × Value)}
    (hconforms : Conforms accepts ps es) : Conforms accepts' ps es :=
  { hconforms with asked := fun p y hasked => h p.rule y (hconforms.asked p y hasked) }

end Objects

/-! ## What forms say -/

/-- **What one form says** of values, given readings of other things. -/
inductive Meaning (R : Type) where
  /-- The value decides, unless the test raises. -/
  | test (holds raises : Value → Prop)
  /-- The same as something else. -/
  | same (r : R)
  /-- One of several. -/
  | choice (rs : List R)
  /-- A mapping, by the rule of object patterns. -/
  | object (ps : List (Property R))
  /-- A list or tuple with a number of items within two lengths, each of which is accepted. -/
  | array (item : R) (least : Nat) (most : Option Nat)

namespace Meaning

/-- A test that never raises. -/
def plain (holds : Value → Prop) : Meaning R := test holds fun _ => False

/-- What a form says holds of a value. -/
def Holds (accepts : R → Value → Prop) : Meaning R → Value → Prop
  | test holds _, x => holds x
  | same r, x => accepts r x
  | choice rs, x => ∃ r ∈ rs, accepts r x
  | object ps, x => ∃ form tag es, x = .mapping form tag es ∧ Conforms accepts ps es
  | array item least most, x => ∃ form tag items, x = .seq form tag items ∧
    withinLengths least most items.length = true ∧ ∀ y ∈ items, accepts item y

/-- A form settles a value if its test does not raise, and if what else is asked is settled. -/
def Settled (settles : R → Value → Prop) : Meaning R → Value → Prop
  | test _ raises, x => ¬ raises x
  | same r, x => settles r x
  | choice rs, x => ∀ r ∈ rs, settles r x
  | object ps, x => ∀ form tag es, x = .mapping form tag es →
    ∀ p y, Asked ps es p y → settles p.rule y
  | array item least most, x => ∀ form tag items, x = .seq form tag items →
    withinLengths least most items.length = true → ∀ y ∈ items, settles item y

/-- What holds of readings holds of larger ones. -/
theorem Holds.mono {accepts accepts' : R → Value → Prop} (h : ∀ r x, accepts r x → accepts' r x)
    {m : Meaning R} {x : Value} (hm : m.Holds accepts x) : m.Holds accepts' x := by
  cases m with
  | test holds raises => exact hm
  | same r => exact h r x hm
  | choice rs =>
    obtain ⟨r, hr, haccepts⟩ := hm
    exact ⟨r, hr, h r x haccepts⟩
  | object ps =>
    obtain ⟨form, tag, es, rfl, hconforms⟩ := hm
    exact ⟨form, tag, es, rfl, hconforms.mono h⟩
  | array item least most =>
    obtain ⟨form, tag, items, rfl, hlength, hitems⟩ := hm
    exact ⟨form, tag, items, rfl, hlength, fun y hy => h item y (hitems y hy)⟩

theorem Settled.mono {settles settles' : R → Value → Prop} (h : ∀ r x, settles r x → settles' r x)
    {m : Meaning R} {x : Value} (hm : m.Settled settles x) : m.Settled settles' x := by
  cases m with
  | test holds raises => exact hm
  | same r => exact h r x hm
  | choice rs => exact fun r hr => h r x (hm r hr)
  | object ps =>
    intro form tag es hx p y hasked
    exact h p.rule y (hm form tag es hx p y hasked)
  | array item least most =>
    intro form tag items hx hlength y hy
    exact h item y (hm form tag items hx hlength y hy)

end Meaning

/-- What is read: a pattern, `inOr` telling whether it stands directly inside a list of alternatives,
or a validator, `isOpen` telling whether it stands in the pattern that is read. -/
inductive Readable where
  | pattern (inOr : Bool) (p : Pattern)
  | validator (isOpen : Bool) (v : Validator)

namespace Slot

/-- What the `schema` of an object says of a value when it is no validator: a function is never asked
about absence. -/
def Grants (slot : Slot) (x : Value) : Prop :=
  match slot with
  | .function verdict => x ≠ .missing ∧ verdict x = .ok true
  | _ => False

/-- Asking the `schema` of an object raises when it is no validator: the function that is asked does,
or there is nothing that can be asked. -/
def Raises (slot : Slot) (x : Value) : Prop :=
  match slot with
  | .function verdict => x ≠ .missing ∧ ∃ e, verdict x = .error e
  | .other _ => x ≠ .missing
  | _ => True

end Slot

/-- **What a validator says.**  A reference of no session means the whole pattern `root` in an open
validator and nothing in any other. -/
def Validator.meaning (env : Env) (root : Pattern) (isOpen : Bool) : Validator → Meaning Readable
  | leaf rule =>
    .test (fun x => ∀ t ∈ rule.tests env.stepTolerance x, t.holds = .ok true)
      fun x => ∃ e, (Test.checkAll (rule.tests env.stepTolerance x)).outcome = .error e
  | delegate t =>
    match env.slot t.id with
    | .validator h => .same (.validator isOpen h.validator)
    | slot => .test slot.Grants slot.Raises
  | delegateTo _ copy => .same (.validator isOpen copy)
  | anyOf alternatives => .choice (alternatives.map (.validator isOpen))
  | object properties => .object (properties.map fun p => (p.map (.validator isOpen)).bare)
  | arrayOf items least most => .array (.validator isOpen items) least most
  | selfRef none => if isOpen then .same (.pattern false root) else .plain fun _ => False
  | selfRef (some session) =>
    match env.root session with
    | some r => .same (.validator false r)
    | none => .plain fun _ => False
  | external e => .test (fun x => e.verdict x = .ok true) fun x => ∃ f, e.verdict x = .error f

/-- An entry of a mapping as a property: its key is a text of the grammar of keys. -/
def Pattern.property? : Value × Pattern → Option (Property Readable)
  | (.text written, p) => (Key.ofWritten written).toOption.map fun key => ⟨key, none, .pattern false p⟩
  | _ => none

/-- **What a pattern says**, `root` being the whole pattern. -/
def Pattern.meaning (env : Env) (root : Pattern) (inOr : Bool) : Pattern → Meaning Readable
  -- a validator, or an object whose `schema` is a validator, or an object that can be called and
  -- whose `schema` is a function
  | validator h => .same (.validator true h.validator)
  | value (.host h) =>
    match env.slot h.id with
    | .validator g => .same (.validator true g.validator)
    | slot => .test (fun x => h.callable = true ∧ slot.Grants x) slot.Raises
  | value (.cls (.host c)) =>
    match env.slot c.id with
    | .validator g => .same (.validator true g.validator)
    | _ => .plain fun x => x.isInstance (.host c) = true
  | value (.cls (.builtin b)) => .plain fun x => x.isInstance (.builtin b) = true
  | value (.regex r) =>
    .test (fun x => ∃ s, x = .text s ∧ r.findsIn? s = .ok true)
      fun x => ∃ s e, x = .text s ∧ r.findsIn? s = .error e
  -- a literal, which is not looked into, or alternatives
  | seq _ _ items =>
    match inOr, items with
    | true, [item] => .plain fun x => x.deepEqual item.toValue = true
    | _, items => .choice (items.map (.pattern true))
  | mapping _ _ entries => .object (entries.filterMap property?)
  -- primitives of one kind; numbers are equal by value
  | value (.bool b) => .plain fun x => x = .bool b
  | value (.number n) => .plain fun x => ∃ m, x = .number m ∧ m.eqv n = true
  | value (.text s) => .plain fun x => x = .text s
  | value .null => .plain fun x => x = .null ∨ x = .missing
  | value .ellipsis => if inOr then .same (.pattern false root) else .plain fun _ => True
  | value .selfMarker => .same (.pattern false root)
  | value _ => .plain fun _ => False

/-- What is said by whatever is read. -/
def Readable.meaning (env : Env) (root : Pattern) : Readable → Meaning Readable
  | pattern inOr p => Pattern.meaning env root inOr p
  | validator isOpen v => v.meaning env root isOpen

/-! ## The reading -/

/-- What the forms say of readings.  Larger readings make more hold. -/
def reading (env : Env) (root : Pattern) :
    (Readable → Value → Prop) →o (Readable → Value → Prop) where
  toFun accepts r x := (r.meaning env root).Holds accepts x
  monotone' := fun _ _ h _ _ hm => hm.mono h

/-- **The reading of a pattern**: a value is accepted when what the form says holds of it, read in the
same way down to the values that decide by themselves.  A reading that comes back to itself without
end accepts nothing. -/
def Accepts (env : Env) (root : Pattern) : Readable → Value → Prop :=
  OrderHom.lfp (reading env root)

/-- **A reading settles a value within a number of steps** when no test raises, and it comes down to
tests in that many steps from one form to what it is made of, or to what it refers to. -/
def Settles (env : Env) (root : Pattern) : Nat → Readable → Value → Prop
  | 0, _, _ => False
  | n + 1, r, x => (r.meaning env root).Settled (Settles env root n) x

section Readings

variable {env : Env} {root : Pattern} {r : Readable} {x : Value}

/-- The reading agrees with what the forms say. -/
theorem accepts_iff :
    Accepts env root r x ↔ (r.meaning env root).Holds (Accepts env root) x := by
  have hfixed : reading env root (Accepts env root) = Accepts env root :=
    OrderHom.map_lfp (reading env root)
  exact iff_of_eq (congrFun (congrFun hfixed r) x).symm

/-- More steps settle more. -/
theorem Settles.succ {n : Nat} (h : Settles env root n r x) : Settles env root (n + 1) r x := by
  induction n generalizing r x with
  | zero => exact h.elim
  | succ n ih => exact Meaning.Settled.mono (fun _ _ => ih) h

end Readings

end Conformance
