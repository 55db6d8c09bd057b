import Conformance.Proofs.Validator.Structure

/-!
# Taking references over

A session that takes a fragment in makes the references of no session its own.  On the tree of a
validator this is one structural function, `Validator.adopt`; rebinding is that function with a copy
made only where there is something to change, and with live delegates frozen on the way.

## Main Definitions

* `Validator.adopt` — a validator with its references of no session made those of another one, and
  without the identities that its parts keep
* `Validator.freeze` — a validator whose live delegates are replaced by what rebinding makes of them

## Main statements

* `Validator.rebind_map_adopt` — rebinding is taking over and freezing, up to identities
* `Validator.rebindTo_map_eq_of_adopt_eq` — validators that differ in what is taken over anyway are
  rebound to the same
-/

namespace Conformance

namespace Validator

/-! ## Taking over on the tree -/

mutual

/-- A validator with its references of no session made references of `session`.  The identities that
parts under the keys of an object pattern keep are forgotten: they tell nothing of what a validator
does. -/
def adopt (session : Option Nat) : Validator → Validator
  | leaf rule => leaf rule
  | delegate t => delegate t
  | delegateTo t copy => delegateTo t (adopt session copy)
  | anyOf alternatives => anyOf (adoptEach session alternatives)
  | object properties => object (adoptProperties session properties)
  | arrayOf items least most => arrayOf (adopt session items) least most
  | selfRef none => selfRef session
  | selfRef (some own) => selfRef (some own)
  | external e => external e

/-- `adopt` on every alternative. -/
def adoptEach (session : Option Nat) : List Validator → List Validator
  | [] => []
  | v :: vs => adopt session v :: adoptEach session vs

/-- `adopt` under every key. -/
def adoptProperties (session : Option Nat) :
    List (Property Validator) → List (Property Validator)
  | [] => []
  | ⟨key, _, rule⟩ :: ps => ⟨key, none, adopt session rule⟩ :: adoptProperties session ps

end

theorem adoptEach_eq_map (session : Option Nat) (vs : List Validator) :
    adoptEach session vs = vs.map (adopt session) := by
  induction vs with
  | nil => rfl
  | cons v vs ih => rw [adoptEach, ih, List.map_cons]

theorem adoptProperties_eq_map (session : Option Nat) (ps : List (Property Validator)) :
    adoptProperties session ps = ps.map fun p => (p.map (adopt session)).bare := by
  induction ps with
  | nil => rfl
  | cons p ps ih =>
    rw [adoptProperties, ih, List.map_cons]
    rfl

/-- What is taken over by one session is not there for another. -/
theorem adopt_adopt_some (session : Option Nat) (n : Nat) (v : Validator) :
    (v.adopt (some n)).adopt session = v.adopt (some n) := by
  induction v using treeInduction with
  | leaf rule => rfl
  | delegate t => rfl
  | delegateTo t copy ih => rw [adopt, adopt, ih]
  | anyOf vs ih =>
    rw [adopt, adopt, adoptEach_eq_map, adoptEach_eq_map, List.map_map]
    exact congrArg anyOf (List.map_congr_left ih)
  | object ps ih =>
    rw [adopt, adopt, adoptProperties_eq_map, adoptProperties_eq_map, List.map_map]
    refine congrArg object (List.map_congr_left fun p hp => ?_)
    exact congrArg (Property.mk p.key none) (ih p hp)
  | arrayOf items least most ih => rw [adopt, adopt, ih]
  | selfRef session => cases session <;> rfl
  | external e => rfl

/-- Identities are forgotten once, before or after references are taken over. -/
theorem adopt_adopt_none (session : Option Nat) (v : Validator) :
    (v.adopt none).adopt session = v.adopt session := by
  induction v using treeInduction with
  | leaf rule => rfl
  | delegate t => rfl
  | delegateTo t copy ih => rw [adopt, adopt, adopt, ih]
  | anyOf vs ih =>
    rw [adopt, adopt, adopt, adoptEach_eq_map, adoptEach_eq_map, adoptEach_eq_map, List.map_map]
    exact congrArg anyOf (List.map_congr_left ih)
  | object ps ih =>
    rw [adopt, adopt, adopt, adoptProperties_eq_map, adoptProperties_eq_map,
      adoptProperties_eq_map, List.map_map]
    refine congrArg object (List.map_congr_left fun p hp => ?_)
    exact congrArg (Property.mk p.key none) (ih p hp)
  | arrayOf items least most ih => rw [adopt, adopt, adopt, ih]
  | selfRef session => cases session <;> rfl
  | external e => rfl

/-- Rules are all that becomes a rule. -/
theorem adopt_eq_leaf {session : Option Nat} {v : Validator} {rule : Leaf}
    (h : v.adopt session = leaf rule) : v = leaf rule := by
  cases v with
  | leaf rule' => exact h
  | selfRef own => cases own <;> cases h
  | _ => cases h

/-- Taking over changes no name. -/
@[simp] theorem name_adopt (session : Option Nat) (v : Validator) :
    (v.adopt session).name = v.name := by
  induction v using treeInduction with
  | leaf rule => rfl
  | delegate t => rfl
  | delegateTo t copy => rfl
  | anyOf vs ih =>
    rw [adopt, name, name, names_eq_map, names_eq_map, adoptEach_eq_map, List.map_map]
    rw [List.map_congr_left (f := name ∘ adopt session) (g := name) ih]
  | object ps =>
    rw [adopt, name, name, adoptProperties_eq_map, List.map_map]
    rfl
  | arrayOf items least most ih => rw [adopt, name, name, ih]
  | selfRef session => cases session <;> rfl
  | external e => rfl

/-! ## Freezing live delegates -/

mutual

/-- A validator whose live delegates are replaced by what `follow` makes of the validators they stand
for: a copy where there is one, and nothing else where there is none. -/
def freeze (slot : Nat → Slot) (follow : Validator → Except Fault (Rebound Validator)) :
    Validator → Except Fault Validator
  | leaf rule => .ok (leaf rule)
  | delegate t =>
    match slot t.id with
    | .validator h => do
      let r ← follow h.validator
      return match r.copy with
        | some copy => delegateTo t (copy.adopt none)
        | none => delegate t
    | _ => .ok (delegate t)
  | delegateTo t copy => return delegateTo t (← freeze slot follow copy)
  | anyOf alternatives => return anyOf (← freezeEach slot follow alternatives)
  | object properties => return object (← freezeProperties slot follow properties)
  | arrayOf items least most => return arrayOf (← freeze slot follow items) least most
  | selfRef session => .ok (selfRef session)
  | external e => .ok (external e)

/-- `freeze` on every alternative. -/
def freezeEach (slot : Nat → Slot) (follow : Validator → Except Fault (Rebound Validator)) :
    List Validator → Except Fault (List Validator)
  | [] => .ok []
  | v :: vs => do
    let head ← freeze slot follow v
    return head :: (← freezeEach slot follow vs)

/-- `freeze` under every key. -/
def freezeProperties (slot : Nat → Slot) (follow : Validator → Except Fault (Rebound Validator)) :
    List (Property Validator) → Except Fault (List (Property Validator))
  | [] => .ok []
  | ⟨key, _, rule⟩ :: ps => do
    let head ← freeze slot follow rule
    return ⟨key, none, head⟩ :: (← freezeProperties slot follow ps)

end

end Validator

/-! ## Rebinding -/

namespace Rebound

variable {α β : Type}

/-- What stands in the place of the original: the copy, or the original itself. -/
def result (original : α) (r : Rebound α) : α := r.copy.getD original

@[simp] theorem adopted_map (f : α → β) (r : Rebound α) : (r.map f).adopted = r.adopted := rfl

@[simp] theorem result_unchanged (a : α) : (unchanged : Rebound α).result a = a := rfl

@[simp] theorem result_map (f : α → β) (a : α) (r : Rebound α) :
    (r.map f).result (f a) = f (r.result a) := by
  cases h : r.copy <;> simp [result, map, h]

/-- A list is copied part by part. -/
@[simp] theorem result_cons (a : α) (as : List α) (head : Rebound α) (tail : Rebound (List α)) :
    (Rebound.cons a as head tail).result (a :: as) = head.result a :: tail.result as := by
  cases hhead : head.copy <;> cases htail : tail.copy <;> simp [result, Rebound.cons, hhead, htail]

end Rebound

namespace Validator

variable {slot : Nat → Slot} {n : Nat} {follow : Validator → Except Fault (Rebound Validator)}

theorem keepPlaces_cons (label : Option Label) (i : Nat) (p : Property Validator)
    (ps : List (Property Validator)) :
    keepPlaces label i (p :: ps) =
      { p with label := p.label <|> label.map (·.child i) } :: keepPlaces label (i + 1) ps := by
  rw [keepPlaces, keepPlaces, List.zipIdx_cons, List.map_cons]

/-- The places that are kept are identities, and nothing else. -/
theorem adoptProperties_keepPlaces (session : Option Nat) (label : Option Label) (i : Nat)
    (ps : List (Property Validator)) :
    adoptProperties session (keepPlaces label i ps) = adoptProperties session ps := by
  induction ps generalizing i with
  | nil => rfl
  | cons p ps ih => rw [keepPlaces_cons, adoptProperties, adoptProperties, ih]

/-- The properties of a copy, up to their identities. -/
theorem adoptProperties_result_cons (key : Key) (own place : Option Label) (rule : Validator)
    (ps ps' : List (Property Validator)) (head : Rebound Validator)
    (tail : Rebound (List (Property Validator)))
    (hkept : tail.copy = none → adoptProperties none ps' = adoptProperties none ps) :
    adoptProperties none ((Rebound.cons ⟨key, place, rule⟩ ps'
        (head.map fun copy => ⟨key, none, copy⟩) tail).result (⟨key, own, rule⟩ :: ps)) =
      ⟨key, none, (head.result rule).adopt none⟩ :: adoptProperties none (tail.result ps) := by
  cases hhead : head.copy with
  | none => cases htail : tail.copy <;>
      simp [Rebound.result, Rebound.cons, Rebound.map, hhead, htail, adoptProperties]
  | some copy =>
    cases htail : tail.copy with
    | none =>
      simp [Rebound.result, Rebound.cons, Rebound.map, hhead, htail, adoptProperties, hkept htail]
    | some copies =>
      simp [Rebound.result, Rebound.cons, Rebound.map, hhead, htail, adoptProperties]

mutual

/-- **Rebinding is taking over and freezing**, up to identities. -/
theorem rebind_map_adopt (label : Option Label) (v : Validator) :
    (fun r => (r.result v).adopt none) <$> rebind slot n follow label v =
      freeze slot follow (v.adopt (some n)) := by
  cases v with
  | leaf rule => rfl
  | delegate t =>
    rw [rebind, adopt, freeze]
    cases slot t.id with
    | validator h =>
      simp only [map_bind, map_pure]
      refine bind_congr fun r => ?_
      cases hcopy : r.copy <;> simp [Rebound.result, Rebound.map, hcopy, adopt]
    | _ => rfl
  | delegateTo t copy =>
    rw [rebind, adopt, freeze, ← rebind_map_adopt none copy]
    simp [adopt]
  | anyOf vs =>
    rw [rebind, adopt, freeze, ← rebindEach_map_adopt vs]
    simp [adopt]
  | object ps =>
    rw [rebind, adopt, freeze, ← rebindProperties_map_adopt label 0 ps]
    simp [adopt]
  | arrayOf items least most =>
    rw [rebind, adopt, freeze, ← rebind_map_adopt none items]
    simp [adopt, Rebound.result_map (fun items => arrayOf items least most)]
  | selfRef session => cases session <;> rfl
  | external e => rfl

/-- Rebinding alternatives is taking over and freezing each. -/
theorem rebindEach_map_adopt (vs : List Validator) :
    (fun r => adoptEach none (r.result vs)) <$> rebindEach slot n follow vs =
      freezeEach slot follow (adoptEach (some n) vs) := by
  cases vs with
  | nil => rfl
  | cons v vs =>
    rw [rebindEach, adoptEach, freezeEach, ← rebind_map_adopt none v, ← rebindEach_map_adopt vs]
    simp [adoptEach]

/-- Rebinding what stands under keys is taking over and freezing each. -/
theorem rebindProperties_map_adopt (label : Option Label) (i : Nat)
    (ps : List (Property Validator)) :
    (fun r => adoptProperties none (r.result ps)) <$> rebindProperties slot n follow label i ps =
      freezeProperties slot follow (adoptProperties (some n) ps) := by
  cases ps with
  | nil => rfl
  | cons p ps =>
    obtain ⟨key, own, rule⟩ := p
    rw [rebindProperties, adoptProperties, freezeProperties,
      ← rebind_map_adopt (own <|> label.map (·.child i)) rule,
      ← rebindProperties_map_adopt label (i + 1) ps]
    simp only [map_bind, bind_map_left, map_pure]
    refine bind_congr fun head => bind_congr fun tail => ?_
    rw [adoptProperties_result_cons]
    intro htail
    rw [htail, Option.isNone_none, if_pos rfl, adoptProperties_keepPlaces]

end

/-- **What is taken over anyway makes no difference.**  Validators that are the same once their
references belong to the session are rebound to the same, or neither is. -/
theorem rebindTo_map_eq_of_adopt_eq {v w : Validator} (h : v.adopt (some n) = w.adopt (some n))
    (depth : Nat) (label label' : Option Label) :
    (fun r => (r.result v).adopt none) <$> rebindTo slot n depth label v =
      (fun r => (r.result w).adopt none) <$> rebindTo slot n depth label' w := by
  cases depth with
  | zero => rfl
  | succ depth => rw [rebindTo, rebindTo, rebind_map_adopt, rebind_map_adopt, h]

end Validator

end Conformance
