import Conformance.Pattern.Basic

/-!
# Compiling patterns

## Main Definitions

* `Pattern.compile` — the validator of a pattern, its references made for a session or for none

## Design Notes

Parts are compiled from left to right, and the first that is refused decides.  For an entry of a
mapping, the key is split first, then what stands under it is compiled, and only then the name in the
key is read as a regex.
-/

namespace Conformance

namespace Pattern

/-- The target of an object of the host or of a class. -/
def target? : Value → Option Target
  | .cls (.host c) => some ⟨c.id, c.name⟩
  | .host h => some ⟨h.id, h.name.getD h.typeName⟩
  | _ => none

/-- The validator of a value without parts. -/
def compileValue (slot : Nat → Slot) (session : Option Nat) (inOr : Bool) (v : Value) :
    Except CompileError Validator :=
  match kindOfValue slot inOr v, v with
  | some .schemaClass, v =>
    match target? v with
    | some t => .ok (.delegate t)
    | none => .error (.unrecognized v)
  | some .self, _ => .ok (.selfRef session)
  | some .anything, _ => .ok (.leaf .anything)
  | some .null, _ => .ok (.leaf .null)
  | _, .cls c => .ok (.leaf (.instanceOf c))
  | _, .regex r => .ok (.leaf (.regex r))
  | _, .bool b => .ok (.leaf (.equals (.bool b)))
  | _, .number n => .ok (.leaf (.equals (.number n)))
  | _, .text s => .ok (.leaf (.equals (.text s)))
  | _, v => .error (.unrecognized v)

/-- The identity of a pattern that is a validator already. -/
def label? : Pattern → Option Label
  | validator h => some h.label
  | _ => none

mutual

/-- **The validator of a pattern.**  Directly inside a list of alternatives (`inOr`), a list of one
item is a literal and is not looked into. -/
def compile (slot : Nat → Slot) (session : Option Nat) (inOr : Bool) :
    Pattern → Except Refusal Validator
  | validator h => .ok h.validator
  | value v => (compileValue slot session inOr v).mapError .compile
  | seq _ _ [item] =>
    if inOr then .ok (.leaf (.literal item.toValue))
    else return .anyOf [← compile slot session true item]
  | seq _ _ items => return .anyOf (← compileEach slot session items)
  | mapping _ _ entries => return .object (← compileEntries slot session entries)

/-- The validators of alternatives. -/
def compileEach (slot : Nat → Slot) (session : Option Nat) :
    List Pattern → Except Refusal (List Validator)
  | [] => .ok []
  | p :: ps => do
    let v ← compile slot session true p
    return v :: (← compileEach slot session ps)

/-- The properties of an object pattern. -/
def compileEntries (slot : Nat → Slot) (session : Option Nat) :
    List (Value × Pattern) → Except Refusal (List (Property Validator))
  | [] => .ok []
  | (written, p) :: rest => do
    let (quantifier, source) ← (Key.splitValue written).mapError Refusal.compile
    let v ← compile slot session false p
    let key ← Key.ofParts written.nameText quantifier source
    return ⟨key, p.label?, v⟩ :: (← compileEntries slot session rest)

end

end Pattern

end Conformance
