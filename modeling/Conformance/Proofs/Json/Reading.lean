import Conformance.Json.Reading
import Conformance.Proofs.Descriptor.Writing

/-!
# What JSON texts stand for

## Main Definitions

* `Value.IsJson` — the values that a JSON text can stand for
* `Json.Yields` — a reader that is done, with a result of some kind if it has one

## Main statements

* `Json.yields_read` — a text that is read stands for such a value, and the one fault of reading is a
  numeral that is too long
-/

namespace Conformance

/-- **The values of JSON**: null, truth values, numbers, texts, lists, and dictionaries whose keys are
texts without repetition. -/
inductive Value.IsJson : Value → Prop where
  | null : IsJson .null
  | bool (b : Bool) : IsJson (.bool b)
  | number (n : Num) : IsJson (.number n)
  | text (s : String) : IsJson (.text s)
  | list {tag : Nat} {items : List Value} : (∀ v ∈ items, IsJson v) → IsJson (.seq .list tag items)
  | dict {tag : Nat} {fs : List (String × Value)} : (fs.map Prod.fst).Nodup →
    (∀ f ∈ fs, IsJson f.2) → IsJson (.mapping .dict tag (Entries.ofTexts fs))

theorem Value.IsJson.emptyDict (tag : Nat) : (Value.mapping .dict tag []).IsJson :=
  @dict tag [] List.nodup_nil fun _ hf => absurd hf List.not_mem_nil

/-- Pairs with texts as keys, written one after another, make a dictionary of such keys. -/
theorem Entries.exists_ofPairs {α : Type} {P : α → Prop} {pairs : List (Value × α)}
    (h : ∀ p ∈ pairs, (∃ name, p.1 = .text name) ∧ P p.2) :
    ∃ fs, ofPairs pairs = ofTexts fs ∧ (fs.map Prod.fst).Nodup ∧ ∀ f ∈ fs, P f.2 := by
  -- what is recorded after the first pairs
  have hrecords : ∀ (es : List (Value × α)) (f : String → Option α), Records f es →
      (∀ name a, f name = some a → P a) →
      ∃ g, Records g (pairs.foldl (fun entries p => insert p.1 p.2 entries) es) ∧
        ∀ name a, g name = some a → P a := by
    induction pairs with
    | nil => exact fun es f hf hP => ⟨f, hf, hP⟩
    | cons p pairs ih =>
      intro es f hf hP
      obtain ⟨⟨⟨name, hname⟩, hp⟩, hpairs⟩ := List.forall_mem_cons.mp h
      have hinsert := hf.insert name p.2
      rw [← hname] at hinsert
      refine ih hpairs _ _ hinsert fun k a hk => ?_
      split at hk
      · exact Option.some.inj hk ▸ hp
      · exact hP k a hk
  have hnone : ∀ (name : String) (a : α), (none : Option α) = some a → P a := by
    intro name a h
    cases h
  obtain ⟨g, ⟨fs, hfs, hnodup, hlookup⟩, hP⟩ :=
    hrecords [] (fun _ => none) ⟨[], rfl, List.nodup_nil, fun _ => rfl⟩ hnone
  refine ⟨fs, hfs, hnodup, fun f hf => hP f.1 f.2 ?_⟩
  rw [← hlookup, ← mem_iff_lookup hnodup]
  exact hf

namespace Json

/-! ## Readers -/

/-- A reader is done, with a result of some kind if it has one.  The one fault that it can end with is
a numeral that is too long. -/
structure Yields {α : Type} (P : α → Prop) (r : Except Failure α) : Prop where
  ok : ∀ a, r = .ok a → P a
  fault : ∀ f, r = .error (.fault f) → f = .tooManyDigits

namespace Yields

variable {α β : Type} {P : α → Prop} {Q : β → Prop}

theorem done {a : α} (h : P a) : Yields P (.ok a) := ⟨fun _ ha => Except.ok.inj ha ▸ h, nofun⟩

theorem malformed : Yields P (.error .malformed) := ⟨nofun, nofun⟩

theorem tooManyDigits : Yields P (.error (.fault .tooManyDigits)) :=
  ⟨nofun, fun _ hf => (Failure.fault.inj (Except.error.inj hf)).symm⟩

/-- One reader after the other. -/
theorem bind {r : Except Failure α} {next : α → Except Failure β} (hr : Yields P r)
    (hnext : ∀ a, P a → Yields Q (next a)) : Yields Q (r >>= next) := by
  cases r with
  | ok a => exact hnext a (hr.ok a rfl)
  | error e => exact ⟨nofun, fun f hf => hr.fault f (by cases hf; rfl)⟩

end Yields

/-! ## Values -/

theorem yields_string (fuel : Nat) (cs : List Char) : Yields (fun _ => True) (string fuel cs) := by
  induction fuel generalizing cs with
  | zero => exact .malformed
  | succ fuel ih =>
    have hcons : ∀ (c : Char) (cs : List Char), Yields (fun _ => True)
        (string fuel cs >>= fun r => pure (c :: r.1, r.2)) :=
      fun c cs => (ih cs).bind fun _ _ => .done trivial
    cases cs with
    | nil => exact .malformed
    | cons c cs =>
      unfold string
      dsimp only
      split
      · exact .done trivial
      split
      · split
        · split
          · exact hcons _ _
          · exact .malformed
        · split
          · exact hcons _ _
          · exact .malformed
        · exact .malformed
      split
      · exact .malformed
      · exact hcons c cs

/-- A number is read as one, unless it is a whole number of too many digits. -/
theorem yields_number (negative : Bool) (cs : List Char) :
    Yields (fun r => r.1.IsJson) (number negative cs) := by
  have hnumber : ∀ (n : Num) rest, Yields (fun r : Value × List Char => r.1.IsJson)
      (.ok (.number n, rest)) := fun n rest => .done (.number n)
  unfold number
  dsimp only
  split
  all_goals
    split
    · exact .malformed
    split
    · split
      · exact .tooManyDigits
      · exact hnumber _ _
    · exact hnumber _ _

theorem isJson_of_word? {cs rest : List Char} {v : Value} (h : word? cs = some (v, rest)) :
    v.IsJson := by
  obtain ⟨⟨w, v'⟩, hmem, hv'⟩ := List.exists_of_findSome?_eq_some h
  obtain ⟨rest', -, heq⟩ := Option.map_eq_some_iff.mp hv'
  cases heq
  simp only [List.mem_cons, Prod.mk.injEq, List.not_mem_nil, or_false] at hmem
  rcases hmem with ⟨-, rfl⟩ | ⟨-, rfl⟩ | ⟨-, rfl⟩ | ⟨-, rfl⟩ | ⟨-, rfl⟩ | ⟨-, rfl⟩
  · exact .null
  · exact .bool true
  · exact .bool false
  all_goals exact .number _

theorem yields_atom (cs : List Char) : Yields (fun r => r.1.IsJson) (atom cs) := by
  unfold atom
  split
  · next found hfound => exact .done (isJson_of_word? hfound)
  · split
    · exact yields_number true _
    · exact yields_number false _

/-- What is known of a member that was read. -/
def IsMember (e : Value × Value) : Prop := (∃ name, e.1 = .text name) ∧ e.2.IsJson

/-- **Values, elements and members** are read as values of JSON. -/
theorem yields_value (fuel : Nat) :
    (∀ cs, Yields (fun r => r.1.IsJson) (value fuel cs)) ∧
    (∀ cs, Yields (fun r => ∀ v ∈ r.1, v.IsJson) (elements fuel cs)) ∧
    ∀ cs, Yields (fun r => ∀ e ∈ r.1, IsMember e) (members fuel cs) := by
  induction fuel with
  | zero => exact ⟨fun _ => .malformed, fun _ => .malformed, fun _ => .malformed⟩
  | succ fuel ih =>
    obtain ⟨hvalue, helements, hmembers⟩ := ih
    refine ⟨fun cs => ?_, fun cs => ?_, fun cs => ?_⟩
    · unfold value
      split
      · exact (yields_string _ _).bind fun _ _ => .done (.text _)
      · split
        · exact .done (.list fun v hv => absurd hv List.not_mem_nil)
        · exact (helements _).bind fun _ hitems => .done (.list hitems)
      · split
        · exact .done (.emptyDict _)
        · refine (hmembers _).bind fun pairs hpairs => .done ?_
          obtain ⟨fs, hfs, hnodup, hjson⟩ := Entries.exists_ofPairs hpairs
          rw [hfs]
          exact .dict hnodup hjson
      · exact yields_atom _
    · unfold elements
      refine (hvalue cs).bind fun (v, rest) hv => ?_
      dsimp only
      split
      · exact .done (List.forall_mem_singleton.mpr hv)
      · exact (helements _).bind fun _ hrest => .done (List.forall_mem_cons.mpr ⟨hv, hrest⟩)
      · exact .malformed
    · unfold members
      split
      · refine (yields_string _ _).bind fun (name, rest) _ => ?_
        dsimp only
        split
        · refine (hvalue _).bind fun (v, rest) hv => ?_
          dsimp only
          have hentry : IsMember (.text (String.ofList name), v) := ⟨⟨_, rfl⟩, hv⟩
          split
          · exact .done (List.forall_mem_singleton.mpr hentry)
          · exact (hmembers _).bind fun _ hrest => .done (List.forall_mem_cons.mpr ⟨hentry, hrest⟩)
          · exact .malformed
        · exact .malformed
      · exact .malformed

/-- **A text that is read stands for a value of JSON.**  One that is not read is malformed, or holds a
numeral that is too long. -/
theorem yields_read (text : String) : Yields Value.IsJson (read text) := by
  unfold read
  dsimp only
  split
  · exact .malformed
  · refine ((yields_value _).1 _).bind fun r hr => ?_
    split
    · exact .done hr
    · exact .malformed

end Json

end Conformance
