import Conformance.Proofs.Descriptor.Reading

/-!
# What stands in the way of reading a descriptor

Reading stops at the first thing that stands in its way.  Which of several it is depends on the order in
which a descriptor is read; that there is one does not.

## Main Definitions

* `Refusal.unplaced` — a refusal without the place that it names
* `Descriptor.Hindered` — a result that is a value if nothing stands in the way, and a refusal for
  something that does otherwise
* `Descriptor.Hinders` — what stands in the way of reading a descriptor
* `Descriptor.Unreadable` — what stands in the way of reading a text as a pattern

## Main statements

* `Descriptor.hindered_decodeString` — a text is read as a pattern unless it is unreadable
* `Descriptor.hinders_anyOf`, `Descriptor.hinders_arrayOf` — what stands in the way of a choice and of an
  array
-/

namespace Conformance

/-- A refusal without the place that it names. -/
def Refusal.unplaced : Refusal → Refusal
  | .decode e => .decode ⟨e.cause, none⟩
  | e => e

/-- The refusal of a descriptor for some cause, without the place. -/
def DecodeCause.refusal (cause : DecodeCause) : Refusal := .decode ⟨cause, none⟩

namespace Descriptor

variable {α β : Type} {O O' : Refusal → Prop} {r : Except Refusal α}

/-! ## Results -/

/-- **A result is hindered by some refusals only**: it is a value if there are none, and one of them
otherwise. -/
structure Hindered (O : Refusal → Prop) (r : Except Refusal α) : Prop where
  free : ∀ a, r = .ok a → ∀ e, ¬ O e
  refused : ∀ e, r = .error e → O e.unplaced

namespace Hindered

theorem ok {a : α} (h : ∀ e, ¬ O e) : Hindered O (.ok a) := ⟨fun _ _ => h, nofun⟩

theorem error {e : Refusal} (h : O e.unplaced) : Hindered O (.error e : Except Refusal α) :=
  ⟨nofun, fun _ he => by rwa [← Except.error.inj he]⟩

theorem congr (h : Hindered O r) (hO : ∀ e, O e ↔ O' e) : Hindered O' r :=
  ⟨fun a ha e he => h.free a ha e ((hO e).mpr he), fun e he => (hO _).mp (h.refused e he)⟩

/-- One result after the other: what hinders the second does not depend on the value of the first. -/
theorem bind {next : α → Except Refusal β} (h : Hindered O r) (hnext : ∀ a, Hindered O' (next a)) :
    Hindered (fun e => O e ∨ O' e) (r >>= next) := by
  cases r with
  | ok a =>
    refine ⟨fun b hb e => ?_, fun e he => .inr ((hnext a).refused e he)⟩
    exact not_or.mpr ⟨h.free a rfl e, (hnext a).free b hb e⟩
  | error e => exact .error (.inl (h.refused e rfl))

/-- A value made from a result. -/
theorem map (h : Hindered O r) (g : α → β) : Hindered O (g <$> r) := by
  cases r with
  | ok a => exact .ok (h.free a rfl)
  | error e => exact .error (h.refused e rfl)

end Hindered

/-! ## Patterns -/

/-- **What stands in the way of reading a text as a pattern**: it is no regex, or it asks for more than
regexes or string rules take. -/
inductive Unreadable (source : String) : Refusal → Prop where
  | invalid : NoStringRule source → Regex.ofSource source .none = .error .invalid →
    Unreadable source (DecodeCause.invalidPattern source).refusal
  | regex {f : Fault} : NoStringRule source → Regex.ofSource source .none = .error (.fault f) →
    Unreadable source (.fault f)
  | counts {charset : String} {counts : StringRule.Counts} {f : Fault} :
    StringRule.split? source = some (charset, counts) → StringRule.lengths counts = .error f →
    Unreadable source (.fault f)
  | rule {charset : String} {counts : StringRule.Counts} {least : Nat} {most : Option Nat} {f : Fault} :
    StringRule.split? source = some (charset, counts) →
    StringRule.lengths counts = .ok (least, most) →
    CharsetRule.make charset least most = .error (.fault f) → Unreadable source (.fault f)

section Pattern

variable {pointer source : String}

/-- What is not read as a string rule is read as a regex. -/
theorem hindered_decodeRegex (h : NoStringRule source) :
    Hindered (Unreadable source) (decodeRegex pointer source) := by
  rw [decodeRegex]
  cases hregex : Regex.ofSource source .none with
  | ok r =>
    refine .ok fun e he => ?_
    cases he with
    | invalid _ hinvalid => cases hregex.symm.trans hinvalid
    | regex _ hfault => cases hregex.symm.trans hfault
    | counts hsplit hcounts =>
      obtain ⟨least, most, e, hlengths, -⟩ := h _ _ hsplit
      cases hlengths.symm.trans hcounts
    | rule hsplit hcounts hrule =>
      obtain ⟨least, most, e, hlengths, hmake⟩ := h _ _ hsplit
      cases hlengths.symm.trans hcounts
      cases hmake.symm.trans hrule
  | error failure =>
    cases failure with
    | invalid => exact .error (.invalid h hregex)
    | fault f => exact .error (.regex h hregex)

section Rule

variable {charset : String} {counts : StringRule.Counts} {least : Nat} {most : Option Nat}
  (hsplit : StringRule.split? source = some (charset, counts))
  (hlengths : StringRule.lengths counts = .ok (least, most))
include hsplit hlengths

/-- The shape of a string rule with a character set that makes no regex. -/
theorem noStringRule_of_refused {e : CompileError}
    (hmake : CharsetRule.make charset least most = .error (.compile e)) : NoStringRule source := by
  intro charset' counts' hsplit'
  cases hsplit.symm.trans hsplit'
  exact ⟨least, most, e, hlengths, hmake⟩

/-- What is read as a string rule is not unreadable. -/
theorem not_unreadable_of_rule {rule : CharsetRule}
    (hmake : CharsetRule.make charset least most = .ok rule) {e : Refusal} : ¬ Unreadable source e := by
  have hrule : ¬ NoStringRule source := by
    intro h
    obtain ⟨least', most', e', hlengths', hmake'⟩ := h _ _ hsplit
    cases hlengths.symm.trans hlengths'
    cases hmake.symm.trans hmake'
  intro he
  cases he with
  | invalid h _ => exact hrule h
  | regex h _ => exact hrule h
  | counts hsplit' hcounts =>
    cases hsplit.symm.trans hsplit'
    cases hlengths.symm.trans hcounts
  | rule hsplit' hlengths' hmake' =>
    cases hsplit.symm.trans hsplit'
    cases hlengths.symm.trans hlengths'
    cases hmake.symm.trans hmake'

end Rule

/-- **A text is read as a pattern** unless it is unreadable. -/
theorem hindered_decodeString :
    Hindered (Unreadable source) (decodeString pointer
      (Entries.ofTexts [("type", .text "string"), ("pattern", .text source)])) := by
  have hmember : member? "pattern" (Entries.ofTexts
      [("type", Value.text "string"), ("pattern", .text source)]) = some (.text source) := rfl
  have honly : only pointer ["type", "pattern"] (Entries.ofTexts
      [("type", Value.text "string"), ("pattern", .text source)]) = .ok () := rfl
  simp only [decodeString, honly, hmember, Except.ok_bind]
  cases hsplit : StringRule.split? source with
  | none =>
    refine hindered_decodeRegex fun charset counts h => ?_
    cases hsplit.symm.trans h
  | some parts =>
    obtain ⟨charset, counts⟩ := parts
    cases hlengths : StringRule.lengths counts with
    | error f =>
      simp only [hlengths, ofFault, Except.mapError]
      exact .error (Unreadable.counts hsplit hlengths)
    | ok lengths =>
      obtain ⟨least, most⟩ := lengths
      simp only [hlengths, ofFault, Except.mapError, Except.ok_bind]
      cases hmake : CharsetRule.make charset least most with
      | ok rule => exact .ok fun e => not_unreadable_of_rule hsplit hlengths hmake
      | error e =>
        cases e with
        | compile e => exact hindered_decodeRegex (noStringRule_of_refused hsplit hlengths hmake)
        | fault f => exact .error (.rule hsplit hlengths hmake)
        | decode d => exact absurd hmake CharsetRule.make_ne_decode

end Pattern

/-! ## Nodes -/

/-- **What stands in the way of reading a descriptor**, at every place and to every depth that is enough
for it. -/
def Hinders (n : Nat) (O : Refusal → Prop) (descriptor : Value) : Prop :=
  ∀ depth pointer, descriptor.depth ≤ depth → Hindered O (decodeTo n depth descriptor pointer)

section Nodes

variable {n : Nat} {fs : List (String × Value)}

theorem Hinders.congr {descriptor : Value} (h : Hinders n O descriptor) (hO : ∀ e, O e ↔ O' e) :
    Hinders n O' descriptor :=
  fun depth pointer hdepth => (h depth pointer hdepth).congr hO

/-- Nothing stands in the way of what is read. -/
theorem Reads.hinders {descriptor : Value} {R : Validator → Prop} (h : Reads n descriptor R)
    (hO : ∀ e, ¬ O e) : Hinders n O descriptor := by
  intro depth pointer hdepth
  obtain ⟨w, hw, -⟩ := h depth pointer hdepth
  rw [hw]
  exact .ok hO

/-- A dictionary is read by its members, and what stands in it with one step less. -/
theorem hinders_of_members
    (h : ∀ depth pointer, (Value.record fs).depth ≤ depth + 1 →
      Hindered O (decodeMembersOf n (decodeTo n depth) pointer (Entries.ofTexts fs))) :
    Hinders n O (.record fs) := by
  intro depth pointer hdepth
  cases depth with
  | zero => simp [Value.record, Value.dict, Value.depth] at hdepth
  | succ depth => exact h depth pointer hdepth

/-- A dictionary that is refused whatever stands in it. -/
theorem hinders_of_refused {cause : DecodeCause}
    (h : ∀ (decode : NodeReader) pointer, decodeMembersOf n decode pointer (Entries.ofTexts fs) =
      refuse pointer cause) : Hinders n (· = cause.refusal) (.record fs) := by
  refine hinders_of_members fun depth pointer _ => ?_
  rw [h]
  exact .error rfl

/-- The nodes of a list are read one by one. -/
theorem hindered_decodeEach {decode : NodeReader} (pointer : String) {O : α → Refusal → Prop}
    {as : List α} {nodes : List Value}
    (h : List.Forall₂ (fun a node => ∀ pointer, Hindered (O a) (decode node pointer)) as nodes)
    (i : Nat) : Hindered (fun e => ∃ a ∈ as, O a e) (decodeEach decode pointer i nodes) := by
  induction h generalizing i with
  | nil => exact .ok fun _ ⟨_, ha, _⟩ => nomatch ha
  | cons hnode _ ih =>
    refine ((hnode _).bind fun d => (ih (i + 1)).map _).congr fun e => ?_
    rw [List.exists_mem_cons_iff]

/-- Nodes are hindered at every place and to a depth that is enough for each. -/
theorem forall₂_hindered {O : α → Refusal → Prop} {as : List α} {nodes : List Value} {depth : Nat}
    (h : List.Forall₂ (fun a node => Hinders n (O a) node) as nodes)
    (hdepth : ∀ node ∈ nodes, node.depth ≤ depth) :
    List.Forall₂ (fun a node => ∀ pointer, Hindered (O a) (decodeTo n depth node pointer)) as nodes := by
  induction h with
  | nil => exact .nil
  | cons hnode _ ih =>
    obtain ⟨hfirst, hrest⟩ := List.forall_mem_cons.mp hdepth
    exact .cons (fun pointer => hnode depth pointer hfirst) (ih hrest)

/-- **A choice** is hindered by what hinders an alternative, and by the lack of any. -/
theorem hinders_anyOf {O : α → Refusal → Prop} {as : List α} {nodes : List Value}
    (h : List.Forall₂ (fun a node => Hinders n (O a) node) as nodes) :
    Hinders n (fun e => (as = [] ∧ e = DecodeCause.anyOfNotList.refusal) ∨ ∃ a ∈ as, O a e)
      (.record [("anyOf", .list nodes)]) := by
  cases h with
  | nil =>
    have hrefused : Hinders n (· = DecodeCause.anyOfNotList.refusal) (.record [("anyOf", .list [])]) :=
      hinders_of_refused fun _ _ => rfl
    exact hrefused.congr fun e => by simp
  | @cons a node as nodes hnode hnodes =>
    refine hinders_of_members fun depth pointer hdepth => ?_
    have hall : List.Forall₂ (fun a node => Hinders n (O a) node) (a :: as) (node :: nodes) :=
      .cons hnode hnodes
    have hdepths : ∀ v ∈ node :: nodes, v.depth ≤ depth := by
      intro v hv
      have hlist : v.depth < (Value.list (node :: nodes)).depth := depth_lt_of_mem hv
      have hmem : ("anyOf", Value.list (node :: nodes)) ∈ [("anyOf", Value.list (node :: nodes))] :=
        List.mem_cons_self
      have hfield := depth_lt_of_mem_fields hmem
      omega
    have hmembers : decodeMembersOf n (decodeTo n depth) pointer
        (Entries.ofTexts [("anyOf", .list (node :: nodes))]) =
          Validator.anyOf <$> decodeEach (decodeTo n depth) s!"{pointer}/anyOf" 0 (node :: nodes) := rfl
    rw [hmembers]
    refine ((hindered_decodeEach _ (forall₂_hindered hall hdepths) 0).map _).congr fun e => ?_
    simp

/-- **An array** is hindered by what hinders its elements. -/
theorem hinders_arrayOf {node : Value} (h : Hinders n O node) (least : Nat) (most : Option Nat) :
    Hinders n O (describeArray least most node) := by
  have hfields : describeArray least most node = .record (arrayFields least most node) := rfl
  rw [hfields]
  refine hinders_of_members fun depth pointer hdepth => ?_
  have hmem : ("items", node) ∈ arrayFields least most node := by simp [arrayFields]
  have hlt := depth_lt_of_mem_fields hmem
  rw [decodeMembersOf_typed (names_arrayFields least most node) (by decide)
    (lookup_arrayFields least most node).1]
  have hitems := h depth s!"{pointer}/items" (by omega)
  show Hindered O (decodeArray _ _ _)
  rw [decodeArray_describe]
  exact hitems.map _

end Nodes

end Descriptor

end Conformance
