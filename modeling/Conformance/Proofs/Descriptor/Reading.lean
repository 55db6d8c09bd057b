import Conformance.Proofs.Descriptor.Members
import Conformance.Proofs.Descriptor.StringRule
import Conformance.Proofs.Except
import Mathlib.Data.List.Forall2

/-!
# What descriptors are read as

The descriptors of rules, choices and arrays are put together from a few members each, and reading
them looks these members up again.

## Main Definitions

* `Descriptor.Reads` — a value that is read as some validator, at every place and to every depth that
  is enough for it

## Main statements

* `Descriptor.decodeMembersOf_typed` — a node with a type is told by its type
* `Descriptor.reads_number`, `Descriptor.reads_stringOf` — the rules of numbers and strings
* `Descriptor.reads_anyOf`, `Descriptor.reads_arrayOf` — nodes with nodes inside
-/

namespace Conformance.Descriptor

variable {n : Nat} {decode : NodeReader} {pointer : String} {fs : List (String × Value)}

/-! ## Names -/

/-- A name is not there. -/
theorem lookup_eq_none {names : List String} {name : String} (hnames : ∀ f ∈ fs, f.1 ∈ names)
    (hname : name ∉ names) : fs.lookup name = none := by
  refine List.lookup_eq_none_iff.mpr fun f hf => ?_
  rw [bne_iff_ne]
  rintro rfl
  exact hname (hnames f hf)

/-- No keyword is refused where each is allowed. -/
theorem only_ofTexts {allowed : List String} (hnames : ∀ f ∈ fs, f.1 ∈ allowed) :
    only pointer allowed (Entries.ofTexts fs) = .ok () := by
  have hextra : (keywords (Entries.ofTexts fs)).filter (fun k => !isOneOf allowed k) = [] := by
    refine List.filter_eq_nil_iff.mpr fun k hk => ?_
    obtain ⟨e, he, rfl⟩ := List.mem_map.mp (List.mem_of_mem_filter hk)
    obtain ⟨f, hf, rfl⟩ := List.mem_map.mp he
    simpa [isOneOf] using hnames f hf
  rw [only, hextra]
  rfl

/-- The keywords that decide what a node is before its type does. -/
def decisive : List String :=
  ["x-delegate", "x-instanceOf", "x-reference", "$ref", "anyOf", "const", "enum"]

/-- **A node with a type is told by its type**, if there is no keyword that comes before. -/
theorem decodeMembersOf_typed {names : List String} {type : String}
    (hnames : ∀ f ∈ fs, f.1 ∈ names) (hdecisive : ∀ k ∈ decisive, k ∉ names)
    (htype : fs.lookup "type" = some (.text type)) :
    decodeMembersOf n decode pointer (Entries.ofTexts fs) =
      decodeTyped decode pointer (Entries.ofTexts fs) type := by
  have hnone : ∀ k ∈ decisive, member? k (Entries.ofTexts fs) = none := by
    intro k hk
    rw [member?, Entries.find?_ofTexts, lookup_eq_none hnames (hdecisive k hk)]
  have hkind : member? "type" (Entries.ofTexts fs) = some (.text type) := by
    rw [member?, Entries.find?_ofTexts, htype]
  have hwords : (keywords (Entries.ofTexts fs)).isEmpty = false := by
    obtain ⟨before, after, rfl, -⟩ := List.lookup_eq_some_iff.mp htype
    have hmem : Value.text "type" ∈
        keywords (Entries.ofTexts (before ++ ("type", .text type) :: after)) := by
      refine List.mem_filter.mpr ⟨?_, by decide⟩
      simp [Entries.ofTexts]
    rw [List.isEmpty_eq_false_iff]
    exact List.ne_nil_of_mem hmem
  have hidentity : (identityKeywords.find? fun k => (member? k (Entries.ofTexts fs)).isSome) = none := by
    refine List.find?_eq_none.mpr fun k hk => ?_
    rw [hnone k (by revert hk; revert k; decide)]
    exact Bool.false_ne_true
  unfold decodeMembersOf
  simp only [hwords, hidentity, hnone _ (show "$ref" ∈ decisive by decide),
    hnone _ (show "anyOf" ∈ decisive by decide), hnone _ (show "const" ∈ decisive by decide),
    hnone _ (show "enum" ∈ decisive by decide), hkind, Bool.false_eq_true, if_false]

/-! ## What is read -/

/-- **A value is read as some validator**, at every place and to every depth that is enough for it. -/
def Reads (n : Nat) (descriptor : Value) (R : Validator → Prop) : Prop :=
  ∀ depth pointer, descriptor.depth ≤ depth →
    ∃ w, decodeTo n depth descriptor pointer = .ok w ∧ R w

theorem Reads.mono {descriptor : Value} {R R' : Validator → Prop} (h : Reads n descriptor R)
    (himp : ∀ w, R w → R' w) : Reads n descriptor R' := by
  intro depth pointer hdepth
  obtain ⟨w, hw, hR⟩ := h depth pointer hdepth
  exact ⟨w, hw, himp w hR⟩

/-- What is read in one way only has all properties that are known of it. -/
theorem Reads.and {descriptor : Value} {R R' : Validator → Prop} (h : Reads n descriptor R)
    (h' : Reads n descriptor R') : Reads n descriptor fun w => R w ∧ R' w := by
  intro depth pointer hdepth
  obtain ⟨w, hw, hR⟩ := h depth pointer hdepth
  obtain ⟨w', hw', hR'⟩ := h' depth pointer hdepth
  cases hw.symm.trans hw'
  exact ⟨w, hw, hR, hR'⟩

/-- A dictionary is read by its members, and what stands in it with one step less. -/
theorem reads_of_members {R : Validator → Prop}
    (h : ∀ depth pointer, (Value.record fs).depth ≤ depth + 1 →
      ∃ w, decodeMembersOf n (decodeTo n depth) pointer (Entries.ofTexts fs) = .ok w ∧ R w) :
    Reads n (.record fs) R := by
  intro depth pointer hdepth
  cases depth with
  | zero => simp [Value.record, Value.dict, Value.depth] at hdepth
  | succ depth => exact h depth pointer hdepth

/-- A dictionary without nodes inside. -/
theorem reads_leaf {w : Validator} {R : Validator → Prop}
    (h : ∀ decode pointer, decodeMembersOf n decode pointer (Entries.ofTexts fs) = .ok w) (hR : R w) :
    Reads n (.record fs) R :=
  reads_of_members fun depth pointer _ => ⟨w, h (decodeTo n depth) pointer, hR⟩

/-! ## Numbers -/

/-- The member for a bound, if it is set. -/
def boundField (keyword : String) : Option Num → List (String × Value)
  | none => []
  | some n => [(keyword, .number n)]

/-- The member for the steps: a single one has a keyword of its own. -/
def stepField : List Num → List (String × Value)
  | [] => []
  | [s] => [("multipleOf", .number s)]
  | steps => [("x-multipleOf", .list (steps.map .number))]

/-- The members of a number's descriptor. -/
def numberFields (b : Bounds) : List (String × Value) :=
  [("type", .text "number")] ++ boundField "minimum" b.minimum ++ boundField "maximum" b.maximum ++
    boundField "exclusiveMinimum" b.exclusiveMinimum ++
    boundField "exclusiveMaximum" b.exclusiveMaximum ++ stepField b.steps

theorem describe_number (b : Bounds) : b.describe = .record (numberFields b) := rfl

theorem lookup_boundField (name keyword : String) (o : Option Num) :
    (boundField keyword o).lookup name = if name = keyword then o.map .number else none := by
  cases o <;> by_cases h : name = keyword <;> simp [boundField, h]

/-- There are no other members for the steps. -/
theorem lookup_stepField {name : String} (hone : name ≠ "multipleOf") (hmany : name ≠ "x-multipleOf")
    (steps : List Num) : (stepField steps).lookup name = none := by
  rcases steps with _ | ⟨s, _ | ⟨s', steps⟩⟩ <;> simp [stepField, hone, hmany]

/-- The keywords of a number. -/
def numberNames : List String :=
  ["type", "minimum", "maximum", "exclusiveMinimum", "exclusiveMaximum", "multipleOf", "x-multipleOf"]

theorem names_numberFields (b : Bounds) : ∀ f ∈ numberFields b, f.1 ∈ numberNames := by
  have hbound : ∀ keyword ∈ numberNames, ∀ o, ∀ f ∈ boundField keyword o, f.1 ∈ numberNames := by
    intro keyword hkeyword o f hf
    cases o with
    | none => cases hf
    | some n => rwa [List.mem_singleton.mp hf]
  have hstep : ∀ f ∈ stepField b.steps, f.1 ∈ numberNames := by
    rcases b.steps with _ | ⟨s, _ | ⟨s', steps⟩⟩ <;> simp [stepField, numberNames]
  simp only [numberFields, List.forall_mem_append]
  refine ⟨⟨⟨⟨⟨by simp [numberNames], ?_⟩, ?_⟩, ?_⟩, ?_⟩, hstep⟩ <;>
    exact hbound _ (by decide) _

theorem mapM_numberUnder (keyword : String) (ns : List Num) :
    (ns.map Value.number).mapM (numberUnder pointer keyword) = .ok ns := by
  induction ns with
  | nil => rfl
  | cons m ns ih =>
    rw [List.map_cons, List.mapM_cons, ih]
    rfl

theorem numberMember_ofTexts {keyword : String} {o : Option Num}
    (h : fs.lookup keyword = o.map .number) :
    numberMember pointer keyword (Entries.ofTexts fs) = .ok o := by
  rw [numberMember, member?, Entries.find?_ofTexts, h]
  cases o <;> rfl

/-- A bound is found under its keyword. -/
theorem lookup_numberFields (b : Bounds) :
    (numberFields b).lookup "type" = some (.text "number") ∧
    (numberFields b).lookup "minimum" = b.minimum.map .number ∧
    (numberFields b).lookup "maximum" = b.maximum.map .number ∧
    (numberFields b).lookup "exclusiveMinimum" = b.exclusiveMinimum.map .number ∧
    (numberFields b).lookup "exclusiveMaximum" = b.exclusiveMaximum.map .number ∧
    (numberFields b).lookup "multipleOf" = (stepField b.steps).lookup "multipleOf" ∧
    (numberFields b).lookup "x-multipleOf" = (stepField b.steps).lookup "x-multipleOf" := by
  simp [numberFields, List.lookup_append, lookup_boundField, lookup_stepField, List.lookup_cons]

/-- **Bounds and steps** come back as they were. -/
theorem decodeNumber_describe {b : Bounds} (h : b.steps.all Num.isPositive = true) :
    decodeNumber pointer (Entries.ofTexts (numberFields b)) = .ok (.leaf (.number b)) := by
  obtain ⟨-, hminimum, hmaximum, hlow, hhigh, hone, hmany⟩ := lookup_numberFields b
  -- a single step and several ones stand under different keywords
  have hsteps : ∃ step rest, step.toList ++ rest = b.steps ∧
      numberMember pointer "multipleOf" (Entries.ofTexts (numberFields b)) = .ok step ∧
      stepList pointer (Entries.ofTexts (numberFields b)) = .ok rest := by
    simp only [numberMember, stepList, member?, Entries.find?_ofTexts, hone, hmany]
    rcases b.steps with _ | ⟨s, _ | ⟨s', steps⟩⟩
    · exact ⟨none, [], rfl, rfl, rfl⟩
    · exact ⟨some s, [], rfl, rfl, rfl⟩
    · exact ⟨none, s :: s' :: steps, rfl, rfl, mapM_numberUnder _ _⟩
  obtain ⟨step, rest, hsum, hstep, hrest⟩ := hsteps
  have honly : only pointer numberNames (Entries.ofTexts (numberFields b)) = .ok () :=
    only_ofTexts (names_numberFields b)
  rw [numberNames] at honly
  simp only [decodeNumber, honly, numberMember_ofTexts hminimum, numberMember_ofTexts hmaximum,
    numberMember_ofTexts hlow, numberMember_ofTexts hhigh, hstep, hrest, Except.ok_bind, hsum, h,
    if_true]
  rfl

/-- **Numbers** are read as they were. -/
theorem reads_number {b : Bounds} (h : b.steps.all Num.isPositive = true) :
    Reads n b.describe (· = .leaf (.number b)) := by
  rw [describe_number]
  refine reads_leaf (fun decode pointer => ?_) rfl
  rw [decodeMembersOf_typed (names_numberFields b) (by decide) (lookup_numberFields b).1]
  exact decodeNumber_describe h

/-! ## Strings -/

/-- A text is not read as a string rule: it has not the shape of one, or its character set makes no
regex. -/
def NoStringRule (source : String) : Prop :=
  ∀ charset counts, StringRule.split? source = some (charset, counts) →
    ∃ least most e, StringRule.lengths counts = .ok (least, most) ∧
      CharsetRule.make charset least most = .error (.compile e)

/-- A text without the shape of a string rule. -/
theorem noStringRule_of_shape {source : String} (h : StringRule.split? source = none) :
    NoStringRule source := by
  intro charset counts hsplit
  cases h.symm.trans hsplit

/-- A source that is read as a regex, and not as a string rule. -/
theorem decodeString_regex {source : String} {r : Regex} (hr : Regex.ofSource source .none = .ok r)
    (hrule : NoStringRule source) :
    decodeString pointer (Entries.ofTexts [("type", .text "string"), ("pattern", .text source)]) =
      .ok (.leaf (.regex r)) := by
  have hregex : decodeRegex pointer source = .ok (.leaf (.regex r)) := by rw [decodeRegex, hr]
  have hmember : member? "pattern" (Entries.ofTexts
      [("type", Value.text "string"), ("pattern", .text source)]) = some (.text source) := rfl
  have honly : only pointer ["type", "pattern"] (Entries.ofTexts
      [("type", Value.text "string"), ("pattern", .text source)]) = .ok () := rfl
  simp only [decodeString, honly, hmember, Except.ok_bind]
  cases hsplit : StringRule.split? source with
  | none => exact hregex
  | some parts =>
    obtain ⟨charset, counts⟩ := parts
    obtain ⟨least, most, e, hlengths, hmake⟩ := hrule charset counts hsplit
    simp only [hlengths, ofFault, Except.mapError, Except.ok_bind, hmake]
    exact hregex

/-- **A source of the shape of a string rule is read as the rule**, if the rule can be made. -/
theorem decodeString_rule_of_split {source charset : String} {counts : StringRule.Counts} {least : Nat}
    {most : Option Nat} {rule : CharsetRule} (hsplit : StringRule.split? source = some (charset, counts))
    (hlengths : StringRule.lengths counts = .ok (least, most))
    (hmake : CharsetRule.make charset least most = .ok rule) :
    decodeString pointer (Entries.ofTexts [("type", .text "string"), ("pattern", .text source)]) =
      .ok (.leaf (.stringOf rule)) := by
  have hmember : member? "pattern" (Entries.ofTexts
      [("type", Value.text "string"), ("pattern", .text source)]) = some (.text source) := rfl
  have honly : only pointer ["type", "pattern"] (Entries.ofTexts
      [("type", Value.text "string"), ("pattern", .text source)]) = .ok () := rfl
  simp only [decodeString, honly, hmember, hsplit, hlengths, ofFault, Except.mapError,
    Except.ok_bind, hmake]
  rfl

/-- The source of a string rule is read as the rule, unless there is a newline in the character
set. -/
theorem decodeString_rule {rule : CharsetRule} (hne : rule.charset ≠ "")
    (hrule : CharsetRule.make rule.charset rule.least rule.most = .ok rule)
    (hnewline : '\n' ∉ rule.charset.toList) :
    decodeString pointer (Entries.ofTexts [("type", .text "string"),
      ("pattern", .text (CharsetRule.source rule.charset rule.least rule.most))]) =
      .ok (.leaf (.stringOf rule)) := by
  obtain ⟨hleast, hmost, -⟩ := CharsetRule.make_eq_ok hrule
  have hsplit := StringRule.split?_source rule.least rule.most hne
  rw [if_neg hnewline] at hsplit
  exact decodeString_rule_of_split hsplit (StringRule.lengths_ofLengths hleast hmost) hrule

/-- **What the source of a string rule is read as**: the rule, or its regex where there is a newline in
the character set. -/
def leafOfSource (rule : CharsetRule) : Leaf :=
  if '\n' ∈ rule.charset.toList then .regex rule.regex else .stringOf rule

/-- A string rule is read as what its source is read as. -/
theorem reads_leafOfSource {rule : CharsetRule} (h : (Leaf.stringOf rule).Portable) :
    Reads n (Leaf.stringOf rule).describe (· = .leaf (leafOfSource rule)) := by
  obtain ⟨hne, hrule⟩ := h
  rw [Leaf.describe, Value.record_eq, leafOfSource]
  split
  · next hnewline =>
    obtain ⟨-, -, hregex⟩ := CharsetRule.make_eq_ok hrule
    have hshape := StringRule.split?_source rule.least rule.most hne
    rw [if_pos hnewline] at hshape
    exact reads_leaf (fun decode pointer => decodeString_regex hregex (noStringRule_of_shape hshape)) rfl
  · next hnewline =>
    exact reads_leaf (fun decode pointer => decodeString_rule hne hrule hnewline) rfl

/-- **String rules** are read as they were, or as their regex. -/
theorem reads_stringOf {rule : CharsetRule} (h : (Leaf.stringOf rule).Portable) :
    Reads n (Leaf.stringOf rule).describe fun w =>
      w = .leaf (.stringOf rule) ∨ w = .leaf (.regex rule.regex) := by
  refine (reads_leafOfSource h).mono fun w hw => ?_
  rw [hw, leafOfSource]
  split
  · exact .inr rfl
  · exact .inl rfl

/-! ## Choices and arrays -/

/-- A part of a sequence is less deep than the sequence. -/
theorem depth_lt_of_mem {form : SeqForm} {tag : Nat} {items : List Value} {v : Value}
    (h : v ∈ items) : v.depth < (Value.seq form tag items).depth := by
  rw [Value.depth, Nat.lt_succ_iff]
  induction items with
  | nil => cases h
  | cons item items ih =>
    rw [Value.depthAll]
    rcases List.mem_cons.mp h with rfl | h
    · exact Nat.le_max_left _ _
    · exact Nat.le_trans (ih h) (Nat.le_max_right _ _)

/-- What stands under a name is less deep than the dictionary. -/
theorem depth_lt_of_mem_fields {name : String} {v : Value} (h : (name, v) ∈ fs) :
    v.depth < (Value.record fs).depth := by
  rw [Value.record_eq, Value.dict, Value.depth, Nat.lt_succ_iff]
  induction fs with
  | nil => cases h
  | cons f fs ih =>
    rw [Entries.ofTexts, List.map_cons, Value.depthUnder, ← Entries.ofTexts]
    rcases List.mem_cons.mp h with rfl | h
    · exact Nat.le_max_left _ _
    · exact Nat.le_trans (ih h) (Nat.le_max_right _ _)

/-- The nodes of a list are read one by one. -/
theorem decodeEach_of_forall (pointer : String) {α : Type} {R : α → Validator → Prop} {as : List α}
    {nodes : List Value}
    (h : List.Forall₂ (fun a node => ∀ pointer, ∃ w, decode node pointer = .ok w ∧ R a w) as nodes)
    (i : Nat) :
    ∃ ws, decodeEach decode pointer i nodes = .ok ws ∧ List.Forall₂ R as ws := by
  induction h generalizing i with
  | nil => exact ⟨[], rfl, .nil⟩
  | cons hnode _ ih =>
    obtain ⟨w, hw, hR⟩ := hnode s!"{pointer}/{i}"
    obtain ⟨ws, hws, hRs⟩ := ih (i + 1)
    refine ⟨w :: ws, ?_, .cons hR hRs⟩
    rw [decodeEach, hw, Except.ok_bind, hws]
    rfl

/-- Nodes that are read are read at every place, to a depth that is enough for each. -/
theorem forall₂_of_reads {α : Type} {R : α → Validator → Prop} {as : List α} {nodes : List Value}
    {depth : Nat} (h : List.Forall₂ (fun a node => Reads n node (R a)) as nodes)
    (hdepth : ∀ node ∈ nodes, node.depth ≤ depth) :
    List.Forall₂ (fun a node => ∀ pointer, ∃ w, decodeTo n depth node pointer = .ok w ∧ R a w) as
      nodes := by
  induction h with
  | nil => exact .nil
  | cons hnode _ ih =>
    obtain ⟨hfirst, hrest⟩ := List.forall_mem_cons.mp hdepth
    exact .cons (fun pointer => hnode depth pointer hfirst) (ih hrest)

/-- **A choice** is read alternative by alternative. -/
theorem reads_anyOf {α : Type} {R : α → Validator → Prop} {as : List α} {nodes : List Value}
    (hne : as ≠ []) (h : List.Forall₂ (fun a node => Reads n node (R a)) as nodes) :
    Reads n (.record [("anyOf", .list nodes)]) fun w => ∃ ws, w = .anyOf ws ∧ List.Forall₂ R as ws := by
  refine reads_of_members fun depth pointer hdepth => ?_
  have hnodes : ∀ node ∈ nodes, node.depth ≤ depth := by
    intro node hnode
    have hlist : node.depth < (Value.list nodes).depth := depth_lt_of_mem hnode
    have hmem : ("anyOf", Value.list nodes) ∈ [("anyOf", Value.list nodes)] := List.mem_cons_self
    have hfield := depth_lt_of_mem_fields hmem
    omega
  obtain ⟨ws, hws, hRs⟩ :=
    decodeEach_of_forall s!"{pointer}/anyOf" (forall₂_of_reads h hnodes) 0
  refine ⟨.anyOf ws, ?_, ws, rfl, hRs⟩
  cases h with
  | nil => exact absurd rfl hne
  | @cons _ node _ nodes _ _ =>
    have hmembers : decodeMembersOf n (decodeTo n depth) pointer
        (Entries.ofTexts [("anyOf", .list (node :: nodes))]) =
          Validator.anyOf <$> decodeEach (decodeTo n depth) s!"{pointer}/anyOf" 0 (node :: nodes) := rfl
    rw [hmembers, hws]
    rfl

theorem lengthUnder_int (keyword : String) (length : Nat) :
    lengthUnder pointer keyword (.int length) = .ok length := by
  simp [lengthUnder, Value.int, Value.length?]

/-- The members of an array's descriptor. -/
def arrayFields (least : Nat) (most : Option Nat) (node : Value) : List (String × Value) :=
  [("type", .text "array"), ("items", node)] ++
    (if least = 0 then [] else [("minItems", .int least)]) ++
    match most with
    | none => []
    | some m => [("maxItems", .int m)]

/-- The keywords of an array. -/
def arrayNames : List String := ["type", "items", "minItems", "maxItems"]

theorem names_arrayFields (least : Nat) (most : Option Nat) (node : Value) :
    ∀ f ∈ arrayFields least most node, f.1 ∈ arrayNames := by
  by_cases hzero : least = 0 <;> cases most <;> simp [arrayFields, arrayNames, hzero]

/-- What stands under the keywords of an array. -/
theorem lookup_arrayFields (least : Nat) (most : Option Nat) (node : Value) :
    (arrayFields least most node).lookup "type" = some (.text "array") ∧
    (arrayFields least most node).lookup "items" = some node ∧
    ((arrayFields least most node).lookup "minItems").getD (.int 0) = .int least ∧
    (arrayFields least most node).lookup "maxItems" = most.map fun m => .int m := by
  by_cases hzero : least = 0 <;> cases most <;>
    simp [arrayFields, hzero, List.lookup_cons]

/-- The lengths of an array come back, around what its elements are read as. -/
theorem decodeArray_describe (least : Nat) (most : Option Nat) (node : Value) :
    decodeArray decode pointer (Entries.ofTexts (arrayFields least most node)) =
      (fun w => Validator.arrayOf w least most) <$> decode node s!"{pointer}/items" := by
  obtain ⟨-, hitems, hleast, hmost⟩ := lookup_arrayFields least most node
  have honly : only pointer arrayNames (Entries.ofTexts (arrayFields least most node)) = .ok () :=
    only_ofTexts (names_arrayFields least most node)
  rw [arrayNames] at honly
  simp only [decodeArray, member?, Entries.find?_ofTexts, honly, hitems, hleast, hmost,
    lengthUnder_int, Except.ok_bind]
  cases most with
  | none =>
    rw [Option.map_none, Option.getD_none]
    rfl
  | some m =>
    have hlength : lengthUnder pointer "maxItems" (.int m) = .ok m := lengthUnder_int _ m
    have hint : Value.int m = .number (.int m) := rfl
    simp only [Option.map_some, Option.getD_some, hint] at hlength ⊢
    rw [hlength]
    rfl

/-- **An array** is read with its lengths. -/
theorem reads_arrayOf {R : Validator → Prop} {node : Value} (h : Reads n node R) (least : Nat)
    (most : Option Nat) :
    Reads n (describeArray least most node) fun w => ∃ item, w = .arrayOf item least most ∧ R item := by
  have hfields : describeArray least most node = .record (arrayFields least most node) := rfl
  rw [hfields]
  refine reads_of_members fun depth pointer hdepth => ?_
  have hmem : ("items", node) ∈ arrayFields least most node := by simp [arrayFields]
  have hlt := depth_lt_of_mem_fields hmem
  obtain ⟨w, hw, hR⟩ := h depth s!"{pointer}/items" (by omega)
  refine ⟨.arrayOf w least most, ?_, w, rfl, hR⟩
  rw [decodeMembersOf_typed (names_arrayFields least most node) (by decide)
    (lookup_arrayFields least most node).1]
  have harray : decodeArray (decodeTo n depth) pointer _ = _ <$> decodeTo n depth node _ :=
    decodeArray_describe least most node
  rw [hw] at harray
  exact harray

end Conformance.Descriptor
