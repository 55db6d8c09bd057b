import Conformance.Descriptor.Decoding
import Conformance.Proofs.Validator.ComingBack
import Conformance.Proofs.Value.Equality
import Conformance.Proofs.Value.Keys

/-!
# Structural equality is an equivalence

Data are null, truth values, numbers, texts, bytes, and the sequences and mappings of data.  Among
them structural equality is symmetric and transitive, and only what holds not-a-number is not equal to
itself.  A literal in a descriptor is equal to the same values as before, so the rules that compare with
a literal accept the same values when they have been read back.

## Main Definitions

* `Value.IsData` — data, with mappings under different keys
* `Value.Inside` — a value at any depth of another

## Main statements

* `Value.deepEqual_comm`, `Value.deepEqual_trans`, `Value.deepEqual_self_iff` — the three laws
* `Value.deepEqual_equivalence` — the laws together, and what they mean for literals in descriptors
-/

namespace Conformance

namespace Value

/-- **Data**: what JSON has, bytes, tuples, and mappings with keys other than texts. -/
inductive IsData : Value → Prop where
  | null : IsData .null
  | bool (b : Bool) : IsData (.bool b)
  | number (n : Num) : IsData (.number n)
  | text (s : String) : IsData (.text s)
  | bytes (bs : List UInt8) : IsData (.bytes bs)
  | seq {form : SeqForm} {tag : Nat} {items : List Value} :
    (∀ v ∈ items, IsData v) → IsData (.seq form tag items)
  | mapping {form : MapForm} {tag : Nat} {entries : List (Value × Value)} :
    Entries.Keyed entries → (∀ e ∈ entries, IsData e.2) → IsData (.mapping form tag entries)

/-- **A value at any depth of another**: it is the other, or inside of a member, key or value of it. -/
inductive Inside (a : Value) : Value → Prop where
  | self : Inside a a
  | member {form : SeqForm} {tag : Nat} {items : List Value} {v : Value} :
    v ∈ items → Inside a v → Inside a (.seq form tag items)
  | key {form : MapForm} {tag : Nat} {entries : List (Value × Value)} {e : Value × Value} :
    e ∈ entries → Inside a e.1 → Inside a (.mapping form tag entries)
  | value {form : MapForm} {tag : Nat} {entries : List (Value × Value)} {e : Value × Value} :
    e ∈ entries → Inside a e.2 → Inside a (.mapping form tag entries)

variable {x y z : Value}

/-- No key holds not-a-number. -/
theorem IsKey.not_inside_nan (h : x.IsKey) : ¬ Inside (.float .nan) x := by
  induction h with
  | number hn =>
    rintro ⟨⟩
    exact hn rfl
  | tuple _ ih =>
    rintro (_ | ⟨hv, hinside⟩)
    exact ih _ hv hinside
  | _ => rintro ⟨⟩

/-! ## Equal members and equal entries -/

/-- Sequences are equal when they have the same length and equal members at each place. -/
theorem deepEqualAll_iff {xs ys : List Value} : deepEqualAll xs ys = true ↔ xs.length = ys.length ∧
    ∀ i (hi : i < xs.length) (hj : i < ys.length), xs[i].deepEqual ys[i] = true := by
  have hforall : deepEqualAll xs ys = true ↔ List.Forall₂ (fun v w => v.deepEqual w = true) xs ys := by
    induction xs generalizing ys with
    | nil => cases ys <;> simp [deepEqualAll]
    | cons x xs ih => cases ys <;> simp [deepEqualAll, ih]
  exact hforall.trans List.forall₂_iff_get

/-- **Mappings are equal** when they have the same size and each entry of the first has one with an
equal key and an equal value in the second. -/
theorem deepEqual_mapping_iff {form form' : MapForm} {tag tag' : Nat} {xs ys : List (Value × Value)}
    (hys : Entries.Keyed ys) :
    deepEqual (.mapping form tag xs) (.mapping form' tag' ys) = true ↔ xs.length = ys.length ∧
      ∀ e ∈ xs, ∃ e' ∈ ys, e'.1.keyForm? = e.1.keyForm? ∧ e.2.deepEqual e'.2 = true := by
  have hentry : ∀ e : Value × Value, ((Entries.find? e.1 ys).any (deepEqual e.2)) = true ↔
      ∃ e' ∈ ys, e'.1.keyForm? = e.1.keyForm? ∧ e.2.deepEqual e'.2 = true := by
    intro e
    rw [Option.any_eq_true]
    constructor
    · rintro ⟨w, hw, heq⟩
      obtain ⟨e', he', hform, rfl⟩ := hys.find?_eq_some_iff.mp hw
      exact ⟨e', he', hform, heq⟩
    · rintro ⟨e', he', hform, heq⟩
      exact ⟨e'.2, hys.find?_eq_some_iff.mpr ⟨e', he', hform, rfl⟩, heq⟩
  simp only [deepEqual, Bool.and_eq_true, beq_iff_eq, deepEqualUnder_eq_all, List.all_eq_true, hentry]

/-! ## The laws -/

/-- One direction of symmetry, for mappings whose values are compared in the same order both ways. -/
theorem deepEqual_mapping_symm {form form' : MapForm} {tag tag' : Nat} {xs ys : List (Value × Value)}
    (hxs : Entries.Keyed xs) (hys : Entries.Keyed ys)
    (hcomm : ∀ e ∈ xs, ∀ e' ∈ ys, e.2.deepEqual e'.2 = true → e'.2.deepEqual e.2 = true)
    (h : deepEqual (.mapping form tag xs) (.mapping form' tag' ys) = true) :
    deepEqual (.mapping form' tag' ys) (.mapping form tag xs) = true := by
  obtain ⟨hlength, hall⟩ := (deepEqual_mapping_iff hys).mp h
  refine (deepEqual_mapping_iff hxs).mpr ⟨hlength.symm, fun e' he' => ?_⟩
  -- no key of `ys` is left over, and the entry found from it leads back to it
  obtain ⟨e, he, hform⟩ := hxs.exists_of_forall hlength
    (fun e he => (hall e he).imp fun _ hfound => ⟨hfound.1, hfound.2.1⟩) e' he'
  obtain ⟨e'', he'', hform', heq⟩ := hall e he
  obtain rfl : e'' = e' := hys.eq_of_form_eq he'' he' (hform'.trans hform)
  exact ⟨e, he, hform, hcomm e he e'' he' heq⟩

/-- **Structural equality is symmetric** on data. -/
theorem deepEqual_comm (hx : x.IsData) (hy : y.IsData) : x.deepEqual y = y.deepEqual x := by
  induction hx generalizing y with
  | null => cases hy <;> rfl
  | bool b =>
    cases hy with
    | bool c => exact Bool.beq_comm
    | _ => rfl
  | number m =>
    cases hy with
    | number n => exact Num.eqv_comm m n
    | _ => rfl
  | text s =>
    cases hy with
    | text t => exact Bool.beq_comm
    | _ => rfl
  | bytes bs =>
    cases hy with
    | bytes cs => exact Bool.beq_comm
    | _ => rfl
  | @seq form tag xs hxs ih =>
    cases hy with
    | @seq form' tag' ys hys =>
      rw [Bool.eq_iff_iff, deepEqual, deepEqual, deepEqualAll_iff, deepEqualAll_iff]
      refine and_congr eq_comm (forall_congr' fun i => ?_)
      rw [forall_comm]
      refine forall₂_congr fun hi hj => ?_
      rw [ih xs[i] (List.getElem_mem hj) (hys ys[i] (List.getElem_mem hi))]
    | _ => rfl
  | @mapping form tag xs hxs hdata ih =>
    cases hy with
    | @mapping form' tag' ys hys hdata' =>
      have hcomm : ∀ e ∈ xs, ∀ e' ∈ ys, e.2.deepEqual e'.2 = e'.2.deepEqual e.2 :=
        fun e he e' he' => ih e he (hdata' e' he')
      refine Bool.eq_iff_iff.mpr ⟨deepEqual_mapping_symm hxs hys ?_, deepEqual_mapping_symm hys hxs ?_⟩
      · exact fun e he e' he' heq => hcomm e he e' he' ▸ heq
      · exact fun e' he' e he heq => (hcomm e he e' he').trans heq
    | _ => rfl

/-- **Structural equality is transitive** on data. -/
theorem deepEqual_trans (hx : x.IsData) (hy : y.IsData) (hz : z.IsData) (hxy : x.deepEqual y = true)
    (hyz : y.deepEqual z = true) : x.deepEqual z = true := by
  induction hx generalizing y z with
  | null =>
    cases hy with
    | null => exact hyz
    | _ => cases hxy
  | bool b =>
    cases hy with
    | bool c => rwa [beq_iff_eq.mp hxy]
    | _ => cases hxy
  | number m =>
    cases hy with
    | number n =>
      cases hz with
      | number k => exact Num.eqv_trans hxy hyz
      | _ => cases hyz
    | _ => cases hxy
  | text s =>
    cases hy with
    | text t => rwa [beq_iff_eq.mp hxy]
    | _ => cases hxy
  | bytes bs =>
    cases hy with
    | bytes cs => rwa [beq_iff_eq.mp hxy]
    | _ => cases hxy
  | @seq form tag xs hxs ih =>
    cases hy with
    | @seq form' tag' ys hys =>
      cases hz with
      | @seq form'' tag'' zs hzs =>
        obtain ⟨hlength, hall⟩ := deepEqualAll_iff.mp hxy
        obtain ⟨hlength', hall'⟩ := deepEqualAll_iff.mp hyz
        refine deepEqualAll_iff.mpr ⟨hlength.trans hlength', fun i hi hk => ?_⟩
        have hj : i < ys.length := hlength ▸ hi
        exact ih xs[i] (List.getElem_mem hi) (hys ys[i] (List.getElem_mem hj))
          (hzs zs[i] (List.getElem_mem hk)) (hall i hi hj) (hall' i hj hk)
      | _ => cases hyz
    | _ => cases hxy
  | @mapping form tag xs hxs hdata ih =>
    cases hy with
    | @mapping form' tag' ys hys hdata' =>
      cases hz with
      | @mapping form'' tag'' zs hzs hdata'' =>
        obtain ⟨hlength, hall⟩ := (deepEqual_mapping_iff hys).mp hxy
        obtain ⟨hlength', hall'⟩ := (deepEqual_mapping_iff hzs).mp hyz
        refine (deepEqual_mapping_iff hzs).mpr ⟨hlength.trans hlength', fun e he => ?_⟩
        obtain ⟨e', he', hform, heq⟩ := hall e he
        obtain ⟨e'', he'', hform', heq'⟩ := hall' e' he'
        exact ⟨e'', he'', hform'.trans hform,
          ih e he (hdata' e' he') (hdata'' e'' he'') heq heq'⟩
      | _ => cases hyz
    | _ => cases hxy

/-- **Only what holds not-a-number is not equal to itself**, among data. -/
theorem deepEqual_self_iff (hx : x.IsData) : x.deepEqual x = true ↔ ¬ Inside (.float .nan) x := by
  induction hx with
  | null => exact iff_of_true rfl (by rintro ⟨⟩)
  | bool b => exact iff_of_true (beq_self_eq_true b) (by rintro ⟨⟩)
  | number n =>
    have hinside : Inside (.float .nan) (.number n) ↔ n = .float .nan :=
      ⟨by rintro ⟨⟩; rfl, by rintro rfl; exact .self⟩
    rw [hinside]
    exact Num.eqv_self_iff
  | text s => exact iff_of_true (beq_self_eq_true s) (by rintro ⟨⟩)
  | bytes bs => exact iff_of_true (beq_self_eq_true bs) (by rintro ⟨⟩)
  | @seq form tag xs hxs ih =>
    rw [deepEqual, deepEqualAll_iff]
    constructor
    · rintro ⟨-, hall⟩ (_ | ⟨hv, hinside⟩)
      obtain ⟨i, hi, rfl⟩ := List.mem_iff_getElem.mp hv
      exact (ih _ hv).mp (hall i hi hi) hinside
    · refine fun hno => ⟨rfl, fun i hi _ => (ih _ (List.getElem_mem hi)).mpr fun hinside => hno ?_⟩
      exact .member (List.getElem_mem hi) hinside
  | @mapping form tag xs hxs hdata ih =>
    rw [deepEqual_mapping_iff hxs]
    constructor
    · rintro ⟨-, hall⟩ hinside
      cases hinside with
      | key he hinside => exact (hxs.isKey_of_mem he).not_inside_nan hinside
      | @value _ _ _ e he hinside =>
        obtain ⟨e', he', hform, heq⟩ := hall e he
        obtain rfl : e' = e := hxs.eq_of_form_eq he' he hform
        exact (ih e' he).mp heq hinside
    · refine fun hno => ⟨rfl, fun e he => ⟨e, he, rfl, (ih e he).mpr fun hinside => hno ?_⟩⟩
      exact .value he hinside

/-! ## Literals that have been read back -/

/-- The rules that compare with a literal: the literal alone, for sequences and for mappings. -/
def literalRules : List (Value → Leaf) := [.literal, .sequenceLike, .mappingLike]

variable {rule : Value → Leaf}

/-- The descriptor of a rule with a literal is read as the same rule, with lists for tuples and
dictionaries for views. -/
theorem decode_describe_literalRule (h : rule ∈ literalRules) (x : Value) (session : Nat) :
    Descriptor.decode session (rule x).describe = .ok (.leaf (rule x.jsonable)) := by
  simp only [literalRules, List.mem_cons, List.not_mem_nil, or_false] at h
  rcases h with rfl | rfl | rfl <;> rfl

/-- **It accepts the same values.** -/
theorem outcome_validate_literalRule (h : rule ∈ literalRules) (x v : Value) (env : Env) :
    (env.validate (.leaf (rule x.jsonable)) v).outcome = (env.validate (.leaf (rule x)) v).outcome := by
  have hback : (rule x).ComesBackAs (.leaf (rule x.jsonable)) ∧ (rule x).IsExact := by
    simp only [literalRules, List.mem_cons, List.not_mem_nil, or_false] at h
    rcases h with rfl | rfl | rfl
    · exact ⟨.literal x, nofun⟩
    · exact ⟨.sequenceLike x, nofun⟩
    · exact ⟨.mappingLike x, nofun⟩
  exact Walk.outcome_guarded_congr (hback.1.outcome_check hback.2 rfl v Path.root)

/-- **Structural equality is an equivalence that descriptors respect.** -/
theorem deepEqual_equivalence (hx : x.IsData) (hy : y.IsData) (hz : z.IsData) (v w : Value) :
    x.deepEqual y = y.deepEqual x ∧
    (x.deepEqual y = true → y.deepEqual z = true → x.deepEqual z = true) ∧
    (x.deepEqual x = true ↔ ¬ Inside (.float .nan) x) ∧
    w.jsonable.jsonable = w.jsonable ∧
    v.deepEqual w.jsonable = v.deepEqual w ∧
    ∀ rule ∈ literalRules, ∀ session : Nat, ∃ back : Validator,
      Descriptor.decode session (rule w).describe = .ok back ∧
      ∀ env : Env, (env.validate back v).outcome = (env.validate (.leaf (rule w)) v).outcome :=
  ⟨deepEqual_comm hx hy, deepEqual_trans hx hy hz, deepEqual_self_iff hx, jsonable_jsonable w,
    deepEqual_jsonable v w, fun _ hrule session =>
      ⟨_, decode_describe_literalRule hrule w session, outcome_validate_literalRule hrule w v⟩⟩

/-- A truth value and a number are one key, and a tuple and a list one value.  A list with not-a-number
does not equal itself. -/
theorem deepEqual_equivalence_of_mappings :
    let one : Value := .float (.finite false 1 0)
    let two : Value := .float (.finite false 1 1)
    let x : Value := .dict (Entries.ofPairs [(.bool true, .seq .tuple 0 [.int 1, two])])
    let y : Value := .mapping .view 0 (Entries.ofPairs [(.int 1, .list [one, .int 2])])
    let z : Value := .dict (Entries.ofPairs [(one, .list [.int 1, .int 2])])
    let unordered : Value := .list [.float .nan, .text "a"]
    let env : Env := ⟨fun _ => none, fun _ => .absent, .zero false⟩
    (x.IsData ∧ y.IsData ∧ z.IsData ∧ unordered.IsData) ∧ x.deepEqual z = true ∧
      z.deepEqual x = true ∧ unordered.deepEqual unordered ≠ true ∧
      ∃ back : Validator, Descriptor.decode 0 (Leaf.mappingLike x).describe = .ok back ∧
        (env.validate back z).outcome = .ok true := by
  intro one two x y z unordered env
  have hpair : ∀ a b : Num, (Value.list [.number a, .number b]).IsData ∧
      (Value.seq .tuple 0 [.number a, .number b]).IsData := fun a b =>
    ⟨.seq (by simpa using ⟨.number a, .number b⟩), .seq (by simpa using ⟨.number a, .number b⟩)⟩
  have hkeyed : ∀ {k : Value}, k.IsKey → ∀ v : Value, Entries.Keyed (Entries.ofPairs [(k, v)]) :=
    fun hk v => Entries.keyed_ofPairs (by simpa using hk)
  have hx : x.IsData := .mapping (hkeyed (.bool true) _) (List.forall_mem_singleton.mpr (hpair _ _).2)
  have hint : (Value.int 1).IsKey := .number (by decide)
  have hone : one.IsKey := .number (by decide)
  have hy : y.IsData := .mapping (hkeyed hint _) (List.forall_mem_singleton.mpr (hpair _ _).1)
  have hz : z.IsData := .mapping (hkeyed hone _) (List.forall_mem_singleton.mpr (hpair _ _).1)
  have hunordered : unordered.IsData := .seq (by simpa using ⟨.number _, .text "a"⟩)
  obtain ⟨-, htrans, -, -, -, hback⟩ := deepEqual_equivalence hx hy hz z x
  obtain ⟨-, -, hself, -⟩ := deepEqual_equivalence hunordered hunordered hunordered x x
  have hxz : x.deepEqual z = true := htrans (by decide +kernel) (by decide +kernel)
  refine ⟨⟨hx, hy, hz, hunordered⟩, hxz, ?_, fun h => ?_, ?_⟩
  · exact (deepEqual_equivalence hz hx hx x x).1.trans hxz
  · exact hself.mp h (.member List.mem_cons_self .self)
  · obtain ⟨back, hdecode, hsame⟩ := hback .mappingLike (by simp [literalRules]) 0
    exact ⟨back, hdecode, (hsame env).trans (by decide +kernel)⟩

end Value

end Conformance
