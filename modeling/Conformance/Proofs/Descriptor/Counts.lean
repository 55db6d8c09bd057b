import Conformance.Proofs.Descriptor.StringRule
import Conformance.Proofs.Regex.Grammar
import Conformance.Proofs.Regex.LiteralName
import Mathlib.Data.List.DropRight

/-!
# Counts are repeats

The counts at the end of a source are cut off as digits of any script, and written anew for the string
rule.  If the digits are those of ASCII, they are also the counts of a repeat in the source, and the rule
means the same: its source is read as the tree of the source it was cut from.

## Main Definitions

* `StringRule.Counts.IsAscii` — counts whose digits are those of ASCII
* `StringRule.Counts.bounds`, `StringRule.Counts.Repeatable` — the numbers that counts in ASCII stand
  for, and when a repeat takes them

## Main statements

* `StringRule.run_braces_iff` — counts are read as a repeat if and only if a repeat takes them
* `StringRule.eq_of_split?` — a source that is cut is put together from its parts
* `StringRule.make_of_ofSource` — the rule of a valid source can be made, and has the tree of the source
-/

namespace Conformance.StringRule

open Regex Regex.SourceReader

/-! ## Counts in ASCII -/

/-- Counts whose digits are those of ASCII. -/
structure Counts.IsAscii (c : Counts) : Prop where
  least : ∀ d ∈ c.least, Decimal.isDigit d = true
  most : ∀ d ∈ c.most, Decimal.isDigit d = true

/-- Counts as they are cut off: there is a lower one, and an upper one behind a comma only. -/
structure Counts.WellFormed (c : Counts) : Prop where
  least : c.least ≠ []
  most : c.comma = false → c.most = []

/-- The digits of the upper count: a single count is both. -/
def Counts.high (c : Counts) : List Char := if c.comma then c.most else c.least

/-- The number that digits of ASCII stand for, none being no bound. -/
def boundOf (ds : List Char) : Option Nat :=
  if ds.isEmpty then none else some (Decimal.natOfDigits ds)

/-- The numbers that counts in ASCII stand for. -/
def Counts.bounds (c : Counts) : Nat × Option Nat := (Decimal.natOfDigits c.least, boundOf c.high)

/-- Digits that a repeat takes for a count. -/
def IsCount (ds : List Char) : Prop :=
  ds.length ≤ Decimal.digitLimit ∧ Decimal.natOfDigits ds < repeatLimit

/-- **Counts that a repeat takes.** -/
structure Counts.Repeatable (c : Counts) : Prop where
  least : IsCount c.least
  high : IsCount c.high
  order : ∀ m ∈ c.bounds.2, c.bounds.1 ≤ m

/-- The units of counts in braces. -/
def Counts.units (c : Counts) : List Token := c.written.map .plain

/-- The units behind the opening brace. -/
theorem Counts.tail_units (c : Counts) : c.units.tail = c.least.map .plain ++
    ((if c.comma then [Token.plain ','] else []) ++ (c.most.map .plain ++ [.plain '\x7d', .plain '$'])) := by
  cases hcomma : c.comma <;> simp [Counts.units, Counts.written, hcomma]

/-! ## Reading them as a repeat -/

variable {s : ParseState} {c c' : Counts}

/-- Characters of a kind are taken up to another one. -/
theorem run_takeWhile_append {test : Char → Bool} {ds : List Char} {ts : List Token} {e : Char}
    (hds : ∀ d ∈ ds, test d = true) (he : test e = false)
    {l : Nat} (hl : ds.length ≤ l) (hrest : s.rest = ds.map .plain ++ .plain e :: ts) :
    (SourceReader.takeWhile test l).run s = .ok (ds, { s with rest := .plain e :: ts }) := by
  induction ds generalizing s l with
  | nil =>
    rw [List.map_nil, List.nil_append] at hrest
    rw [← hrest]
    exact Endings.run_takeWhile_of_head he l (by rw [hrest]; rfl)
  | cons d ds ih =>
    obtain ⟨hd, hds⟩ := List.forall_mem_cons.mp hds
    obtain ⟨l, rfl⟩ : ∃ k, l = k + 1 := ⟨l - 1, by simp at hl; omega⟩
    have hhead : s.rest.tail.head? ≠ some .dangling := by
      rw [hrest]
      cases ds <;> simp
    have htail : s.rest.tail = ds.map .plain ++ .plain e :: ts := by rw [hrest]; rfl
    have hlater := ih (s := { s with rest := s.rest.tail }) hds (Nat.le_of_succ_le_succ hl) htail
    rw [SourceReader.takeWhile, StateT.run_bind, run_peek, hrest, Except.ok_bind, List.map_cons,
      List.cons_append, List.head?_cons]
    dsimp only
    rw [if_pos hd, StateT.run_bind, run_advance hhead, Except.ok_bind, StateT.run_bind, hlater]
    rfl

theorem run_accept_self {e : Char} {ts : List Token} (hts : ts.head? ≠ some .dangling)
    (hrest : s.rest = .plain e :: ts) : (accept e).run s = .ok (true, { s with rest := ts }) := by
  have hadvance := run_advance (s := s) (by rw [hrest]; exact hts)
  rw [accept, StateT.run_bind, run_peek, hrest, List.head?_cons, Except.ok_bind, if_pos rfl,
    StateT.run_bind, hadvance, hrest]
  rfl

theorem run_accept_ne {e : Char} (hne : s.rest.head? ≠ some (.plain e)) :
    (accept e).run s = .ok (false, s) := by
  rw [accept, StateT.run_bind, run_peek, Except.ok_bind]
  dsimp only
  rw [if_neg hne]
  rfl

/-- A count is read if a repeat takes it. -/
theorem run_count?_iff {ds : List Char} {r : Option Nat × ParseState} :
    (count? ds).run s = .ok r ↔ IsCount ds ∧ r = (boundOf ds, s) := by
  cases ds with
  | nil =>
    have hcount : IsCount [] := ⟨Nat.zero_le _, by decide⟩
    exact ⟨fun h => ⟨hcount, (Except.ok.inj h).symm⟩, fun h => by rw [h.2]; rfl⟩
  | cons d ds =>
    rw [count?, List.isEmpty_cons, if_neg Bool.false_ne_true, IsCount]
    dsimp only
    split
    · next hlong =>
      exact iff_of_false (fun h => by cases h) fun h => absurd h.1.1 (Nat.not_le.mpr hlong)
    · next hlong =>
      split
      · next hlarge =>
        exact iff_of_false (fun h => by cases h) fun h => absurd h.1.2 (Nat.not_lt.mpr hlarge)
      · next hlarge =>
        refine ⟨fun h => ⟨⟨Nat.not_lt.mp hlong, Nat.not_le.mp hlarge⟩, ?_⟩, fun h => by rw [h.2]; rfl⟩
        exact (Except.ok.inj h).symm

/-- The counts of a repeat by their digits. -/
def boundsOf (low high : List Char) : SourceReader (Option (Nat × Option Nat)) := do
  let least ← count? low
  let most ← count? high
  if most.any fun m => m < least.getD 0 then invalid
  return some (least.getD 0, most)

/-- Two counts are read if a repeat takes them. -/
theorem run_boundsOf_iff {low high : List Char} (hlow : low ≠ [])
    {r : Option (Nat × Option Nat) × ParseState} : (boundsOf low high).run s = .ok r ↔
      (IsCount low ∧ IsCount high ∧ ∀ m ∈ boundOf high, Decimal.natOfDigits low ≤ m) ∧
        r = (some (Decimal.natOfDigits low, boundOf high), s) := by
  have hleast : (boundOf low).getD 0 = Decimal.natOfDigits low := by
    rw [boundOf, if_neg (by simpa using hlow), Option.getD_some]
  have horder : ((boundOf high).any fun m => m < Decimal.natOfDigits low) = false ↔
      ∀ m ∈ boundOf high, Decimal.natOfDigits low ≤ m := by
    cases boundOf high <;> simp
  constructor
  · intro h
    rw [boundsOf, StateT.run_bind] at h
    obtain ⟨⟨least, u⟩, hcount, h⟩ := Except.bind_eq_ok_iff.mp h
    obtain ⟨hcountLow, heq⟩ := run_count?_iff.mp hcount
    cases heq
    rw [StateT.run_bind] at h
    obtain ⟨⟨most, u⟩, hcount', h⟩ := Except.bind_eq_ok_iff.mp h
    obtain ⟨hcountHigh, heq⟩ := run_count?_iff.mp hcount'
    cases heq
    dsimp only at h
    rw [hleast] at h
    split at h
    · cases h
    · next hany =>
      refine ⟨⟨hcountLow, hcountHigh, horder.mp (by simpa using hany)⟩, ?_⟩
      exact (Except.ok.inj h).symm
  · rintro ⟨⟨hcountLow, hcountHigh, hle⟩, rfl⟩
    rw [boundsOf, StateT.run_bind, run_count?_iff.mpr ⟨hcountLow, rfl⟩, Except.ok_bind, StateT.run_bind,
      run_count?_iff.mpr ⟨hcountHigh, rfl⟩, Except.ok_bind]
    dsimp only
    rw [hleast, horder.mpr hle]
    rfl

/-- Counts in braces are read up to the end of the text. -/
theorem run_braces (hc : c.IsAscii) (hwell : c.WellFormed) (hrest : s.rest = c.units.tail) :
    braces.run s = (boundsOf c.least c.high).run { s with rest := [.plain '$'] } := by
  rw [c.tail_units] at hrest
  obtain ⟨d, ds, hds⟩ := List.exists_cons_of_ne_nil hwell.least
  have hdigit : Decimal.isDigit d = true := hc.least d (hds ▸ List.mem_cons_self)
  have hpeek : s.rest.head? = some (.plain d) := by rw [hrest, hds]; rfl
  have hbrace : some (Token.plain d) ≠ some (.plain '\x7d') := by
    intro h
    cases h
    cases hdigit
  have hlength : c.least.length ≤ s.rest.length ∧ c.most.length ≤ s.rest.length := by
    rw [hrest]
    simp
    omega
  have hclose : Decimal.isDigit '\x7d' = false := by decide
  have hcomma : Decimal.isDigit ',' = false := by decide
  rw [braces, StateT.run_bind, run_peek, hpeek, Except.ok_bind]
  dsimp only
  rw [if_neg hbrace, StateT.run_bind, StateT.run_get, pure_bind, StateT.run_bind]
  dsimp only
  cases hsign : c.comma with
  | true =>
    rw [hsign, if_pos rfl, List.singleton_append] at hrest
    rw [run_takeWhile_append hc.least hcomma hlength.1 hrest, Except.ok_bind, StateT.run_bind,
      run_accept_self (by cases c.most <;> simp) rfl, Except.ok_bind]
    dsimp only
    rw [if_pos rfl, StateT.run_bind, run_takeWhile_append hc.most hclose hlength.2 rfl, Except.ok_bind,
      StateT.run_bind, run_accept_self (by simp) rfl, Except.ok_bind, Counts.high, hsign]
    rfl
  | false =>
    have hmost : c.most = [] := hwell.most hsign
    rw [hsign, hmost, if_neg Bool.false_ne_true, List.map_nil, List.nil_append, List.nil_append] at hrest
    rw [run_takeWhile_append hc.least hclose hlength.1 hrest, Except.ok_bind, StateT.run_bind,
      run_accept_ne (by simp), Except.ok_bind]
    dsimp only
    rw [if_neg Bool.false_ne_true, StateT.run_bind, StateT.run_pure, pure_bind, StateT.run_bind,
      run_accept_self (by simp) rfl, Except.ok_bind, Counts.high, hsign]
    rfl

/-- **Counts are read as a repeat** if and only if a repeat takes them. -/
theorem run_braces_iff (hc : c.IsAscii) (hwell : c.WellFormed) (hrest : s.rest = c.units.tail)
    {r : Option (Nat × Option Nat) × ParseState} : braces.run s = .ok r ↔
      c.Repeatable ∧ r = (some c.bounds, { s with rest := [.plain '$'] }) := by
  rw [run_braces hc hwell hrest, run_boundsOf_iff hwell.least]
  exact and_congr_left' ⟨fun h => ⟨h.1, h.2.1, h.2.2⟩, fun h => ⟨h.least, h.high, h.order⟩⟩

/-! ## The numbers -/

theorem isDigit_of_ascii {d : Char} (h : Decimal.isDigit d = true) : d.isDigit = true := by
  obtain ⟨hlow, hhigh⟩ := Bool.and_eq_true_iff.mp h
  exact Bool.and_eq_true_iff.mpr ⟨hlow, hhigh⟩

theorem ascii_of_mem_digits {n : Nat} {d : Char} (h : d ∈ digits n) : Decimal.isDigit d = true := by
  obtain ⟨hlow, hhigh⟩ := Bool.and_eq_true_iff.mp
    (Nat.isDigit_of_mem_toDigits (by decide) (by decide) h)
  exact Bool.and_eq_true_iff.mpr ⟨hlow, hhigh⟩

theorem numeral_of_isCount {ds : List Char} (hds : ∀ d ∈ ds, Decimal.isDigit d = true) (h : IsCount ds) :
    numeral ds = .ok (Decimal.natOfDigits ds) :=
  numeral_of_isDigit (fun d hd => isDigit_of_ascii (hds d hd)) h.1

/-- **Counts that a repeat takes mean the same lengths.** -/
theorem lengths_of_repeatable (hc : c.IsAscii) (hwell : c.WellFormed) (h : c.Repeatable) :
    lengths c = .ok c.bounds := by
  have hhigh := h.high
  rw [lengths, numeral_of_isCount hc.least h.least, Except.ok_bind, Counts.bounds]
  cases hcomma : c.comma with
  | false =>
    have hbound : boundOf c.high = some (Decimal.natOfDigits c.least) := by
      rw [Counts.high, hcomma, if_neg Bool.false_ne_true, boundOf, if_neg (by simpa using hwell.least)]
    rw [hbound]
    rfl
  | true =>
    rw [Counts.high, hcomma, if_pos rfl] at hhigh ⊢
    rw [numeral_of_isCount hc.most hhigh, boundOf]
    cases c.most.isEmpty <;> rfl

/-- A count is short. -/
theorem length_digits_le {n : Nat} (h : n < repeatLimit) : (digits n).length ≤ 10 :=
  (Nat.length_toDigits_le_iff (by decide) (by decide)).mpr (Nat.lt_trans h (by decide))

theorem tooLong_of_lt {n : Nat} (h : n < repeatLimit) : CharsetRule.tooLong n = false := by
  have hlength : (toString n).length = (digits n).length := by
    rw [← String.length_toList, Nat.toString_eq_repr, Nat.toList_repr]
  have hshort := length_digits_le h
  rw [CharsetRule.tooLong, decide_eq_false_iff_not, hlength, Decimal.digitLimit]
  omega

theorem isCount_digits {n : Nat} (h : n < repeatLimit) : IsCount (digits n) := by
  refine ⟨Nat.le_trans (length_digits_le h) (by decide), ?_⟩
  rwa [natOfDigits_digits]

theorem boundOf_digits (n : Nat) : boundOf (digits n) = some n := by
  rw [boundOf, if_neg (by simp), natOfDigits_digits]

theorem least_ofLengths (least : Nat) (most : Option Nat) :
    (Counts.ofLengths least most).least = digits least := by
  cases most with
  | none => rfl
  | some most =>
    rw [Counts.ofLengths]
    split <;> rfl

theorem high_ofLengths (least : Nat) (most : Option Nat) :
    (Counts.ofLengths least most).high = (most.map digits).getD [] := by
  cases most with
  | none => rfl
  | some most =>
    rw [Counts.ofLengths]
    split
    · next heq => rw [heq]; rfl
    · rfl

/-- **Counts that lengths are written with stand for these lengths.** -/
theorem bounds_ofLengths (least : Nat) (most : Option Nat) :
    (Counts.ofLengths least most).bounds = (least, most) := by
  rw [Counts.bounds, least_ofLengths, high_ofLengths, natOfDigits_digits]
  cases most with
  | none => rfl
  | some most => rw [Option.map_some, Option.getD_some, boundOf_digits]

theorem isAscii_ofLengths (least : Nat) (most : Option Nat) : (Counts.ofLengths least most).IsAscii := by
  refine ⟨?_, ?_⟩
  · rw [least_ofLengths]
    exact fun d => ascii_of_mem_digits
  · cases most with
    | none => exact fun d hd => absurd hd List.not_mem_nil
    | some most =>
      rw [Counts.ofLengths]
      split
      · exact fun d hd => absurd hd List.not_mem_nil
      · exact fun d => ascii_of_mem_digits

theorem wellFormed_ofLengths (least : Nat) (most : Option Nat) :
    (Counts.ofLengths least most).WellFormed := by
  refine ⟨?_, ?_⟩
  · rw [least_ofLengths]
    exact Nat.toDigits_ne_nil
  · cases most with
    | none => exact Bool.noConfusion
    | some most =>
      rw [Counts.ofLengths]
      split
      · exact fun _ => rfl
      · exact Bool.noConfusion

/-- The bounds that a repeat takes are taken as they are written anew. -/
theorem repeatable_ofLengths (h : c.Repeatable) :
    (Counts.ofLengths c.bounds.1 c.bounds.2).Repeatable := by
  have hbounds := bounds_ofLengths c.bounds.1 c.bounds.2
  refine ⟨?_, ?_, ?_⟩
  · rw [least_ofLengths]
    exact isCount_digits h.least.2
  · rw [high_ofLengths]
    show IsCount (((boundOf c.high).map digits).getD [])
    rw [boundOf]
    split
    · exact ⟨Nat.zero_le _, by decide⟩
    · exact isCount_digits h.high.2
  · rw [hbounds]
    exact h.order

/-! ## Sources -/

/-- What counts in ASCII are written with. -/
theorem of_mem_written (hc : c.IsAscii) {d : Char} (h : d ∈ c.written) :
    d ∈ ['\x7b', ',', '\x7d', '$'] ∨ Decimal.isDigit d = true := by
  have hparts : d = '\x7b' ∨ d ∈ c.least ∨ d = ',' ∨ d ∈ c.most ∨ d = '\x7d' ∨ d = '$' := by
    cases hcomma : c.comma <;> simp [Counts.written, hcomma] at h <;> tauto
  rcases hparts with rfl | hleast | rfl | hmost | rfl | rfl
  · exact .inl (by decide)
  · exact .inr (hc.least d hleast)
  · exact .inl (by decide)
  · exact .inr (hc.most d hmost)
  · exact .inl (by decide)
  · exact .inl (by decide)

theorem ne_of_mem_written (hc : c.IsAscii) {d e : Char} (h : d ∈ c.written)
    (he : e ∉ ['\x7b', ',', '\x7d', '$']) (hdigit : Decimal.isDigit e = false) : d ≠ e := by
  rintro rfl
  rcases of_mem_written hc h with hsign | hsign
  · exact he hsign
  · rw [hdigit] at hsign
    cases hsign

theorem ending_units (hc : c.IsAscii) : Ending c.units := by
  refine ⟨rfl, fun x hx => ?_⟩
  obtain ⟨d, hd, rfl⟩ := List.mem_map.mp hx
  refine ⟨d, rfl, ?_, ?_, ?_, ?_⟩ <;> exact ne_of_mem_written hc hd (by decide) (by decide)

/-- **Counts that are written anew are the same to a reader of repeats.** -/
theorem sameCounts (hc : c.IsAscii) (hwell : c.WellFormed) (hc' : c'.IsAscii) (hwell' : c'.WellFormed)
    (h : c.Repeatable → c'.Repeatable ∧ c'.bounds = c.bounds) :
    SameCounts c.units c'.units c.bounds c.Repeatable := by
  refine ⟨ending_units hc, ending_units hc', ?_⟩
  rintro s s' ⟨hflags, hrest, rfl⟩ a u hrun
  obtain ⟨hrepeatable, heq⟩ := (run_braces_iff hc hwell hrest).mp hrun
  obtain ⟨hrepeatable', hbounds⟩ := h hrepeatable
  cases heq
  refine ⟨_, (run_braces_iff hc' hwell' rfl).mpr ⟨hrepeatable', ?_⟩, ⟨rfl, hrepeatable⟩, hflags, rfl, rfl⟩
  rw [hbounds]

/-- A text up to a bracket is units up to a bracket, whatever comes behind it. -/
theorem exists_bracketed (cs : List Char) : ∃ ts, (Bracketed ts ∧ ts ≠ []) ∧
    ∀ rest, Token.ofList (cs ++ ']' :: rest) = ts ++ Token.ofList rest := by
  have hcons : ∀ {x : Token} {ts : List Token}, Bracketed ts ∧ ts ≠ [] →
      Bracketed (x :: ts) ∧ x :: ts ≠ [] := by
    rintro x ts ⟨hts, hne⟩
    obtain ⟨y, ts, rfl⟩ := List.exists_cons_of_ne_nil hne
    refine ⟨?_, List.cons_ne_nil _ _⟩
    rwa [Bracketed, List.getLast?_cons_cons]
  have hsingle : ∀ {x : Token}, x.isBracket = true → Bracketed [x] ∧ [x] ≠ [] := by
    intro x hx
    refine ⟨?_, List.cons_ne_nil _ _⟩
    rintro y ⟨rfl⟩
    exact hx
  induction cs using Token.ofList.induct with
  | case1 =>
    refine ⟨[.plain ']'], hsingle rfl, fun rest => ?_⟩
    rw [List.nil_append, ofList_cons_of_ne (by decide)]
    rfl
  | case2 => exact ⟨[.escaped ']'], hsingle rfl, fun rest => rfl⟩
  | case3 d cs ih =>
    obtain ⟨ts, hts, hof⟩ := ih
    refine ⟨.escaped d :: ts, hcons hts, fun rest => ?_⟩
    rw [List.cons_append, List.cons_append, Token.ofList, hof]
    rfl
  | case4 d cs hlone hslash ih =>
    obtain ⟨ts, hts, hof⟩ := ih
    have hd : d ≠ '\\' := by
      rintro rfl
      cases cs with
      | nil => exact hlone rfl rfl
      | cons e cs => exact hslash e cs rfl rfl
    refine ⟨.plain d :: ts, hcons hts, fun rest => ?_⟩
    rw [List.cons_append, ofList_cons_of_ne hd, hof]
    rfl

theorem ofList_written (hc : c.IsAscii) : Token.ofList c.written = c.units := by
  have hplain : ∀ cs : List Char, (∀ d ∈ cs, d ≠ '\\') → Token.ofList cs = cs.map .plain := by
    intro cs hcs
    induction cs with
    | nil => rfl
    | cons d cs ih =>
      obtain ⟨hd, hcs⟩ := List.forall_mem_cons.mp hcs
      rw [ofList_cons_of_ne hd, ih hcs, List.map_cons]
  exact hplain _ fun d hd => ne_of_mem_written hc hd (by decide) (by decide)

/-- Counts that are cut off are written as they were. -/
theorem eq_of_braces? {cs : List Char} (h : braces? cs = some c) : cs = c.written ∧ c.WellFormed := by
  unfold braces? at h
  split at h
  · next rest =>
    dsimp only at h
    split at h
    · cases h
    · next hempty =>
      have hne : rest.takeWhile isDigit ≠ [] := by simpa using hempty
      have hrest : rest.takeWhile isDigit ++ rest.dropWhile isDigit = rest :=
        List.takeWhile_append_dropWhile
      split at h
      · next later hlater =>
        dsimp only at h
        split at h
        · next hclose =>
          cases h
          refine ⟨?_, hne, Bool.noConfusion⟩
          rw [Counts.written, if_pos rfl, ← hclose, List.takeWhile_append_dropWhile,
            List.singleton_append, ← hlater, hrest]
        · cases h
      · dsimp only at h
        split at h
        · next hclose =>
          cases h
          -- nothing is left to be a digit behind the digits
          have hmost : (rest.dropWhile isDigit).takeWhile isDigit = [] := by
            have hlater : (rest.dropWhile isDigit).takeWhile isDigit ++
                (rest.dropWhile isDigit).dropWhile isDigit = rest.dropWhile isDigit :=
              List.takeWhile_append_dropWhile
            rwa [List.dropWhile_idempotent, List.append_left_eq_self] at hlater
          refine ⟨?_, hne, fun _ => hmost⟩
          rw [List.dropWhile_idempotent] at hclose
          rw [Counts.written, if_neg Bool.false_ne_true, hmost, List.nil_append, List.nil_append, ← hclose,
            hrest]
        · cases h
  · cases h

theorem eq_of_splitAtLastBracket? {cs before after : List Char}
    (h : splitAtLastBracket? cs = some (before, after)) : cs = before ++ ']' :: after := by
  have hback : cs.reverse.takeWhile (· ≠ ']') ++ cs.reverse.dropWhile (· ≠ ']') = cs.reverse :=
    List.takeWhile_append_dropWhile
  have hbracket := List.head?_dropWhile_not (fun c : Char => decide (c ≠ ']')) cs.reverse
  unfold splitAtLastBracket? at h
  dsimp only at h
  split at h
  · next d rest hdrop =>
    cases h
    rw [hdrop] at hback hbracket
    have hd : d = ']' := by simpa using hbracket
    rw [hd] at hback
    simpa using (congrArg List.reverse hback).symm
  · cases h

/-- **A source that is cut is put together from its parts.** -/
theorem eq_of_split? {source charset : String} (h : split? source = some (charset, c)) :
    source.toList = '^' :: '[' :: (charset.toList ++ ']' :: c.written) ∧ c.WellFormed := by
  unfold split? at h
  split at h
  · next rest hsource =>
    obtain ⟨⟨cs, tail⟩, hcut, h⟩ := Option.bind_eq_some_iff.mp h
    dsimp only at h
    split at h
    · cases h
    · obtain ⟨counts, hcounts, h⟩ := Option.bind_eq_some_iff.mp h
      cases h
      obtain ⟨htail, hwell⟩ := eq_of_braces? hcounts
      rw [hsource, eq_of_splitAtLastBracket? hcut, htail, String.toList_ofList]
      exact ⟨rfl, hwell⟩
  · cases h

/-- **The rule of a valid source can be made, and has the tree of the source.** -/
theorem make_of_ofSource {source charset : String} {r : Regex} (hr : Regex.ofSource source .none = .ok r)
    (hsplit : split? source = some (charset, c)) (hc : c.IsAscii) :
    ∃ least most rule, lengths c = .ok (least, most) ∧ CharsetRule.make charset least most = .ok rule ∧
      rule.regex.tree = r.tree ∧ rule.regex.flags = r.flags := by
  obtain ⟨hsource, hwell⟩ := eq_of_split? hsplit
  obtain ⟨⟨tree, flags⟩, hread, hof⟩ := Except.bind_eq_ok_iff.mp hr
  cases hof
  obtain ⟨ts, ⟨hts, hne⟩, hunits⟩ := exists_bracketed ('[' :: charset.toList)
  have hanchor : Bracketed (.plain '^' :: ts) := by
    obtain ⟨x, ts, rfl⟩ := List.exists_cons_of_ne_nil hne
    rwa [Bracketed, List.getLast?_cons_cons]
  -- a source of this shape is the common part and the counts
  have hof : ∀ {source : String} {c : Counts}, c.IsAscii →
      source.toList = '^' :: '[' :: (charset.toList ++ ']' :: c.written) →
      Token.ofList source.toList = .plain '^' :: ts ++ c.units := by
    intro source c hc hsource
    rw [hsource, ofList_cons_of_ne (by decide), ← List.cons_append, hunits, ofList_written hc,
      List.cons_append]
  set c' := Counts.ofLengths c.bounds.1 c.bounds.2
  have hc' : c'.IsAscii := isAscii_ofLengths _ _
  have hsame := sameCounts hc hwell hc' (wellFormed_ofLengths _ _) fun h =>
    ⟨repeatable_ofLengths h, bounds_ofLengths _ _⟩
  obtain ⟨hrepeatable, hread'⟩ := Endings.read_follows hsame hanchor (hof hc hsource)
    (hof hc' (toList_source charset c.bounds.1 c.bounds.2)) hread
  have hshort : (CharsetRule.tooLong c.bounds.1 || c.bounds.2.any CharsetRule.tooLong) = false := by
    have hhigh : (boundOf c.high).any CharsetRule.tooLong = false := by
      rw [boundOf]
      split
      · rfl
      · exact tooLong_of_lt hrepeatable.high.2
    exact Bool.or_eq_false_iff.mpr ⟨tooLong_of_lt hrepeatable.least.2, hhigh⟩
  let rule : CharsetRule := ⟨charset, c.bounds.1, c.bounds.2,
    ⟨CharsetRule.source charset c.bounds.1 c.bounds.2, flags, tree⟩⟩
  refine ⟨c.bounds.1, c.bounds.2, rule, lengths_of_repeatable hc hwell hrepeatable, ?_, rfl, rfl⟩
  rw [CharsetRule.make, hshort, Regex.ofSource, hread']
  rfl

end Conformance.StringRule
