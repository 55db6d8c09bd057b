import Conformance.Key
import Conformance.Proofs.Regex.GroupFree
import Conformance.Proofs.Regex.SideBySide
import Mathlib.Data.List.Forall2

/-!
# Names that stand for themselves

A name without special characters, read as a regex, matches itself and no other text.  So does any
name with its special characters escaped.

## Main Definitions

* `Regex.IsPlain` — a character without a meaning of its own in a source
* `Regex.Token.StandsFor` — a unit of a source that stands for a character: the character as it is, or
  behind a backslash

## Main statements

* `Regex.read_of_standsFor` — reading units that stand for characters gives one tree for each
* `Regex.matchesAll?_literal`, `Regex.matchesAll?_escaped` — a literal name and an escaped name match
  themselves only
-/

namespace Conformance.Regex

open SourceReader

/-! ## Reading -/

/-- A character without a meaning of its own in a source. -/
def IsPlain (c : Char) : Prop := c ∉ specialChars

theorem IsPlain.ne {c d : Char} (h : IsPlain c) (hd : d ∈ specialChars) : c ≠ d :=
  fun heq => h (heq ▸ hd)

/-- The characters of a literal name are plain. -/
theorem isPlain_of_isLiteralName {name : String} (h : isLiteralName name = true) :
    ∀ c ∈ name.toList, IsPlain c := by
  intro c hc
  have hplain := List.all_eq_true.mp h c hc
  simpa [IsPlain] using hplain

/-- The characters that are not escaped are plain. -/
theorem isPlain_of_not_mem_escapedChars {c : Char} (h : c ∉ escapedChars) : IsPlain c := by
  have hsub : specialChars ⊆ escapedChars := by decide
  exact fun hc => h (hsub hc)

/-- The trees of plain characters. -/
def plainNodes (cs : List Char) : List Node := cs.map fun c => Flags.none.literal c.toNat

/-- A unit of a source that stands for one character. -/
inductive Token.StandsFor : Token → Char → Prop where
  | plain {c : Char} : IsPlain c → StandsFor (.plain c) c
  | escaped {c : Char} : c ∈ escapedChars → StandsFor (.escaped c) c

/-- Among units that stand for characters there is no lone backslash. -/
theorem head?_ne_dangling {ts : List Token} {cs : List Char}
    (h : List.Forall₂ Token.StandsFor ts cs) : ts.head? ≠ some .dangling := by
  cases h with
  | nil => simp
  | cons hfirst _ => cases hfirst <;> simp

/-- A character other than the backslash is a unit by itself. -/
theorem ofList_cons_of_ne {c : Char} (h : c ≠ '\\') (cs : List Char) :
    Token.ofList (c :: cs) = .plain c :: Token.ofList cs := by
  rw [Token.ofList]
  · rintro rfl -
    exact h rfl
  · intro d ds hd
    exact fun _ => h hd

/-- Plain characters are units by themselves. -/
theorem standsFor_ofList_plain {cs : List Char} (h : ∀ c ∈ cs, IsPlain c) :
    List.Forall₂ Token.StandsFor (Token.ofList cs) cs := by
  induction cs with
  | nil => exact .nil
  | cons c cs ih =>
    obtain ⟨hc, hcs⟩ := List.forall_mem_cons.mp h
    rw [ofList_cons_of_ne (hc.ne (by decide))]
    exact .cons (.plain hc) (ih hcs)

/-- A name with its special characters escaped. -/
def escapeChars (cs : List Char) : List Char :=
  cs.flatMap fun c => if escapedChars.contains c then ['\\', c] else [c]

/-- An escaped name is a row of units that stand for its characters. -/
theorem standsFor_ofList_escapeChars (cs : List Char) :
    List.Forall₂ Token.StandsFor (Token.ofList (escapeChars cs)) cs := by
  induction cs with
  | nil => exact .nil
  | cons c cs ih =>
    by_cases hc : c ∈ escapedChars
    · have hcons : escapeChars (c :: cs) = '\\' :: c :: escapeChars cs := by
        rw [escapeChars, List.flatMap_cons, if_pos (List.contains_iff_mem.mpr hc)]
        rfl
      rw [hcons, Token.ofList]
      exact .cons (.escaped hc) ih
    · have hcons : escapeChars (c :: cs) = c :: escapeChars cs := by
        rw [escapeChars, List.flatMap_cons, if_neg (mt List.contains_iff_mem.mp hc)]
        rfl
      have hslash : c ≠ '\\' := by
        rintro rfl
        exact hc (by decide)
      rw [hcons, ofList_cons_of_ne hslash]
      exact .cons (.plain (isPlain_of_not_mem_escapedChars hc)) ih

/-- An escaped sign stands for itself: none of them is a letter or a digit. -/
theorem run_escape {c : Char} (h : c ∈ escapedChars) (s : ParseState) :
    (escape .none c).run s = .ok (Flags.none.literal c.toNat, s) := by
  have hsigns : ∀ c ∈ escapedChars, anchorEscape? .none c = none ∧ classEscape? c = none ∧
      (letterEscape? c = none ∨ letterEscape? c = some c.toNat) ∧ c ≠ '0' ∧
      Decimal.isDigit c = false ∧ isLetter c = false ∧ c ≠ 'x' ∧ c ≠ 'u' ∧ c ≠ 'U' ∧ c ≠ 'N' := by
    rw [← List.forall_iff_forall_mem]
    decide
  obtain ⟨hanchor, hclass, hletter, hzero, hdigit, hisLetter, hx, hu, hU, hN⟩ := hsigns c h
  rw [escape, hanchor, hclass]
  rcases hletter with hletter | hletter
  · have hplain : (plainEscape c).run s = .ok (c.toNat, s) := by
      simp only [plainEscape, if_neg hx, if_neg hu, if_neg hU, if_neg hN, hisLetter, hdigit,
        Bool.or_false, Bool.false_eq_true, if_false]
      rfl
    simp only [hletter, if_neg hzero, hdigit, Bool.false_eq_true, if_false]
    rw [StateT.run_bind, hplain]
    rfl
  · rw [hletter]
    rfl

/-- One plain character is read. -/
theorem sequence_plain {c : Char} (hc : IsPlain c) {ts : List Token}
    (hts : ts.head? ≠ some .dangling) (fuel : Nat) (start : Bool) (items : List Item)
    (s : ParseState) (hrest : s.rest = .plain c :: ts) :
    (sequence (fuel + 1) .none start items).run s =
      (sequence fuel .none start (.single (Flags.none.literal c.toNat) :: items)).run
        { s with rest := ts } := by
  have hverbose : Flags.none.verbose = false := rfl
  have hcounts : repeatCounts? c = none := by
    rw [repeatCounts?, if_neg (hc.ne (by decide)), if_neg (hc.ne (by decide)),
      if_neg (hc.ne (by decide))]
  have hend : (decide (c = '|') || decide (c = ')')) = false := by
    rw [decide_eq_false (hc.ne (by decide)), decide_eq_false (hc.ne (by decide)), Bool.or_false]
  have htail : s.rest.tail = ts := by rw [hrest, List.tail_cons]
  have hadvance := run_advance (s := s) (by rw [htail]; exact hts)
  rw [sequence, StateT.run_bind, run_peek, hrest, List.head?_cons]
  simp only [Except.ok_bind, hend, if_false, hverbose, Bool.false_and, Bool.false_eq_true,
    if_neg (hc.ne (show '[' ∈ specialChars by decide)),
    if_neg (hc.ne (show '\x7b' ∈ specialChars by decide)),
    if_neg (hc.ne (show '.' ∈ specialChars by decide)),
    if_neg (hc.ne (show '^' ∈ specialChars by decide)),
    if_neg (hc.ne (show '$' ∈ specialChars by decide)),
    if_neg (hc.ne (show '(' ∈ specialChars by decide)), hcounts]
  rw [StateT.run_bind, hadvance, htail, Except.ok_bind]

/-- One escaped character is read. -/
theorem sequence_escaped {c : Char} (hc : c ∈ escapedChars) {ts : List Token}
    (hts : ts.head? ≠ some .dangling) (fuel : Nat) (start : Bool) (items : List Item)
    (s : ParseState) (hrest : s.rest = .escaped c :: ts) :
    (sequence (fuel + 1) .none start items).run s =
      (sequence fuel .none start (.single (Flags.none.literal c.toNat) :: items)).run
        { s with rest := ts } := by
  have htail : s.rest.tail = ts := by rw [hrest, List.tail_cons]
  have hadvance := run_advance (s := s) (by rw [htail]; exact hts)
  rw [sequence, StateT.run_bind, run_peek, hrest, List.head?_cons, Except.ok_bind]
  show ((advance >>= fun _ => escape .none c >>= _ : SourceReader _)).run s = _
  rw [StateT.run_bind, hadvance, Except.ok_bind, StateT.run_bind, run_escape hc, Except.ok_bind, htail]

/-- **Units that stand for characters are read one by one**, up to the end of the source. -/
theorem sequence_of_standsFor {ts : List Token} {cs : List Char}
    (h : List.Forall₂ Token.StandsFor ts cs) {fuel : Nat} (hfuel : ts.length < fuel) (start : Bool)
    (items : List Item) (s : ParseState) (hrest : s.rest = ts) :
    (sequence fuel .none start items).run s =
      .ok (Item.join items ++ plainNodes cs, { s with rest := [] }) := by
  induction h generalizing fuel items s with
  | nil =>
    obtain ⟨fuel, rfl⟩ : ∃ k, fuel = k + 1 := ⟨fuel - 1, by simp at hfuel; omega⟩
    have hs : s = { s with rest := [] } := by rw [← hrest]
    rw [sequence, StateT.run_bind, run_peek, hrest, Except.ok_bind, ← hs, plainNodes, List.map_nil,
      List.append_nil]
    rfl
  | @cons t c ts cs hfirst hothers ih =>
    obtain ⟨fuel, rfl⟩ : ∃ k, fuel = k + 1 := ⟨fuel - 1, by simp at hfuel; omega⟩
    have hfuel' : ts.length < fuel := by simpa using hfuel
    have hts := head?_ne_dangling hothers
    have hstep : (sequence (fuel + 1) .none start items).run s =
        (sequence fuel .none start (.single (Flags.none.literal c.toNat) :: items)).run
          { s with rest := ts } := by
      cases hfirst with
      | plain hc => exact sequence_plain hc hts fuel start items s hrest
      | escaped hc => exact sequence_escaped hc hts fuel start items s hrest
    rw [hstep, ih hfuel' _ _ rfl]
    simp [Item.join, Item.single, plainNodes, Flags.literal]

/-- At the end of the source there are no further alternatives. -/
theorem alternatives_end (fuel : Nat) (s : ParseState) (hrest : s.rest = []) :
    (alternatives (fuel + 1) .none).run s = .ok ([], s) := by
  rw [alternatives, StateT.run_bind, accept, StateT.run_bind, run_peek, hrest]
  rfl

/-- A source of units that stand for characters has a single alternative. -/
theorem alternation_of_standsFor {ts : List Token} {cs : List Char}
    (h : List.Forall₂ Token.StandsFor ts cs) {fuel : Nat} (hfuel : ts.length < fuel)
    (s : ParseState) (hrest : s.rest = ts) (hflags : s.flags = .none) :
    (alternation (fuel + 1) .none true).run s = .ok (plainNodes cs, { s with rest := [] }) := by
  obtain ⟨fuel, rfl⟩ : ∃ k, fuel = k + 1 := ⟨fuel - 1, by omega⟩
  rw [alternation, StateT.run_bind, sequence_of_standsFor h hfuel true [] s hrest, Except.ok_bind,
    StateT.run_bind, StateT.run_get, pure_bind]
  simp only [if_true, hflags]
  rw [StateT.run_bind, alternatives_end fuel _ rfl]
  rfl

/-- The whole of a source of units that stand for characters. -/
theorem whole_of_standsFor {ts : List Token} {cs : List Char}
    (h : List.Forall₂ Token.StandsFor ts cs) {fuel : Nat} (hfuel : ts.length < fuel) :
    (whole (fuel + 1) .none).run ⟨ts, .none, 0, [], [], [], none, false, false⟩ =
      .ok (.ofList (plainNodes cs), ⟨[], .none, 0, [], [], [], none, false, false⟩) := by
  have hfirst := head?_ne_dangling h
  rw [whole, StateT.run_bind, run_peek, Except.ok_bind]
  simp only [if_neg hfirst]
  rw [StateT.run_bind, alternation_of_standsFor h hfuel _ rfl rfl]
  rfl

/-- **A source of units that stand for characters** is read as these characters in a row, without
switches. -/
theorem read_of_standsFor {source : String} {cs : List Char}
    (h : List.Forall₂ Token.StandsFor (Token.ofList source.toList) cs) :
    read source .none = .ok (.ofList (plainNodes cs), .none) := by
  unfold read
  simp only []
  rw [whole_of_standsFor h (by omega)]
  rfl

/-! ## Matching -/

/-- A plain character matches itself only. -/
theorem contains_literal_iff {c d : Char} :
    CharSet.contains d (.one c.toNat Flags.none.comparison) = true ↔ d = c := by
  have hcode : CharSet.contains d (.one c.toNat Flags.none.comparison) = true ↔ d.toNat = c.toNat := by
    simp [CharSet.contains, Comparison.variants, Flags.comparison, Flags.none, eq_comm]
  rw [hcode, Char.toNat_inj]

/-- A row of characters stands at a place: its first one does, and the others behind it. -/
theorem cons_prefix_drop_iff {c : Char} {cs text : List Char} {p : Nat} :
    c :: cs <+: text.drop p ↔ text[p]? = some c ∧ cs <+: text.drop (p + 1) := by
  by_cases hp : p < text.length
  · rw [List.drop_eq_getElem_cons hp, List.cons_prefix_cons, List.getElem?_eq_getElem hp,
      Option.some.injEq, eq_comm]
  · rw [List.drop_eq_nil_of_le (Nat.le_of_not_lt hp), List.getElem?_eq_none (Nat.le_of_not_lt hp)]
    simp

section

variable {text : Array Char} {inLoop : Bool} {next : Lead} {k : Nat → Attempt} {verdict : Bool}

/-- **One plain character** is matched where it stands, and matching goes on behind it. -/
theorem gives_literal {c : Char} {p : Nat} (hk : (k (p + 1)).Gives verdict) :
    ((Flags.none.literal c.toNat).run text inLoop next p k).Gives
      (decide (text[p]? = some c) && verdict) := by
  have hset : text[p]?.any (CharSet.one c.toNat Flags.none.comparison).contains =
      decide (text[p]? = some c) := by
    cases text[p]? with
    | none => rfl
    | some d => rw [Option.any_some, Bool.eq_iff_iff, contains_literal_iff, decide_eq_true_eq, Option.some_inj]
  rw [Flags.literal, Node.run, Matcher.char, hset]
  cases decide (text[p]? = some c) with
  | true => exact hk
  | false => exact .pure false

/-- **Plain characters** are matched one after another. -/
theorem gives_plain {cs : List Char} {p : Nat} (hk : (k (p + cs.length)).Gives verdict) :
    ((Node.ofList (plainNodes cs)).run text inLoop next p k).Gives
      (decide (cs <+: text.toList.drop p) && verdict) := by
  induction cs generalizing p with
  | nil =>
    rw [decide_eq_true List.nil_prefix, Bool.true_and]
    exact hk
  | cons c cs ih =>
    have hfirst : decide (c :: cs <+: text.toList.drop p) =
        (decide (text[p]? = some c) && decide (cs <+: text.toList.drop (p + 1))) := by
      rw [← Bool.decide_and, ← Array.getElem?_toList]
      exact decide_eq_decide.mpr cons_prefix_drop_iff
    have hbehind : (k (p + 1 + cs.length)).Gives verdict := by
      rwa [Nat.add_right_comm, Nat.add_assoc, ← List.length_cons]
    rw [hfirst, Bool.and_assoc]
    -- the last character stands alone, any other in front of the rest
    cases cs with
    | nil =>
      rw [decide_eq_true List.nil_prefix, Bool.true_and]
      exact gives_literal hbehind
    | cons d cs =>
      have hseq : Node.ofList (plainNodes (c :: d :: cs)) =
          .seq (Flags.none.literal c.toNat) (Node.ofList (plainNodes (d :: cs))) := rfl
      rw [hseq, Node.run, Matcher.seq]
      exact gives_literal (ih hbehind)

end

/-- Plain characters need no more room than they take. -/
theorem least_width_plain_le (cs : List Char) :
    (Node.ofList (plainNodes cs)).width.least ≤ cs.length := by
  induction cs with
  | nil => exact Nat.le_refl _
  | cons c cs ih =>
    cases cs with
    | nil => exact Nat.le_refl _
    | cons d cs =>
      have hseq : (Node.ofList (plainNodes (c :: d :: cs))).width.least ≤
          1 + (Node.ofList (plainNodes (d :: cs))).width.least := Nat.min_le_left ..
      rw [List.length_cons]
      omega

/-- **Plain characters in a row** match themselves only. -/
theorem matchesAll?_plain {r : Regex} {cs : List Char} (h : r.tree = .ofList (plainNodes cs))
    (text : String) : r.matchesAll? text = .ok (decide (text.toList = cs)) := by
  apply matchesAll?_of_gives
  · intro hless
    have hle := least_width_plain_le cs
    rw [h] at hless
    refine decide_eq_false ?_
    rintro rfl
    omega
  · have hsame : decide (text.toList = cs) = (decide (cs <+: text.toList.toArray.toList.drop 0) &&
        decide (0 + cs.length = text.toList.toArray.size)) := by
      rw [← Bool.decide_and, List.drop_zero, Nat.zero_add, List.size_toArray, decide_eq_decide]
      constructor
      · rintro rfl
        exact ⟨List.prefix_refl _, rfl⟩
      · rintro ⟨hstarts, hlength⟩
        exact (hstarts.eq_of_length hlength).symm
    rw [h, hsame]
    exact gives_plain (Attempt.Gives.atEnds (fun q => decide (q = text.toList.toArray.size)) _)

/-- A literal name is a regex. -/
theorem ofSource_literal {name : String} (hname : isLiteralName name = true) :
    ofSource name .none = .ok ⟨name, .none, .ofList (plainNodes name.toList)⟩ := by
  rw [ofSource, read_of_standsFor (standsFor_ofList_plain (isPlain_of_isLiteralName hname))]
  rfl

/-- **A literal name** matches itself and no other text. -/
theorem matchesAll?_literal {r : Regex} {name : String} (hname : isLiteralName name = true)
    (hr : ofSource name .none = .ok r) (text : String) :
    r.matchesAll? text = .ok (decide (text = name)) := by
  rw [ofSource_literal hname] at hr
  cases hr
  rw [matchesAll?_plain rfl, decide_eq_decide.mpr String.toList_inj]

theorem matchesAll_literal_iff {r : Regex} {name : String} (hname : isLiteralName name = true)
    (hr : ofSource name .none = .ok r) {text : String} : r.matchesAll text = true ↔ text = name := by
  rw [matchesAll_of_matchesAll? (matchesAll?_literal hname hr text), decide_eq_true_eq]

/-- An escaped name is a regex. -/
theorem ofSource_escapeName (name : String) :
    ofSource (escapeName name) .none =
      .ok ⟨escapeName name, .none, .ofList (plainNodes name.toList)⟩ := by
  have hlist : (escapeName name).toList = escapeChars name.toList := String.toList_ofList
  have hread : read (escapeName name) .none = .ok (.ofList (plainNodes name.toList), .none) := by
    apply read_of_standsFor
    rw [hlist]
    exact standsFor_ofList_escapeChars name.toList
  rw [ofSource, hread]
  rfl

/-- **An escaped name** matches the name and no other text. -/
theorem matchesAll?_escaped {r : Regex} {name : String} (hr : ofSource (escapeName name) .none = .ok r)
    (text : String) : r.matchesAll? text = .ok (decide (text = name)) := by
  rw [ofSource_escapeName] at hr
  cases hr
  rw [matchesAll?_plain rfl, decide_eq_decide.mpr String.toList_inj]

end Conformance.Regex
