import Conformance.Descriptor.StringRule

/-!
# String rules come back from their sources

The source of a string rule is cut into the character set and the counts that it was put together
from, and the counts mean the lengths that they were written for.

## Main Definitions

* `StringRule.Counts.ofLengths` — the counts that two lengths are written with
* `StringRule.Counts.written` — counts in braces at the end of a source

## Main statements

* `StringRule.split?_source` — the source of a string rule is cut where it was put together
* `StringRule.lengths_ofLengths` — the counts that two lengths are written with mean these lengths
* `CharsetRule.make_eq_ok` — what is known of a rule that was made
-/

namespace Conformance

namespace StringRule

/-! ## Digits -/

/-- A digit of ASCII has the value that it is written with. -/
theorem decimalValue?_of_isDigit {c : Char} (h : c.isDigit = true) :
    Text.decimalValue? c = some (c.toNat - '0'.toNat) := by
  have hbounds : 48 ≤ c.toNat ∧ c.toNat ≤ 57 := Char.isDigit_iff_toNat.mp h
  obtain ⟨hlow, hhigh⟩ := hbounds
  have hfind : (Text.decimalRanges.find? fun r => r.1 ≤ c.toNat && c.toNat ≤ r.2) = some (48, 57) := by
    have hranges : Text.decimalRanges = (48, 57) :: Text.decimalRanges.tail := rfl
    rw [hranges]
    exact List.find?_cons_of_pos (by rw [decide_eq_true hlow, decide_eq_true hhigh, Bool.and_self])
  have hzero : '0'.toNat = 48 := rfl
  rw [Text.decimalValue?, hfind, Option.map_some, hzero, Nat.mod_eq_of_lt (by omega)]

/-- The digits of a number. -/
abbrev digits (n : Nat) : List Char := Nat.toDigits 10 n

theorem isDigit_of_mem_digits {n : Nat} {c : Char} (h : c ∈ digits n) : isDigit c = true := by
  have hdigit := Nat.isDigit_of_mem_toDigits (by decide) (by decide) h
  rw [isDigit, decimalValue?_of_isDigit hdigit, Option.isSome_some]

/-- **Digits of ASCII are read as the number that they stand for**, if they are not too many. -/
theorem numeral_of_isDigit {ds : List Char} (hds : ∀ c ∈ ds, c.isDigit = true)
    (h : ds.length ≤ Decimal.digitLimit) : numeral ds = .ok (Decimal.natOfDigits ds) := by
  have hfold : ∀ (ds : List Char) (m : Nat), (∀ c ∈ ds, c.isDigit = true) →
      ds.foldl (fun n c => 10 * n + (Text.decimalValue? c).getD 0) m =
        ds.foldl (fun n c => 10 * n + Decimal.digitValue c) m := by
    intro ds m hds
    induction ds generalizing m with
    | nil => rfl
    | cons d ds ih =>
      obtain ⟨hd, hds⟩ := List.forall_mem_cons.mp hds
      rw [List.foldl_cons, List.foldl_cons, ih _ hds, decimalValue?_of_isDigit hd, Option.getD_some,
        Decimal.digitValue]
  rw [numeral, if_neg (by omega), hfold _ _ hds, Decimal.natOfDigits]

/-- The digits of a number stand for it. -/
theorem natOfDigits_digits (n : Nat) : Decimal.natOfDigits (digits n) = n :=
  Nat.ofDigitChars_ten_toDigits

theorem numeral_digits {n : Nat} (h : (digits n).length ≤ Decimal.digitLimit) :
    numeral (digits n) = .ok n := by
  have hdigits : ∀ c ∈ digits n, c.isDigit = true :=
    fun c hc => Nat.isDigit_of_mem_toDigits (by decide) (by decide) hc
  rw [numeral_of_isDigit hdigits h, natOfDigits_digits]

/-! ## Counts -/

/-- The counts that two lengths are written with. -/
def Counts.ofLengths (least : Nat) : Option Nat → Counts
  | none => ⟨digits least, true, []⟩
  | some most =>
    if least = most then ⟨digits least, false, []⟩ else ⟨digits least, true, digits most⟩

/-- Counts in braces at the end of a source. -/
def Counts.written (c : Counts) : List Char :=
  '\x7b' :: (c.least ++ ((if c.comma then [','] else []) ++ (c.most ++ ['\x7d', '$'])))

/-- Digits end where something else follows. -/
theorem span_digits {ds rest : List Char} (hds : ∀ c ∈ ds, isDigit c = true)
    (hrest : rest.head?.any isDigit = false) :
    (ds ++ rest).takeWhile isDigit = ds ∧ (ds ++ rest).dropWhile isDigit = rest := by
  have hnone : rest.takeWhile isDigit = [] ∧ rest.dropWhile isDigit = rest := by
    cases rest with
    | nil => exact ⟨rfl, rfl⟩
    | cons c rest =>
      have hc : isDigit c = false := by simpa using hrest
      exact ⟨by simp [hc], by simp [hc]⟩
  rw [List.takeWhile_append_of_pos hds, List.dropWhile_append_of_pos hds, hnone.1, hnone.2,
    List.append_nil]
  exact ⟨rfl, rfl⟩

/-- **Counts in braces are read back.** -/
theorem braces?_written {c : Counts} (hleast : ∀ d ∈ c.least, isDigit d = true)
    (hne : c.least ≠ []) (hmost : ∀ d ∈ c.most, isDigit d = true)
    (hcomma : c.comma = false → c.most = []) : braces? c.written = some c := by
  obtain ⟨least, comma, most⟩ := c
  have hclose : (['\x7d', '$'] : List Char).head?.any isDigit = false := by decide +kernel
  have hend := span_digits hmost hclose
  have hempty : least.isEmpty = false := by simpa using hne
  cases comma with
  | true =>
    have hcomma : isDigit ',' = false := by decide +kernel
    have hsign : (',' :: (most ++ ['\x7d', '$'])).head?.any isDigit = false := hcomma
    have hsplit := span_digits hleast hsign
    simp only [Counts.written, if_true, List.cons_append, List.nil_append, braces?, hsplit.1,
      hsplit.2, hempty, hend.1, hend.2, Bool.false_eq_true, if_false]
  | false =>
    cases hcomma rfl
    have hsplit := span_digits hleast hclose
    simp only [Counts.written, Bool.false_eq_true, if_false, List.nil_append, braces?, hsplit.1,
      hsplit.2, hempty]
    rfl

theorem braces?_written_ofLengths (least : Nat) (most : Option Nat) :
    braces? (Counts.ofLengths least most).written = some (Counts.ofLengths least most) := by
  have hdigits : ∀ n, ∀ d ∈ digits n, isDigit d = true := fun _ _ => isDigit_of_mem_digits
  cases most with
  | none =>
    rw [Counts.ofLengths]
    exact braces?_written (hdigits least) Nat.toDigits_ne_nil (by simp) (by simp)
  | some most =>
    by_cases heq : least = most
    · rw [Counts.ofLengths, if_pos heq]
      exact braces?_written (hdigits least) Nat.toDigits_ne_nil (by simp) fun _ => rfl
    · rw [Counts.ofLengths, if_neg heq]
      exact braces?_written (hdigits least) Nat.toDigits_ne_nil (hdigits most) (by simp)

/-- A length that is not too long for a rule is not too long for a reader of digits. -/
theorem numeral_digits_of_not_tooLong {n : Nat} (h : CharsetRule.tooLong n = false) :
    numeral (digits n) = .ok n := by
  have hlength : (toString n).length = (digits n).length := by
    rw [← String.length_toList, Nat.toString_eq_repr, Nat.toList_repr]
  rw [CharsetRule.tooLong, decide_eq_false_iff_not, hlength] at h
  exact numeral_digits (by omega)

/-- **The counts that two lengths are written with mean these lengths.** -/
theorem lengths_ofLengths {least : Nat} {most : Option Nat}
    (hleast : CharsetRule.tooLong least = false) (hmost : most.any CharsetRule.tooLong = false) :
    lengths (Counts.ofLengths least most) = .ok (least, most) := by
  have hlow := numeral_digits_of_not_tooLong hleast
  cases most with
  | none =>
    rw [Counts.ofLengths, lengths, hlow]
    rfl
  | some most =>
    have hhigh := numeral_digits_of_not_tooLong (n := most) (by simpa using hmost)
    have hne : (digits most).isEmpty = false := by simp
    by_cases heq : least = most
    · rw [Counts.ofLengths, if_pos heq, lengths, hlow, heq]
      rfl
    · rw [Counts.ofLengths, if_neg heq]
      simp only [lengths, hlow, hhigh, hne]
      rfl

/-! ## Sources -/

/-- What a bracket that is the last one stands between. -/
theorem splitAtLastBracket?_append {before after : List Char} (h : ']' ∉ after) :
    splitAtLastBracket? (before ++ ']' :: after) = some (before, after) := by
  have hpos : ∀ c ∈ after.reverse, (c ≠ ']' : Bool) = true := by
    intro c hc
    rw [decide_eq_true_eq]
    rintro rfl
    exact h (List.mem_reverse.mp hc)
  have hreverse : (before ++ ']' :: after).reverse = after.reverse ++ ']' :: before.reverse := by
    simp
  rw [splitAtLastBracket?, hreverse, List.takeWhile_append_of_pos hpos,
    List.dropWhile_append_of_pos hpos]
  simp

/-- The source of a string rule, character by character. -/
theorem toList_source (charset : String) (least : Nat) (most : Option Nat) :
    (CharsetRule.source charset least most).toList =
      '^' :: '[' :: (charset.toList ++ ']' :: (Counts.ofLengths least most).written) := by
  have htext : ∀ s : String, toString s = s := fun _ => rfl
  cases most with
  | none => simp [CharsetRule.source, Counts.ofLengths, Counts.written, htext]
  | some most =>
    by_cases heq : least = most <;>
      simp [CharsetRule.source, Counts.ofLengths, Counts.written, htext, heq]

/-- There is no bracket among counts. -/
theorem bracket_not_mem_written (least : Nat) (most : Option Nat) :
    ']' ∉ (Counts.ofLengths least most).written := by
  have hdigits : ∀ n, ']' ∉ digits n := by
    intro n hn
    have hdigit : isDigit ']' = true := isDigit_of_mem_digits hn
    revert hdigit
    decide +kernel
  cases most with
  | none => simp [Counts.ofLengths, Counts.written, hdigits]
  | some most =>
    by_cases heq : least = most <;> simp [Counts.ofLengths, Counts.written, heq, hdigits]

/-- **The source of a string rule is cut where it was put together**, unless there is a newline in
the character set. -/
theorem split?_source {charset : String} (least : Nat) (most : Option Nat) (hne : charset ≠ "") :
    split? (CharsetRule.source charset least most) =
      if '\n' ∈ charset.toList then none else some (charset, Counts.ofLengths least most) := by
  simp only [split?, toList_source, splitAtLastBracket?_append (bracket_not_mem_written least most)]
  by_cases hnewline : '\n' ∈ charset.toList
  · simp [hnewline]
  · simp [hnewline, hne, braces?_written_ofLengths]

/-- A source that is cut has a character set. -/
theorem charset_of_split? {source charset : String} {counts : Counts}
    (h : split? source = some (charset, counts)) : charset ≠ "" := by
  unfold split? at h
  split at h
  · obtain ⟨⟨cs, tail⟩, -, h⟩ := Option.bind_eq_some_iff.mp h
    dsimp only at h
    split at h
    · cases h
    · next hcs =>
      obtain ⟨_, -, h⟩ := Option.bind_eq_some_iff.mp h
      cases h
      rw [Bool.or_eq_true, not_or] at hcs
      intro hempty
      have hnil : cs = [] := by simpa using congrArg String.toList hempty
      exact hcs.1 (by rw [hnil]; rfl)
  · cases h

end StringRule

/-- A rule that was made has the character set and the lengths it was made of. -/
theorem CharsetRule.eq_of_make {charset : String} {least : Nat} {most : Option Nat}
    {rule : CharsetRule} (h : make charset least most = .ok rule) :
    rule.charset = charset ∧ rule.least = least ∧ rule.most = most := by
  unfold make at h
  split at h
  · cases h
  · split at h
    · cases h
      exact ⟨rfl, rfl, rfl⟩
    · cases h
    · cases h

/-- A rule that was made is the one of its own character set and lengths. -/
theorem CharsetRule.make_self {charset : String} {least : Nat} {most : Option Nat}
    {rule : CharsetRule} (h : make charset least most = .ok rule) :
    rule.charset = charset ∧ make rule.charset rule.least rule.most = .ok rule := by
  obtain ⟨rfl, rfl, rfl⟩ := eq_of_make h
  exact ⟨rfl, h⟩

/-- What is known of a rule that was made: its lengths can be written, and its source is a regex. -/
theorem CharsetRule.make_eq_ok {charset : String} {least : Nat} {most : Option Nat}
    {rule : CharsetRule} (h : make charset least most = .ok rule) :
    tooLong least = false ∧ most.any tooLong = false ∧
      Regex.ofSource (source charset least most) .none = .ok rule.regex := by
  unfold make at h
  split at h
  · cases h
  · next hlength =>
    have hshort : tooLong least = false ∧ most.any tooLong = false := by simpa using hlength
    split at h
    · next regex hregex =>
      cases h
      exact ⟨hshort.1, hshort.2, hregex⟩
    · cases h
    · cases h

/-- A string rule is not refused as a descriptor is. -/
theorem CharsetRule.make_ne_decode {charset : String} {least : Nat} {most : Option Nat}
    {d : DecodeError} : make charset least most ≠ .error (.decode d) := by
  unfold make
  split
  · exact nofun
  · split <;> exact nofun

end Conformance
