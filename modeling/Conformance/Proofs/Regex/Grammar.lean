import Conformance.Proofs.Regex.Escapes

/-!
# The grammar in front of endings

Two sources that are the same up to a bracket, and end in repeat counts that mean the same, are read
alike: the counts are read where the grammar expects a repeat, and then there is nothing left but the
end of the text.

## Main Definitions

* `Regex.SameCounts` — endings in braces that mean the same counts
* `Regex.Reached` — the readers are in front of the endings, or have read them

## Main statements

* `Regex.Endings.grammar` — every reader of the grammar does the same in both sources
* `Regex.Endings.read_follows` — so does reading them whole
-/

namespace Conformance.Regex

open SourceReader

/-- **Endings in braces that mean the same counts**, up to the end of the text.  What is read of the
first one is fine. -/
structure SameCounts (t t' : List Token) (counts : Nat × Option Nat) (fine : Prop) : Prop where
  first : Ending t
  second : Ending t'
  braces : Follows (fun s s' => s.flags = .none ∧ s.rest = t.tail ∧ s' = { s with rest := t'.tail })
    braces braces fun a s s' => (a = some counts ∧ fine) ∧ Same [.plain '$'] s s'

/-- **The readers are in front of the endings, or have read them.**  Blanks and comments being skipped,
they may have skipped them, too. -/
def Reached (t t' : List Token) (fine : Prop) (flags : Flags) (n : Nat) : StateRel := fun s s' =>
  Before t t' False n s s' ∨ (flags.verbose = false → fine) ∧ Over s s'

variable {t t' : List Token} {p fine : Prop} {n : Nat} {s s' : ParseState} {counts : Nat × Option Nat}

theorem Reached.mono {flags : Flags} {m : Nat} (h : Reached t t' fine flags n s s') (hn : n ≤ m) :
    Reached t t' fine flags m s s' :=
  h.imp_left fun h => h.mono id hn

namespace Endings

/-! ## The same state -/

/-- A count is read besides the source. -/
theorem count?_follows {P : StateRel} (ds : List Char) : Follows P (count? ds) (count? ds) fun _ => P :=
  .ite (fun _ => .pure fun _ _ => id) fun _ => .ite (fun _ => .throw_bind) fun _ =>
    .ite (fun _ => .throw_bind) fun _ => .pure fun _ _ => id

theorem accept_same {r : List Token} {c : Char} (hc : r.head? ≠ some (.plain c)) :
    Follows (Same r) (accept c) (accept c) fun b s s' => b = false ∧ Same r s s' := by
  refine .bind (peek_follows (x := r.head?) ?_) fun y => .of_and fun hy => ?_
  · rintro s s' ⟨-, hrest, rfl⟩
    exact ⟨congrArg _ hrest, congrArg _ hrest⟩
  · rw [hy, if_neg hc]
    exact .pure fun _ _ hs => ⟨rfl, hs⟩

theorem advance_same {x : Token} {r : List Token} (hr : r.head? ≠ some .dangling) :
    Follows (Same (x :: r)) advance advance fun _ => Same r := by
  rintro v s ⟨hflags, hrest, rfl⟩ a u hrun
  have htail : s.rest.tail = r := by rw [hrest, List.tail_cons]
  rw [run_advance (by rw [htail]; exact hr)] at hrun
  cases hrun
  exact ⟨_, run_advance (by rw [htail]; exact hr), hflags, htail, rfl⟩

theorem greed_same : Follows (Same [.plain '$']) greed greed fun _ => Same [.plain '$'] := by
  refine .bind (accept_same (by decide)) fun b => .of_and fun hb => ?_
  subst hb
  refine .bind (accept_same (by decide)) fun b => .of_and fun hb => ?_
  subst hb
  exact .pure fun _ _ => id

theorem repeatLast_same (items : List Item) : Follows (Same [.plain '$']) (repeatLast counts items)
    (repeatLast counts items) fun _ => Same [.plain '$'] := by
  cases items with
  | nil => exact .invalid
  | cons item items =>
    refine .ite (fun _ => .invalid_bind) fun _ => ?_
    refine .bind (R := fun _ => Same [.plain '$']) (modify_follows ?_) fun _ => ?_
    · rintro u s ⟨hflags, hrest, rfl⟩
      exact ⟨hflags, hrest, rfl⟩
    · exact .bind greed_same fun _ => .pure fun _ _ => id

/-! ## The end of the text -/

/-- At the end of the sources a sequence ends. -/
theorem sequence_over {f g : Nat} (hf : 1 ≤ g) (flags : Flags) (start : Bool) (items : List Item) :
    Follows Over (sequence f flags start items) (sequence g flags start items) fun _ => Over := by
  cases f with
  | zero => exact .invalid
  | succ f =>
    obtain ⟨g, rfl⟩ : ∃ k, g = k + 1 := ⟨g - 1, by omega⟩
    refine .bind (peek_follows (x := none) ?_) fun y => .of_and fun hy => ?_
    · rintro s s' ⟨-, hrest, rfl⟩
      rw [hrest]
      exact ⟨rfl, rfl⟩
    · rw [hy]
      exact .pure fun _ _ => id

/-- The end of the text is the last thing in the sources. -/
theorem sequence_dollar {f g : Nat} (hf : 2 ≤ g) (flags : Flags) (start : Bool) (items : List Item) :
    Follows (Same [.plain '$']) (sequence f flags start items) (sequence g flags start items)
      fun _ => Over := by
  cases f with
  | zero => exact .invalid
  | succ f =>
    obtain ⟨g, rfl⟩ : ∃ k, g = k + 1 := ⟨g - 1, by omega⟩
    refine .bind (peek_follows (x := some (.plain '$')) ?_) fun y => .of_and fun hy => ?_
    · rintro s s' ⟨-, hrest, rfl⟩
      rw [hrest]
      exact ⟨rfl, rfl⟩
    · subst hy
      have hblank : (flags.verbose && Text.isBlankAscii '$') = false := Bool.and_false _
      have hcomment : (flags.verbose && decide ('$' = '#')) = false := Bool.and_false _
      refine .ite (fun h => absurd h (by decide)) fun _ => .bind (advance_same (by simp)) fun _ => ?_
      rw [hblank, hcomment]
      exact sequence_over (Nat.le_of_succ_le_succ hf) _ _ _

/-- **Where the endings begin, the counts are read**, and then the end of the text. -/
theorem sequence_at_nil (h : SameCounts t t' counts fine) {f g : Nat} (hf : 3 ≤ g) (flags : Flags)
    (start : Bool) (items : List Item) : Follows (At t t' []) (sequence f flags start items)
      (sequence g flags start items) fun _ s s' => fine ∧ Over s s' := by
  cases f with
  | zero => exact .invalid
  | succ f =>
    obtain ⟨g, rfl⟩ : ∃ k, g = k + 1 := ⟨g - 1, by omega⟩
    refine .bind (peek_at_nil h.first h.second) fun y => .of_and fun hy => ?_
    subst hy
    have hblank : (flags.verbose && Text.isBlankAscii '\x7b') = false := Bool.and_false _
    have hcomment : (flags.verbose && decide ('\x7b' = '#')) = false := Bool.and_false _
    refine .ite (fun h => absurd h (by decide)) fun _ => ?_
    rw [hblank, hcomment]
    refine .bind (advance_at_nil h.first h.second) fun _ => ?_
    refine .bind h.braces fun a => .of_and fun ha => ?_
    obtain ⟨rfl, hfine⟩ := ha
    refine .bind (repeatLast_same items) fun items => ?_
    exact (sequence_dollar (Nat.le_of_succ_le_succ hf) flags start items).mono_right
      fun _ _ _ hs => ⟨hfine, hs⟩

/-! ## In front of the endings -/

section

variable (ht : Ending t) (ht' : Ending t')
include ht ht'

theorem braces_follows (hp : p) : Follows (Before t t' p n) braces braces
    fun _ => Before t t' False n := by
  refine follows_before (fun h => absurd hp h) fun x ts hts hlength => ?_
  refine .bind peek_at_cons fun y => .of_and fun hy => .ite (fun _ => .pure fun s s' hs => ?_) fun _ => ?_
  · exact before_of_at_cons hts hlength hs
  · refine .get fun s s' hs => ?_
    have hbefore : Before t t' False n s s' := before_of_at_cons hts hlength hs
    obtain ⟨k, hk, hrest, hrest', hs⟩ := hbefore.exists_le
    have hdigits : Follows (Before t t' False k)
        (SourceReader.takeWhile Decimal.isDigit s.rest.length)
        (SourceReader.takeWhile Decimal.isDigit s'.rest.length) fun _ => Before t t' False k :=
      takeWhile_follows ht ht' (by decide) (by decide) (.inr ⟨hrest, hrest'⟩)
    refine .bind (hdigits.mono_left ?_) fun low => ?_
    · rintro u u' ⟨rfl, rfl⟩
      exact hs
    refine .bind (accept_follows ht ht' (by decide) (.inl (by decide))) fun comma => ?_
    refine .ite_bind (R := fun _ => Before t t' False k) (fun _ => hdigits)
      (fun _ => .pure fun _ _ => id) fun high => ?_
    refine .bind (accept_follows ht ht' (by decide) (.inl (by decide))) fun close => ?_
    refine .ite (fun _ => ?_) fun _ => .bind (.set s s') fun _ => .pure ?_
    · refine .bind (count?_follows low) fun least => .bind (count?_follows high) fun most => ?_
      exact .ite (fun _ => .invalid_bind) fun _ => .pure fun _ _ hs => hs.mono id hk
    · rintro u u' ⟨rfl, rfl⟩
      exact hbefore

theorem greed_follows : Follows (Before t t' p n) greed greed fun _ => Before t t' p n := by
  refine .bind (accept_follows ht ht' (by decide) (.inl (by decide))) fun b => ?_
  refine .ite (fun _ => .pure fun _ _ => id) fun _ => ?_
  refine .bind (accept_follows ht ht' (by decide) (.inl (by decide))) fun b => ?_
  exact .ite (fun _ => .pure fun _ _ => id) fun _ => .pure fun _ _ => id

theorem repeatLast_follows (items : List Item) : Follows (Before t t' p n) (repeatLast counts items)
    (repeatLast counts items) fun items s s' => items ≠ [] ∧ Before t t' p n s s' := by
  cases items with
  | nil => exact .invalid
  | cons item items =>
    refine .ite (fun _ => .invalid_bind) fun _ => .bind (keeps_follows ?_) fun _ => ?_
    · exact ⟨fun _ => rfl, fun _ => rfl, fun _ _ => rfl⟩
    · exact .bind (greed_follows ht ht') fun _ => .pure fun _ _ hs => ⟨List.cons_ne_nil _ _, hs⟩

/-! ## What may have been read already -/

/-- A character is consumed in front of the endings only. -/
theorem accept_reached {c : Char} (hbracket : c ≠ ']') (hbrace : c ≠ '\x7b') (flags : Flags) :
    Follows (Reached t t' fine flags n) (accept c) (accept c) fun b s s' =>
      (b = true ∧ ∃ m, m < n ∧ Before t t' True m s s') ∨ (b = false ∧ Reached t t' fine flags n s s') := by
  refine .of_or ((accept_follows_lt ht ht' hbracket (.inl hbrace)).mono_right fun b s s' hs => ?_)
    (.of_and fun hfine => (accept_same (by simp)).mono_right fun b s s' hs => ?_)
  · obtain ⟨m, ⟨hle, hlt⟩, hs⟩ := hs
    cases b with
    | true => exact .inl ⟨rfl, m, hlt rfl, hs.mono (fun _ => .inr rfl) (Nat.le_refl m)⟩
    | false => exact .inr ⟨rfl, .inl (hs.mono False.elim hle)⟩
  · exact .inr ⟨hs.1, .inr ⟨hfine, hs.2⟩⟩

theorem expect_reached {c : Char} (hbracket : c ≠ ']') (hbrace : c ≠ '\x7b') (flags : Flags) :
    Follows (Reached t t' fine flags n) (expect c) (expect c) fun _ => Before t t' False n := by
  refine .bind (accept_reached ht ht' hbracket hbrace flags) fun b => .of_or ?_ ?_
  · refine .of_and fun hb => .of_exists fun m => .of_and fun hm => ?_
    subst hb
    exact .pure fun _ _ hs => hs.mono False.elim (Nat.le_of_lt hm)
  · refine .of_and fun hb => ?_
    subst hb
    exact .invalid

omit ht ht' in
theorem keeps_reached {g : ParseState → ParseState} (hg : Keeps g) (flags : Flags) :
    Follows (Reached t t' fine flags n) (modify g) (modify g) fun _ => Reached t t' fine flags n := by
  refine modify_follows fun s s' hs => hs.imp hg.before (And.imp_right ?_)
  rintro ⟨hflags, hrest, rfl⟩
  exact ⟨(hg.flags _).trans hflags, (hg.rest _).trans hrest, rfl⟩

end

/-! ## The grammar -/

/-- **The readers of the grammar do the same on two fuels**, of which the second one is enough for the
units in front of the endings.  Switches for the whole regex stand at its very start only. -/
structure Grammar (t t' : List Token) (fine : Prop) (f : Nat) : Prop where
  alternation : ∀ {n g} flags, 6 * n + 4 ≤ g → Follows (Before t t' False n)
    (alternation f flags false) (alternation g flags false) fun _ => Reached t t' fine flags n
  alternatives : ∀ {n g} flags, 6 * n + 1 ≤ g → Follows (Reached t t' fine flags n)
    (alternatives f flags) (alternatives g flags) fun _ => Reached t t' fine flags n
  sequence : ∀ {n g} flags start items, 6 * n + 3 ≤ g → (start = true → items ≠ []) →
    Follows (Before t t' False n) (sequence f flags start items) (sequence g flags start items)
      fun _ => Reached t t' fine flags n
  parenthesis : ∀ {n g} flags start items, 6 * n + 7 ≤ g → (start = true → items ≠ []) →
    Follows (Before t t' True n) (parenthesis f flags start items) (parenthesis g flags start items)
      fun _ => Reached t t' fine flags n
  enclosed : ∀ {n g} flags, 6 * n + 5 ≤ g → Follows (Before t t' False n)
    (enclosed f flags) (enclosed g flags) fun _ => Before t t' False n
  capturing : ∀ {n g} flags name, 6 * n + 6 ≤ g → Follows (Before t t' False n)
    (capturing f flags name) (capturing g flags name) fun _ => Before t t' False n
  lookingBack : ∀ {n g} flags negated, 6 * n + 5 ≤ g → Follows (Before t t' False n)
    (lookingBack f flags negated) (lookingBack g flags negated) fun _ => Before t t' False n

namespace Grammar

theorem zero : Grammar t t' fine 0 where
  alternation _ _ := .invalid
  alternatives _ _ := .invalid
  sequence _ _ _ _ _ := .invalid
  parenthesis _ _ _ _ _ := .invalid
  enclosed _ _ := .invalid
  capturing _ _ _ := .invalid
  lookingBack _ _ _ := .invalid

variable (h : SameCounts t t' counts fine) {f g : Nat} (ih : Grammar t t' fine f) {flags : Flags}
  {start : Bool} {items : List Item}
include h ih

omit h in
theorem alternation_succ (hf : 6 * n + 4 ≤ g + 1) : Follows (Before t t' False n)
    (Regex.alternation (f + 1) flags false) (Regex.alternation (g + 1) flags false)
      fun _ => Reached t t' fine flags n := by
  refine .bind (ih.sequence flags false [] (by omega) Bool.noConfusion) fun first => .get fun s s' hs => ?_
  refine .bind ((ih.alternatives flags (n := n) (by omega)).mono_left ?_) fun others => .pure fun _ _ => id
  rintro u u' ⟨rfl, rfl⟩
  exact hs

theorem alternatives_succ (hf : 6 * n + 1 ≤ g + 1) : Follows (Reached t t' fine flags n)
    (Regex.alternatives (f + 1) flags) (Regex.alternatives (g + 1) flags)
      fun _ => Reached t t' fine flags n := by
  refine .bind (accept_reached h.first h.second (by decide) (by decide) flags) fun b => .of_or ?_ ?_
  · refine .of_and fun hb => .of_exists fun m => .of_and fun hm => ?_
    subst hb
    have hsequence := ih.sequence (n := m) (g := g) flags false [] (by omega) Bool.noConfusion
    refine .bind (hsequence.mono_left fun _ _ => Before.forget) fun next => ?_
    refine .bind (ih.alternatives flags (by omega)) fun others => .pure fun _ _ hs => ?_
    exact Reached.mono hs (Nat.le_of_lt hm)
  · refine .of_and fun hb => ?_
    subst hb
    exact .pure fun _ _ => id

theorem enclosed_succ (hf : 6 * n + 5 ≤ g + 1) : Follows (Before t t' False n)
    (Regex.enclosed (f + 1) flags) (Regex.enclosed (g + 1) flags) fun _ => Before t t' False n := by
  refine .bind (ih.alternation flags (by omega)) fun ns => ?_
  refine .bind (expect_reached h.first h.second (by decide) (by decide) flags) fun _ => ?_
  exact .pure fun _ _ => id

omit h in
theorem capturing_succ (name : Option (List Char)) (hf : 6 * n + 6 ≤ g + 1) :
    Follows (Before t t' False n) (Regex.capturing (f + 1) flags name)
      (Regex.capturing (g + 1) flags name) fun _ => Before t t' False n := by
  refine .bind (openGroup_follows name) fun index => .bind (ih.enclosed flags (by omega)) fun ns => ?_
  refine .bind (keeps_follows ?_) fun _ => .pure fun _ _ => id
  exact ⟨fun _ => rfl, fun _ => rfl, fun _ _ => rfl⟩

theorem lookingBack_succ (negated : Bool) (hf : 6 * n + 5 ≤ g + 1) :
    Follows (Before t t' False n) (Regex.lookingBack (f + 1) flags negated)
      (Regex.lookingBack (g + 1) flags negated) fun _ => Before t t' False n := by
  refine get_follows fun s r => .when (fun _ => keeps_follows ?_) ?_
  · exact ⟨fun _ => rfl, fun _ => rfl, fun _ _ => rfl⟩
  refine .bind (ih.alternation flags (by omega)) fun ns => .when (fun _ => keeps_reached ?_ flags) ?_
  · exact ⟨fun _ => rfl, fun _ => rfl, fun _ _ => rfl⟩
  refine .bind (expect_reached h.first h.second (by decide) (by decide) flags) fun _ => ?_
  refine .when (fun _ => keeps_follows ?_) (.pure fun _ _ => id)
  exact ⟨fun _ => rfl, fun _ => rfl, fun _ _ => rfl⟩

omit h in
/-- Going on behind what was read. -/
theorem sequence_later {m : Nat} (hm : m ≤ n) (hf : 6 * m + 3 ≤ g)
    (hitems : start = true → items ≠ []) : Follows (Before t t' p m)
      (Regex.sequence f flags start items) (Regex.sequence g flags start items)
        fun _ => Reached t t' fine flags n :=
  (ih.sequence flags start items hf hitems).mono
    (fun _ _ => Before.forget) fun _ _ _ hs => Reached.mono hs hm

omit h in
/-- Going on behind another item. -/
theorem item_later {m : Nat} (item : Item) (hm : m ≤ n) (hf : 6 * m + 3 ≤ g) :
    Follows (Before t t' p m) (Regex.sequence f flags start (item :: items))
      (Regex.sequence g flags start (item :: items)) fun _ => Reached t t' fine flags n :=
  sequence_later ih hm hf fun _ => List.cons_ne_nil item items

theorem sequence_succ (hf : 6 * n + 3 ≤ g + 1) (hitems : start = true → items ≠ []) :
    Follows (Before t t' False n) (Regex.sequence (f + 1) flags start items)
      (Regex.sequence (g + 1) flags start items) fun _ => Reached t t' fine flags n := by
  have ht := h.first
  have ht' := h.second
  refine follows_before (fun _ => ?_) fun x ts hts hlength => ?_
  · refine (sequence_at_nil h (by omega) flags start items).mono_right fun _ _ _ hs => ?_
    exact .inr ⟨fun _ => hs.1, hs.2⟩
  have hfuel : 6 * ts.length + 3 ≤ g := by omega
  -- what comes behind another item
  have hlater : ∀ {q : Prop} items, items ≠ [] → Follows (Before t t' q ts.length)
      (Regex.sequence f flags start items) (Regex.sequence g flags start items)
        fun _ => Reached t t' fine flags n :=
    fun items hne => sequence_later ih (Nat.le_of_lt hlength) hfuel fun _ => hne
  have hitem : ∀ {q : Prop} item, Follows (Before t t' q ts.length)
      (Regex.sequence f flags start (item :: items)) (Regex.sequence g flags start (item :: items))
        fun _ => Reached t t' fine flags n := fun item => item_later ih item (Nat.le_of_lt hlength) hfuel
  refine .bind peek_at_cons fun y => .of_and fun hy => ?_
  subst hy
  have hback : ∀ s s', At t t' ts s s' → Before t t' (x.isBracket = false) ts.length s s' :=
    fun s s' hs => before_of_at hts.tail (Nat.le_refl _) hts.ne_nil hs
  cases x with
  | dangling => exact .invalid
  | escaped c =>
    have hescape := escape_follows (n := ts.length) ht ht' flags c
    refine .bind (advance_follows ht ht') fun _ => .bind (hescape.mono_left ?_) fun n => hitem _
    exact fun s s' hs => (hback s s' hs).mono decide_eq_false (Nat.le_refl _)
  | plain c =>
    refine .ite (fun _ => .pure fun _ _ hs => .inl (before_of_at_cons hts hlength hs)) fun _ => ?_
    refine .bind (advance_follows ht ht') fun _ => ?_
    refine Follows.mono_left (P := Before t t' (c ≠ ']') ts.length) ?_ fun s s' hs =>
      (hback s s' hs).mono decide_eq_false (Nat.le_refl _)
    refine .ite (fun _ => sequence_later ih (Nat.le_of_lt hlength) hfuel hitems) fun _ => ?_
    refine .ite (fun hskip => ?_) fun _ => ?_
    · -- the rest of a line that is skipped may be the rest of the source
      have hverbose : flags.verbose = true := (Bool.and_eq_true_iff.mp hskip).1
      refine .get fun s s' hs => .bind (skipLine_follows ht ht' hs) fun _ => ?_
      refine .of_or (sequence_later ih (Nat.le_of_lt hlength) hfuel hitems) ?_
      refine (sequence_over (by omega) flags start items).mono_right fun _ _ _ hs => .inr ⟨?_, hs⟩
      exact fun hfalse => absurd hverbose (hfalse ▸ Bool.false_ne_true)
    refine .ite (fun _ => .bind (charSet_follows ht ht' _) fun n => hitem _) fun _ => ?_
    refine .ite (fun hc => ?_) fun _ => ?_
    · have hne : c ≠ ']' := by rw [hc]; decide
      refine .bind (braces_follows ht ht' hne) fun a => ?_
      cases a with
      | none => exact hitem _
      | some counts => exact .bind (repeatLast_follows ht ht' items) fun items => .of_and (hlater items)
    refine .ite (fun _ => hitem _) fun _ => .ite (fun _ => hitem _) fun _ => .ite (fun _ => hitem _) fun _ => ?_
    refine .ite (fun hc => ?_) fun _ => ?_
    · have hne : c ≠ ']' := by rw [hc]; decide
      have hgroup := ih.parenthesis (n := ts.length) (g := g) flags start items (by omega) hitems
      refine hgroup.mono (fun _ _ hs => ?_) fun _ _ _ hs => Reached.mono hs (Nat.le_of_lt hlength)
      exact hs.mono (fun _ => hne) (Nat.le_refl _)
    · cases repeatCounts? c with
      | none => exact hitem _
      | some counts => exact .bind (repeatLast_follows ht ht' items) fun items => .of_and (hlater items)

/-- **Going on behind a condition on a group**: its two branches, and what follows. -/
theorem conditional_later {m : Nat} (hm : m ≤ n) (hf : 6 * m + 4 ≤ g) (index : Nat) :
    Follows (Before t t' False m)
      (do
        let yes ← Regex.sequence f flags false []
        let no ← if ← accept '|' then Regex.sequence f flags false [] else pure []
        expect ')'
        Regex.sequence f flags start
          (.single (.conditional index (.ofList yes) (.ofList no)) :: items))
      (do
        let yes ← Regex.sequence g flags false []
        let no ← if ← accept '|' then Regex.sequence g flags false [] else pure []
        expect ')'
        Regex.sequence g flags start
          (.single (.conditional index (.ofList yes) (.ofList no)) :: items))
      fun _ => Reached t t' fine flags n := by
  have ht := h.first
  have ht' := h.second
  refine .bind (ih.sequence flags false [] (by omega) Bool.noConfusion) fun yes => ?_
  have hend : ∀ no : List Node, Follows (Reached t t' fine flags m)
      (do expect ')'; Regex.sequence f flags start
            (.single (.conditional index (.ofList yes) (.ofList no)) :: items))
      (do expect ')'; Regex.sequence g flags start
            (.single (.conditional index (.ofList yes) (.ofList no)) :: items))
      fun _ => Reached t t' fine flags n := fun no =>
    .bind (expect_reached ht ht' (by decide) (by decide) flags) fun _ =>
      item_later ih _ hm (by omega)
  refine .bind (accept_reached ht ht' (by decide) (by decide) flags) fun b => .of_or ?_ ?_
  · refine .of_and fun hb => .of_exists fun l => .of_and fun hl => ?_
    subst hb
    exact .bind (sequence_later ih (Nat.le_of_lt hl) (by omega) Bool.noConfusion) hend
  · refine .of_and fun hb => ?_
    subst hb
    exact .bind (.pure fun _ _ => id) hend

/-- **Going on behind the sign of a name**: a group that is named, or one that is referred to. -/
theorem named_later {m : Nat} (hm : m ≤ n) (hf : 6 * m + 6 ≤ g) : Follows (Before t t' True m)
    (do
      if ← accept '<' then
        let name ← identifierUntil '>'
        let node ← Regex.capturing f flags (some name)
        Regex.sequence f flags start (.single node :: items)
      else if ← accept '=' then
        let name ← identifierUntil ')'
        match (← get).names.lookup name with
        | none => invalid
        | some index =>
          let node ← reference flags.comparison index
          Regex.sequence f flags start (.single node :: items)
      else invalid)
    (do
      if ← accept '<' then
        let name ← identifierUntil '>'
        let node ← Regex.capturing g flags (some name)
        Regex.sequence g flags start (.single node :: items)
      else if ← accept '=' then
        let name ← identifierUntil ')'
        match (← get).names.lookup name with
        | none => invalid
        | some index =>
          let node ← reference flags.comparison index
          Regex.sequence g flags start (.single node :: items)
      else invalid)
    fun _ => Reached t t' fine flags n := by
  have ht := h.first
  have ht' := h.second
  refine .bind (accept_follows ht ht' (by decide) (.inl (by decide))) fun b => .ite (fun _ => ?_) fun _ => ?_
  · refine .bind (identifierUntil_follows ht ht' (by decide) (ht.notMem (.inr rfl))) fun name => ?_
    refine .bind ((ih.capturing flags (some name) hf).mono_left fun _ _ => Before.forget) fun node => ?_
    exact item_later ih _ hm (by omega)
  refine .bind (accept_follows ht ht' (by decide) (.inl (by decide))) fun b => .ite (fun _ => ?_) fun _ => .invalid
  refine .bind (identifierUntil_follows ht ht' (by decide) (ht.notMem (.inl rfl))) fun name => ?_
  refine get_follows fun s r => ?_
  dsimp only
  cases s.names.lookup name with
  | none => exact .invalid
  | some index => exact .bind (reference_follows _ index) fun node => item_later ih _ hm (by omega)

/-- **What a parenthesis opens.** -/
theorem parenthesis_succ (hf : 6 * n + 7 ≤ g + 1) (hitems : start = true → items ≠ []) :
    Follows (Before t t' True n) (Regex.parenthesis (f + 1) flags start items)
      (Regex.parenthesis (g + 1) flags start items) fun _ => Reached t t' fine flags n := by
  have ht := h.first
  have ht' := h.second
  have hitem : ∀ {q : Prop} {m} item, m ≤ n → Follows (Before t t' q m)
      (Regex.sequence f flags start (item :: items)) (Regex.sequence g flags start (item :: items))
        fun _ => Reached t t' fine flags n :=
    fun item hm => item_later ih item hm (by omega)
  refine .bind (accept_follows ht ht' (by decide) (.inl (by decide))) fun b => .ite (fun _ => ?_) fun _ => ?_
  · have hcapturing := ih.capturing (n := n) (g := g) flags none (by omega)
    refine .bind (hcapturing.mono_left fun _ _ => Before.forget) fun node => ?_
    exact hitem _ (Nat.le_refl n)
  refine .bind (next_follows ht ht' trivial) fun y => .of_exists fun x => .of_exists fun m => .of_and fun hy => ?_
  obtain ⟨rfl, hlt⟩ := hy
  have hm : m ≤ n := Nat.le_of_lt hlt
  have henclosed : ∀ {q : Prop} flags, Follows (Before t t' q m) (Regex.enclosed f flags)
      (Regex.enclosed g flags) fun _ => Before t t' False m :=
    fun flags => (ih.enclosed flags (by omega)).mono_left fun _ _ => Before.forget
  cases x with
  | plain c =>
    -- a sign that opens something is no bracket
    have hin : ∀ d, c = d → d ≠ ']' → ∀ s s', Before t t' ((Token.plain c).isBracket = false) m s s' →
        Before t t' True m s s' := fun d hc hd s s' hs =>
      hs.mono (fun _ => decide_eq_false (hc ▸ hd)) (Nat.le_refl m)
    refine .ite (fun hc => (named_later h ih hm (by omega)).mono_left (hin _ hc (by decide))) fun _ => ?_
    refine .ite (fun _ => .bind (henclosed flags) fun ns => hitem _ hm) fun _ => ?_
    refine .ite (fun _ => .get fun s s' hs => ?_) fun _ => ?_
    · obtain ⟨k, hk, -, hrest, hs⟩ := hs.exists_le
      have hskip := skipComment_follows (p := False) (f := s.rest.length + 1) ht ht'
        (Nat.lt_succ_of_le hrest)
      refine .bind (hskip.mono_left ?_) fun _ => sequence_later ih (by omega) (by omega) hitems
      rintro u u' ⟨rfl, rfl⟩
      exact hs.forget
    refine .ite (fun _ => .bind (henclosed flags) fun ns => hitem _ hm) fun _ => ?_
    refine .ite (fun hc => .mono_left ?_ (hin _ hc (by decide))) fun _ => ?_
    · refine .bind (next_follows ht ht' trivial) fun y => .of_exists fun x => .of_exists fun l => .of_and fun hy => ?_
      obtain ⟨rfl, hl⟩ := hy
      cases x with
      | plain d =>
        refine .ite (fun _ => ?_) fun _ => .invalid
        have hback := ih.lookingBack (n := l) (g := g) flags (d = '!') (by omega)
        exact .bind (hback.mono_left fun _ _ => Before.forget) fun node =>
          hitem _ (by omega)
      | _ => exact .invalid
    refine .ite (fun _ => ?_) fun _ => ?_
    · exact .bind (conditionGroup_follows ht ht') fun index => conditional_later h ih hm (by omega) index
    refine .ite (fun _ => .bind (henclosed flags) fun ns => hitem _ hm) fun _ => ?_
    refine .ite (fun hc => ?_) fun _ => .invalid
    have hne : c ≠ ']' := by
      rintro rfl
      cases hc
    refine .bind (flagGroup_follows ht ht' (decide_eq_false hne) c) fun group => ?_
    cases group with
    | whole on =>
      -- switches for the whole regex stand at its very start only
      refine .ite (fun _ => .invalid_bind) fun hfirst => absurd ?_ hfirst
      cases start with
      | false => rfl
      | true => simpa using hitems rfl
    | inside on off => exact .bind (henclosed _) fun ns => hitem _ hm
  | _ => exact .invalid

end Grammar

/-- **Every reader of the grammar does the same in both sources**, whatever the fuels are as long as the
second one is enough. -/
theorem grammar (h : SameCounts t t' counts fine) (f : Nat) : Grammar t t' fine f := by
  induction f with
  | zero => exact .zero
  | succ f ih =>
    have hsucc : ∀ {k g : Nat}, k + 1 ≤ g → ∃ m, g = m + 1 :=
      fun hk => Nat.exists_eq_succ_of_ne_zero (by omega)
    constructor
    · intro n g flags hf
      obtain ⟨g, rfl⟩ := hsucc hf
      exact ih.alternation_succ hf
    · intro n g flags hf
      obtain ⟨g, rfl⟩ := hsucc hf
      exact ih.alternatives_succ h hf
    · intro n g flags start items hf hitems
      obtain ⟨g, rfl⟩ := hsucc hf
      exact ih.sequence_succ h hf hitems
    · intro n g flags start items hf hitems
      obtain ⟨g, rfl⟩ := hsucc hf
      exact ih.parenthesis_succ h hf hitems
    · intro n g flags hf
      obtain ⟨g, rfl⟩ := hsucc hf
      exact ih.enclosed_succ h hf
    · intro n g flags name hf
      obtain ⟨g, rfl⟩ := hsucc hf
      exact ih.capturing_succ name hf
    · intro n g flags negated hf
      obtain ⟨g, rfl⟩ := hsucc hf
      exact ih.lookingBack_succ h negated hf

/-! ## Whole sources -/

section

variable (h : SameCounts t t' counts fine) {ts : List Token} (hts : Bracketed (.plain '^' :: ts))
  {f g : Nat}
include h hts

/-- Behind an anchor no switches for the whole regex are set any more. -/
theorem sequence_anchor (hf : 6 * ts.length + 4 ≤ g) : Follows (At t t' (.plain '^' :: ts))
    (sequence f .none true []) (sequence g .none true [])
      fun _ => Reached t t' fine .none ts.length := by
  cases f with
  | zero => exact .invalid
  | succ f =>
    obtain ⟨g, rfl⟩ : ∃ k, g = k + 1 := ⟨g - 1, by omega⟩
    refine .bind peek_at_cons fun y => .of_and fun hy => ?_
    subst hy
    refine .ite (fun h => absurd h (by decide)) fun _ => .bind (advance_follows h.first h.second) fun _ => ?_
    have hlater := (grammar h f).sequence (n := ts.length) (g := g) .none true
      [.single (.anchor .firstLineStart)] (by omega) fun _ => List.cons_ne_nil _ _
    exact hlater.mono_left fun _ _ hs => before_of_at hts.tail (Nat.le_refl _) False.elim hs

theorem alternation_anchor (hf : 6 * ts.length + 5 ≤ g) : Follows (At t t' (.plain '^' :: ts))
    (alternation f .none true) (alternation g .none true)
      fun _ => Reached t t' fine .none ts.length := by
  cases f with
  | zero => exact .invalid
  | succ f =>
    obtain ⟨g, rfl⟩ : ∃ k, g = k + 1 := ⟨g - 1, by omega⟩
    refine .bind (sequence_anchor h hts (by omega)) fun first => .get fun s s' hs => ?_
    have hflags : s.flags = .none ∧ s'.flags = .none := by
      rcases hs with ⟨-, -, hflags, -, rfl⟩ | ⟨-, hflags, -, rfl⟩ <;> exact ⟨hflags, hflags⟩
    rw [hflags.1, hflags.2]
    have hothers := (grammar h f).alternatives (n := ts.length) (g := g) .none (by omega)
    refine .bind (hothers.mono_left ?_) fun others => .pure fun _ _ => id
    rintro u u' ⟨rfl, rfl⟩
    exact hs

/-- **The whole of a source that begins with an anchor.** -/
theorem whole_follows (hf : 6 * ts.length + 5 ≤ g) : Follows (At t t' (.plain '^' :: ts))
    (whole f .none) (whole g .none) fun _ s s' => fine ∧ s' = s := by
  refine .bind peek_at_cons fun y => .of_and fun hy => ?_
  subst hy
  refine .ite (fun h => absurd h (by decide)) fun _ => ?_
  refine .bind (alternation_anchor h hts hf) fun ns => .get fun s s' hs => ?_
  rcases hs with ⟨us, -, -, hrest, rfl⟩ | ⟨hfine, -, -, rfl⟩
  · -- in front of the endings the source is not read to its end
    have hne : ∀ {t : List Token}, Ending t → (!(us ++ t).isEmpty) = true := by
      intro t ht
      cases us with
      | nil =>
        cases t with
        | nil => cases ht.head
        | cons x t => rfl
      | cons x us => rfl
    rw [hrest]
    dsimp only
    rw [hne h.first, hne h.second]
    exact .ite (fun _ => .throw_bind) fun _ => .invalid_bind
  · refine .ite (fun _ => .throw_bind) fun _ => .ite (fun _ => .invalid_bind) fun _ => ?_
    refine .ite (fun _ => .invalid_bind) fun _ => .ite (fun _ => .invalid_bind) fun _ => .pure ?_
    rintro u u' ⟨rfl, rfl⟩
    exact ⟨hfine rfl, rfl⟩

/-- **A source that begins with an anchor is read like one with another ending** that means the same
counts. -/
theorem read_follows {source source' : String}
    (hsource : Token.ofList source.toList = .plain '^' :: ts ++ t)
    (hsource' : Token.ofList source'.toList = .plain '^' :: ts ++ t') {r : Node × Flags}
    (hread : read source .none = .ok r) : fine ∧ read source' .none = .ok r := by
  unfold read at hread ⊢
  dsimp only at hread ⊢
  rw [hsource] at hread
  rw [hsource']
  obtain ⟨⟨n, s⟩, hwhole, hr⟩ := Except.bind_eq_ok_iff.mp hread
  obtain ⟨s', hwhole', hfine, rfl⟩ := whole_follows h hts (g := 6 * (.plain '^' :: ts ++ t').length + 6)
    (by simp; omega) _ ⟨.plain '^' :: ts ++ t', .none, 0, [], [], [], none, false, false⟩
    ⟨rfl, rfl, rfl⟩ _ _ hwhole
  rw [hwhole']
  exact ⟨hfine, hr⟩

end

end Endings

end Conformance.Regex
