import Conformance.Proofs.Regex.Endings

/-!
# Escapes, sets and switches in front of endings

What is read by one reader alone, without the grammar: it is the same in two sources that differ in
their ends.

## Main statements

* `Regex.Endings.escape_follows`, `Regex.Endings.setEscape_follows` — escapes outside and inside of a set
* `Regex.Endings.charSet_follows` — a set
* `Regex.Endings.flagGroup_follows` — the switches at the start of a group
* `Regex.Endings.conditionGroup_follows` — the group that a condition asks about
-/

namespace Conformance.Regex.Endings

open SourceReader

variable {t t' : List Token} {p : Prop} {n : Nat} {s s' : ParseState} {α : Type} {Q : α → StateRel}

/-! ## What is read besides the source -/

/-- A change that leaves the source and the switches alone. -/
structure Keeps (g : ParseState → ParseState) : Prop where
  flags : ∀ s, (g s).flags = s.flags
  rest : ∀ s, (g s).rest = s.rest
  other : ∀ s r, g { s with rest := r } = { g s with rest := r }

theorem Keeps.before {g : ParseState → ParseState} (hg : Keeps g) (h : Before t t' p n s s') :
    Before t t' p n (g s) (g s') := by
  obtain ⟨ts, hts, hflags, hrest, rfl⟩ := h
  exact ⟨ts, hts, (hg.flags s).trans hflags, (hg.rest s).trans hrest, hg.other s _⟩

theorem keeps_follows {g : ParseState → ParseState} (hg : Keeps g) :
    Follows (Before t t' p n) (modify g) (modify g) fun _ => Before t t' p n :=
  modify_follows fun _ _ => hg.before

/-- Readers that look at their states see the same besides the source. -/
theorem get_follows {f f' : ParseState → SourceReader α}
    (h : ∀ s r, Follows (Before t t' p n) (f s) (f' { s with rest := r }) Q) :
    Follows (Before t t' p n) (get >>= f) (get >>= f') Q := by
  refine .get fun s s' hs => ?_
  obtain ⟨ts, hts, hflags, hrest, rfl⟩ := hs
  refine (h s _).mono_left ?_
  rintro u u' ⟨rfl, rfl⟩
  exact ⟨ts, hts, hflags, hrest, rfl⟩

theorem checkLookback_follows (index : Nat) : Follows (Before t t' p n) (checkLookback index)
    (checkLookback index) fun _ => Before t t' p n := by
  refine get_follows fun s r => ?_
  dsimp only
  cases s.lookback with
  | none => exact .pure fun _ _ => id
  | some before => exact .ite (fun _ => .invalid) fun _ => .pure fun _ _ => id

theorem reference_follows (m : Comparison) (index : Nat) : Follows (Before t t' p n)
    (reference m index) (reference m index) fun _ => Before t t' p n := by
  refine get_follows fun s r => ?_
  dsimp only
  cases s.closed.lookup index with
  | none => exact .invalid
  | some width => exact .bind (checkLookback_follows index) fun _ => .pure fun _ _ => id

/-- What becomes of an escape by digits that were read: three of them are a character, fewer a reference. -/
def behindDigits (flags : Flags) (c : Char) (second third : List Char) : SourceReader Node :=
  if third.isEmpty then reference flags.comparison (Decimal.natOfDigits (c :: second))
  else if 0o377 < ofDigits 8 (c :: (second ++ third)) then do
    invalid
    pure (flags.literal (ofDigits 8 (c :: (second ++ third))))
  else pure (flags.literal (ofDigits 8 (c :: (second ++ third))))

theorem behindDigits_follows (flags : Flags) (c : Char) (second third : List Char) :
    Follows (Before t t' p n) (behindDigits flags c second third) (behindDigits flags c second third)
      fun _ => Before t t' p n :=
  .ite (fun _ => reference_follows _ _) fun _ =>
    .ite (fun _ => .invalid_bind) fun _ => .pure fun _ _ => id

theorem openGroup_follows (name : Option (List Char)) : Follows (Before t t' p n) (openGroup name)
    (openGroup name) fun _ => Before t t' p n := by
  refine .get ?_
  rintro s s' ⟨ts, hts, hflags, hrest, rfl⟩
  cases name with
  | none =>
    refine .bind (.set _ _) fun _ => .pure ?_
    rintro u u' ⟨rfl, rfl⟩
    exact ⟨ts, hts, hflags, hrest, rfl⟩
  | some name =>
    refine .ite (fun _ => .invalid_bind) fun _ => .bind (.set _ _) fun _ => .pure ?_
    rintro u u' ⟨rfl, rfl⟩
    exact ⟨ts, hts, hflags, hrest, rfl⟩

/-! ## Escapes -/

/-- A text with a brace is no name of a character. -/
theorem namedCode?_of_mem {name : List Char} (h : '\x7b' ∈ name) : Text.namedCode? name = none := by
  have hsigns : name.all Text.isNameSign = false := List.all_eq_false.mpr ⟨_, h, by decide⟩
  rw [Text.namedCode?, hsigns]
  rfl

/-- A letter of a switch is no bracket. -/
theorem ne_bracket_of_ofLetter? {c : Char} {flag : Flags} (h : Flags.ofLetter? c = some flag) :
    c ≠ ']' := by
  rintro rfl
  cases h

section

variable (ht : Ending t) (ht' : Ending t')
include ht ht'

theorem hexEscape_follows (digits : Nat) : Follows (Before t t' p n) (hexEscape digits)
    (hexEscape digits) fun _ => Before t t' p n :=
  .bind (takeWhile_follows ht ht' rfl rfl (.inl rfl)) fun _ =>
    .ite (fun _ => .invalid_bind) fun _ => .ite (fun _ => .invalid_bind) fun _ => .pure fun _ _ => id

/-- **A character by its name.**  A name that goes on beyond an ending has a brace in it. -/
theorem namedEscape_follows (hp : p) : Follows (Before t t' p n) namedEscape namedEscape
    fun _ => Before t t' p n := by
  refine .bind (expect_follows ht ht' (by decide) (.inr hp)) fun _ => ?_
  simp only [nameUntil, bind_assoc]
  refine .get fun s s' hs => ?_
  obtain ⟨m, hm, -, hrest, hs⟩ := hs.exists_le
  refine (takeUntil_follows (p := p) ht ht' (by decide) ?_ (fun name => ?_) hm
    (Nat.lt_succ_of_le hrest) []).mono_left ?_
  · intro f taken u hu r hrun
    rw [StateT.run_bind] at hrun
    obtain ⟨⟨name, v⟩, htaken, hcode⟩ := Except.bind_eq_ok_iff.mp hrun
    have hbrace : '\x7b' ∈ name := (of_run_takeUntil htaken).2.2 _ (hu ▸ ht.head) (by decide)
    dsimp only at hcode
    rw [namedCode?_of_mem hbrace] at hcode
    cases hcode
  · cases Text.namedCode? name with
    | none => exact .invalid
    | some code => exact .pure fun _ _ hs => hs.mono (fun _ => trivial) (Nat.le_refl n)
  · rintro u u' ⟨rfl, rfl⟩
    exact hs

theorem plainEscape_follows (c : Char) : Follows (Before t t' (c ≠ ']') n) (plainEscape c)
    (plainEscape c) fun _ => Before t t' False n := by
  have hweak : ∀ s s', Before t t' (c ≠ ']') n s s' → Before t t' False n s s' :=
    fun _ _ => Before.forget
  refine .ite (fun _ => (hexEscape_follows ht ht' 2).mono_left hweak) fun _ => ?_
  refine .ite (fun _ => (hexEscape_follows ht ht' 4).mono_left hweak) fun _ => ?_
  refine .ite (fun _ => (hexEscape_follows ht ht' 8).mono_left hweak) fun _ => ?_
  refine .ite (fun hc => ?_) fun _ => ?_
  · have hne : c ≠ ']' := by rw [hc]; decide
    exact (namedEscape_follows ht ht' hne).mono_right fun _ => hweak
  · exact .ite (fun _ => .invalid) fun _ => .pure hweak

/-- **An escape inside a set.** -/
theorem setEscape_follows (c : Char) : Follows (Before t t' (c ≠ ']') n) (setEscape c)
    (setEscape c) fun _ => Before t t' False n := by
  unfold setEscape
  cases letterEscape? c with
  | some code => exact .pure fun _ _ => Before.forget
  | none =>
    cases classEscape? c with
    | some item => exact .pure fun _ _ => Before.forget
    | none =>
      refine .ite (fun _ => ?_) fun _ => ?_
      · refine .bind (takeWhile_follows ht ht' (by decide) (by decide) (.inl rfl)) fun cs => ?_
        refine .ite (fun _ => .invalid_bind) fun _ => .pure fun _ _ hs => ?_
        exact hs.forget
      · exact .bind (plainEscape_follows ht ht' c) fun _ => .pure fun _ _ => id

/-- An escape by digits. -/
theorem digitEscape_follows (flags : Flags) (c : Char) : Follows (Before t t' p n)
    (digitEscape flags c) (digitEscape flags c) fun _ => Before t t' p n := by
  have hdigit : ∀ m, Follows (Before t t' p n) (takeWhile Decimal.isDigit m)
      (takeWhile Decimal.isDigit m) fun _ => Before t t' p n :=
    fun m => takeWhile_follows ht ht' (by decide) (by decide) (.inl rfl)
  have hoctal : ∀ m, Follows (Before t t' p n) (takeWhile isOctal m) (takeWhile isOctal m)
      fun _ => Before t t' p n :=
    fun m => takeWhile_follows ht ht' (by decide) (by decide) (.inl rfl)
  have hnone : Follows (Before t t' p n) (pure ([] : List Char)) (pure []) fun _ => Before t t' p n :=
    .pure fun _ _ => id
  refine .bind (hdigit 1) fun second => ?_
  rcases second with _ | ⟨d, _ | ⟨e, ds⟩⟩
  · exact .bind hnone (behindDigits_follows flags c [])
  · exact .ite_bind (fun _ => hoctal 1) (fun _ => hnone) (behindDigits_follows flags c [d])
  · exact .bind hnone (behindDigits_follows flags c (d :: e :: ds))

/-- **An escape outside of a set.** -/
theorem escape_follows (flags : Flags) (c : Char) : Follows (Before t t' (c ≠ ']') n)
    (escape flags c) (escape flags c) fun _ => Before t t' False n := by
  have hweak : ∀ s s', Before t t' (c ≠ ']') n s s' → Before t t' False n s s' :=
    fun _ _ => Before.forget
  unfold escape
  cases anchorEscape? flags c with
  | some a => exact .pure hweak
  | none =>
    cases classEscape? c with
    | some item => exact .pure hweak
    | none =>
      cases letterEscape? c with
      | some code => exact .pure hweak
      | none =>
        refine .ite (fun _ => ?_) fun _ => .ite (fun _ => ?_) fun _ => ?_
        · refine .bind (takeWhile_follows ht ht' (by decide) (by decide) (.inl rfl)) fun cs => ?_
          exact .pure hweak
        · exact (digitEscape_follows ht ht' flags c).mono_right fun _ => hweak
        · exact .bind (plainEscape_follows ht ht' c) fun _ => .pure fun _ _ => id

/-! ## Sets -/

theorem setItem_follows (x : Token) : Follows (Before t t' (x.isBracket = false) n) (setItem x)
    (setItem x) fun _ => Before t t' False n := by
  cases x with
  | plain c => exact .pure fun _ _ => Before.forget
  | escaped c =>
    exact (setEscape_follows ht ht' c).mono_left fun _ _ hs => hs.mono decide_eq_false (Nat.le_refl n)
  | dangling => exact .invalid

omit ht ht' in
/-- The next unit of characters without a closing bracket is one of them, if there is any. -/
theorem plain_of_run_next {y : Option Token} (hplain : ∀ x ∈ s.rest, ∃ c, x = .plain c ∧ c ≠ ']')
    (hnext : next.run s = .ok (y, s')) :
    (y = none ∨ ∃ c, y = some (.plain c) ∧ c ≠ ']') ∧ s'.rest ⊆ s.rest := by
  obtain ⟨rfl, hrest⟩ := rest_of_run_next hnext
  refine ⟨?_, hrest ▸ fun _ => List.mem_of_mem_tail⟩
  cases hs : s.rest with
  | nil => exact .inl rfl
  | cons x ts =>
    obtain ⟨c, hx, hc⟩ := hplain x (hs ▸ List.mem_cons_self)
    exact .inr ⟨c, congrArg some hx, hc⟩

omit ht ht' in
/-- A set is not closed among characters without a closing bracket. -/
theorem run_setItems_ne {f : Nat} {items : List SetItem}
    (hplain : ∀ x ∈ s.rest, ∃ c, x = .plain c ∧ c ≠ ']') (r : List SetItem × ParseState) :
    (setItems f items).run s ≠ .ok r := by
  intro h
  induction f generalizing s items with
  | zero => cases h
  | succ f ih =>
    rw [setItems, StateT.run_bind] at h
    obtain ⟨⟨y, v⟩, hnext, h⟩ := Except.bind_eq_ok_iff.mp h
    obtain ⟨rfl | ⟨c, rfl, hc⟩, hv⟩ := plain_of_run_next hplain hnext
    · cases h
    · have hbracket : (decide (Token.plain c = .plain ']') && !items.isEmpty) = false := by
        rw [decide_eq_false fun heq => hc (Token.plain.inj heq), Bool.false_and]
      dsimp only at h
      rw [hbracket, if_neg Bool.false_ne_true, StateT.run_bind] at h
      obtain ⟨⟨first, w⟩, hfirst, h⟩ := Except.bind_eq_ok_iff.mp h
      cases hfirst
      rw [StateT.run_bind] at h
      obtain ⟨⟨b, w⟩, haccept, h⟩ := Except.bind_eq_ok_iff.mp h
      have hw : w.rest ⊆ s.rest := fun x hx => hv (rest_subset_of_run_accept haccept hx)
      have hplain' : ∀ x ∈ w.rest, ∃ c, x = .plain c ∧ c ≠ ']' := fun x hx => hplain x (hw hx)
      cases b with
      | false => exact ih hplain' h
      | true =>
        dsimp only at h
        rw [if_pos rfl, StateT.run_bind] at h
        obtain ⟨⟨z, w'⟩, hnext', h⟩ := Except.bind_eq_ok_iff.mp h
        obtain ⟨rfl | ⟨d, rfl, hd⟩, hw'⟩ := plain_of_run_next hplain' hnext'
        · cases h
        · dsimp only at h
          rw [if_neg fun heq => hd (Token.plain.inj heq), StateT.run_bind] at h
          obtain ⟨⟨last, w''⟩, hlast, h⟩ := Except.bind_eq_ok_iff.mp h
          cases hlast
          dsimp only at h
          split at h
          · cases h
          · exact ih (fun x hx => hplain' x (hw' hx)) h

/-- **The items of a set**, in front of the endings. -/
theorem setItems_follows {f f' : Nat} (hf : n < f') (items : List SetItem) :
    Follows (Before t t' p n) (setItems f items) (setItems f' items)
      fun _ => Before t t' False n := by
  induction f generalizing p n f' items with
  | zero => exact .invalid
  | succ f ih =>
    obtain ⟨f', rfl⟩ : ∃ k, f' = k + 1 := ⟨f' - 1, by omega⟩
    refine follows_before (fun _ s s' hs a u hrun => ?_) fun x ts hts hlength => ?_
    · refine absurd hrun (run_setItems_ne ?_ _)
      rw [hs.2.1, List.nil_append]
      intro x hx
      obtain ⟨c, hc, hne, -⟩ := ht.plain x hx
      exact ⟨c, hc, hne⟩
    · -- the items behind an item that is read, in front of the endings
      have hlater : ∀ items : List SetItem, ∀ m, m < n → Follows (Before t t' False m)
          (setItems f items) (setItems f' items) fun _ => Before t t' False n :=
        fun items m hm => (ih (by omega) items).mono_right fun _ _ _ hs => hs.mono id (by omega)
      refine .bind (next_at_cons ht ht') fun y => .of_and fun hy => ?_
      subst hy
      refine .ite (fun _ => .pure fun s s' hs => ?_) fun _ => ?_
      · exact before_of_at hts.tail (by omega) False.elim hs
      · have hitem := setItem_follows (n := ts.length) ht ht' x
        refine .bind (hitem.mono_left fun s s' hs => ?_) fun first => ?_
        · exact before_of_at hts.tail (Nat.le_refl _) hts.ne_nil hs
        · refine .bind (accept_follows_lt ht ht' (by decide) (.inl (by decide))) fun b => ?_
          refine .of_exists fun m => .of_and fun hm => .ite (fun hb => ?_) fun _ => ?_
          · refine .bind (next_follows ht ht' (.inr hb)) fun z => ?_
            refine .of_exists fun y => .of_exists fun l => .of_and fun hz => ?_
            obtain ⟨rfl, hl⟩ := hz
            refine .ite (fun _ => .pure fun _ _ hs => hs.mono False.elim (by omega)) fun _ => ?_
            refine .bind (setItem_follows ht ht' y) fun last => ?_
            cases first with
            | code low =>
              cases last with
              | code high => exact .ite (fun _ => .invalid) fun _ => hlater _ l (by omega)
              | _ => exact .invalid
            | _ => exact .invalid
          · exact (hlater _ m (by omega)).mono_left fun _ _ => Before.forget

/-- **A set** behind its opening bracket, in front of the endings. -/
theorem charSet_follows (m : Comparison) : Follows (Before t t' p n) (charSet m) (charSet m)
    fun _ => Before t t' False n := by
  refine .bind (R := fun _ => Before t t' False n) ?_ fun negated => .get fun s s' hs => ?_
  · exact (accept_follows (p := False) ht ht' (by decide) (.inl (by decide))).mono_left fun _ _ =>
      Before.forget
  · obtain ⟨k, hk, -, hrest, hs⟩ := hs.exists_le
    have hitems := setItems_follows ht ht' (Nat.lt_succ_of_le hrest) (f := s.rest.length + 1) (p := False) []
    refine .bind (hitems.mono_left ?_) fun items => ?_
    · rintro u u' ⟨rfl, rfl⟩
      exact hs
    · split
      · exact .pure fun _ _ hs => hs.mono id hk
      · exact .pure fun _ _ hs => hs.mono id hk

/-! ## Switches -/

theorem flagsOn_follows {f f' : Nat} (hf : n < f') (on : Flags) (c : Char) :
    Follows (Before t t' (c ≠ ']') n) (flagsOn f on c) (flagsOn f' on c)
      fun r => Before t t' (r.2 ≠ ']') n := by
  induction f generalizing n f' on c with
  | zero => exact .invalid
  | succ f ih =>
    obtain ⟨f', rfl⟩ : ∃ k, f' = k + 1 := ⟨f' - 1, by omega⟩
    unfold flagsOn
    cases hflag : Flags.ofLetter? c with
    | none => exact .invalid
    | some flag =>
      refine .ite (fun _ => .invalid_bind) fun _ => ?_
      refine .bind (next_follows ht ht' (ne_bracket_of_ofLetter? hflag)) fun y => ?_
      refine .of_exists fun x => .of_exists fun m => .of_and fun hy => ?_
      obtain ⟨rfl, hm⟩ := hy
      cases x with
      | plain d =>
        refine .ite (fun _ => .pure fun _ _ hs => ?_) fun _ => ?_
        · exact hs.mono decide_eq_false (Nat.le_of_lt hm)
        · refine (ih (n := m) (by omega) _ d).mono (fun _ _ hs => ?_) fun _ _ _ hs => ?_
          · exact hs.mono decide_eq_false (Nat.le_refl m)
          · exact hs.mono id (Nat.le_of_lt hm)
      | _ => exact .invalid

theorem flagsOff_follows {f f' : Nat} (hf : n < f') (hp : p) (off : Flags) :
    Follows (Before t t' p n) (flagsOff f off) (flagsOff f' off) fun _ => Before t t' p n := by
  induction f generalizing n f' off with
  | zero => exact .invalid
  | succ f ih =>
    obtain ⟨f', rfl⟩ : ∃ k, f' = k + 1 := ⟨f' - 1, by omega⟩
    refine .bind (next_follows ht ht' hp) fun y => ?_
    refine .of_exists fun x => .of_exists fun m => .of_and fun hy => ?_
    obtain ⟨rfl, hm⟩ := hy
    cases x with
    | plain d =>
      dsimp only
      cases hflag : Flags.ofLetter? d with
      | none => exact .invalid
      | some flag =>
        have hd : (Token.plain d).isBracket = false := decide_eq_false (ne_bracket_of_ofLetter? hflag)
        refine .ite (fun _ => .invalid_bind) fun _ => ?_
        refine .bind (accept_follows ht ht' (by decide) (.inl (by decide))) fun b => .ite (fun _ => ?_) fun _ => ?_
        · exact .pure fun _ _ hs => hs.mono (fun _ => hd) (Nat.le_of_lt hm)
        · refine (ih (n := m) (by omega) _).mono (fun _ _ hs => ?_) fun _ _ _ hs => ?_
          · exact hs.mono (fun _ => hd) (Nat.le_refl m)
          · exact hs.mono id (Nat.le_of_lt hm)
    | _ => exact .invalid

/-- **The switches at the start of a group**, in front of the endings. -/
theorem flagGroup_follows (hp : p) (c : Char) : Follows (Before t t' p n) (flagGroup c) (flagGroup c)
    fun _ => Before t t' False n := by
  refine .get fun s s' hs => ?_
  obtain ⟨k, hk, -, hrest, hs⟩ := hs.exists_le
  have hfuel : k < s'.rest.length + 1 := Nat.lt_succ_of_le hrest
  refine .ite_bind (R := fun r => Before t t' (r.2 ≠ ']') k) (fun hc => .pure ?_) (fun hc => ?_) ?_
  · rintro u u' ⟨rfl, rfl⟩
    exact hs.mono (fun _ => hp) (Nat.le_refl k)
  · refine (flagsOn_follows ht ht' hfuel .none c).mono_left ?_
    rintro u u' ⟨rfl, rfl⟩
    exact hs.mono (fun _ => hp) (Nat.le_refl k)
  · rintro ⟨on, stop⟩
    have hweak : ∀ s s', Before t t' (stop ≠ ']') k s s' → Before t t' False n s s' :=
      fun _ _ hs => hs.mono False.elim hk
    refine .ite (fun _ => .pure hweak) fun _ => .ite (fun _ => .invalid_bind) fun _ => ?_
    refine .ite_bind (R := fun _ => Before t t' (stop ≠ ']') k) (fun hstop => ?_) (fun _ => ?_) fun off => ?_
    · have hminus : '-' ≠ ']' := by decide
      exact flagsOff_follows ht ht' hfuel (hstop ▸ hminus) .none
    · exact .pure fun _ _ => id
    · exact .ite (fun _ => .invalid_bind) fun _ => .pure hweak

/-- **The group that a condition asks about**, in front of the endings. -/
theorem conditionGroup_follows : Follows (Before t t' p n) conditionGroup conditionGroup
    fun _ => Before t t' False n := by
  have hlast : ∀ index, Follows (Before t t' True n) (do checkLookback index; pure index)
      (do checkLookback index; pure index) fun _ => Before t t' False n :=
    fun index => .bind (checkLookback_follows index) fun _ => .pure fun _ _ => Before.forget
  have hpure : ∀ index : Nat, Follows (Before t t' True n) (pure index) (pure index)
      fun _ => Before t t' True n := fun _ => .pure fun _ _ => id
  refine .bind (nameUntil_follows ht ht' (by decide) (ht.notMem (.inl rfl))) fun name => .ite (fun _ => ?_) fun _ => ?_
  · refine get_follows fun s r => ?_
    dsimp only
    cases s.names.lookup name with
    | none => exact .invalid_bind
    | some index => exact .bind (hpure index) hlast
  · cases groupNumber? name with
    | none => exact .invalid_bind
    | some index =>
      refine .ite (fun _ => .invalid_bind) fun _ => .bind (keeps_follows ?_) fun _ => ?_
      · exact ⟨fun _ => rfl, fun _ => rfl, fun _ _ => rfl⟩
      · exact .bind (hpure index) hlast

end

end Conformance.Regex.Endings
