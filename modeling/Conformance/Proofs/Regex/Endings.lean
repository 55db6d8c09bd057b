import Conformance.Proofs.Regex.SideBySide

/-!
# Sources that differ in their ends

Two sources are the same up to a closing bracket, and behind it each has an ending of its own: a brace
opens in it, and nothing that is open in front of it is closed in it.  As long as the readers are in
front of the endings, they do the same.  What one reader takes beyond its ending it does not bring to a
close, so the other one need not follow it there.

## Main Definitions

* `Regex.Ending` — what stands behind the bracket
* `Regex.Before` — the readers are at the same place of their sources, in front of the endings
* `Regex.Same`, `Regex.Over` — the readers are in the same state, at the end of their sources

## Main statements

* `Regex.Endings.advance_follows`, `Regex.Endings.accept_follows`, `Regex.Endings.takeWhile_follows` —
  consuming units
* `Regex.Endings.takeUntil_follows`, `Regex.Endings.skipComment_follows`,
  `Regex.Endings.skipLine_follows` — going up to a closing sign
-/

namespace Conformance.Regex

open SourceReader

/-- A closing bracket, as it is or behind a backslash. -/
def Token.isBracket : Token → Bool
  | .plain c => c = ']'
  | .escaped c => c = ']'
  | .dangling => false

/-- **What stands behind the last bracket of a source**: first an opening brace, and no sign that closes
a set, a group or a line. -/
structure Ending (t : List Token) : Prop where
  head : t.head? = some (.plain '\x7b')
  plain : ∀ x ∈ t, ∃ c, x = .plain c ∧ c ≠ ']' ∧ c ≠ ')' ∧ c ≠ '>' ∧ c ≠ '\n'

/-- The end of a name is not among an ending. -/
theorem Ending.notMem {t : List Token} (h : Ending t) {d : Char} (hd : d = ')' ∨ d = '>') :
    Token.plain d ∉ t := by
  intro hmem
  obtain ⟨c, heq, -, hclose, hangle, -⟩ := h.plain _ hmem
  cases heq
  exact hd.elim hclose hangle

/-- Units up to a bracket, or none. -/
def Bracketed (ts : List Token) : Prop := ∀ x ∈ ts.getLast?, x.isBracket = true

theorem Bracketed.nil : Bracketed [] := by simp [Bracketed]

theorem Bracketed.tail {x : Token} {ts : List Token} (h : Bracketed (x :: ts)) : Bracketed ts := by
  cases ts with
  | nil => exact .nil
  | cons y ts => rwa [Bracketed, List.getLast?_cons_cons] at h

/-- Behind any other unit there are further ones. -/
theorem Bracketed.ne_nil {x : Token} {ts : List Token} (h : Bracketed (x :: ts))
    (hx : x.isBracket = false) : ts ≠ [] := by
  rintro rfl
  rw [h x rfl] at hx
  cases hx

/-- The readers have the units `ts` in front of their endings, and no switches are set. -/
def At (t t' ts : List Token) : StateRel := fun s s' =>
  s.flags = .none ∧ s.rest = ts ++ t ∧ s' = { s with rest := ts ++ t' }

/-- **The readers are at the same place of their sources**, at most `n` units in front of the endings.
Where `p` holds, they are not at the endings yet. -/
def Before (t t' : List Token) (p : Prop) (n : Nat) : StateRel := fun s s' =>
  ∃ ts, (Bracketed ts ∧ ts.length ≤ n ∧ (p → ts ≠ [])) ∧ At t t' ts s s'

/-- The readers are in the same state, with the units `r` left, and no switches are set. -/
def Same (r : List Token) : StateRel := fun s s' => s.flags = .none ∧ s.rest = r ∧ s' = s

/-- **The readers are in the same state**, at the end of their sources. -/
abbrev Over : StateRel := Same []

variable {t t' : List Token} {p q : Prop} {n m : Nat} {s s' : ParseState}

theorem Before.mono (h : Before t t' p n s s') (hp : q → p) (hn : n ≤ m) : Before t t' q m s s' := by
  obtain ⟨ts, ⟨hts, hlength, hne⟩, hat⟩ := h
  exact ⟨ts, ⟨hts, Nat.le_trans hlength hn, fun hq => hne (hp hq)⟩, hat⟩

/-- It may be forgotten that the readers are not at the endings yet. -/
theorem Before.forget (h : Before t t' p n s s') : Before t t' False n s s' :=
  h.mono False.elim (Nat.le_refl n)

/-- The units that are left in the second source are more than those in front of its ending. -/
theorem Before.exists_le (h : Before t t' p n s s') :
    ∃ k, k ≤ n ∧ k ≤ s.rest.length ∧ k ≤ s'.rest.length ∧ Before t t' p k s s' := by
  obtain ⟨ts, ⟨hts, hlength, hne⟩, hat⟩ := h
  refine ⟨ts.length, hlength, ?_, ?_, ts, ⟨hts, Nat.le_refl _, hne⟩, hat⟩
  · rw [hat.2.1, List.length_append]
    exact Nat.le_add_right ..
  · rw [hat.2.2, List.length_append]
    exact Nat.le_add_right ..

namespace Endings

variable {α : Type} {Q : α → StateRel} {k k' : SourceReader α}

/-- A reader in front of the endings is at its ending, or there is a unit before it. -/
theorem follows_before (hnil : ¬ p → Follows (At t t' []) k k' Q)
    (hcons : ∀ x ts, Bracketed (x :: ts) → ts.length < n → Follows (At t t' (x :: ts)) k k' Q) :
    Follows (Before t t' p n) k k' Q := by
  rintro s s' ⟨ts, ⟨hts, hlength, hne⟩, hat⟩
  cases ts with
  | nil => exact hnil (fun hp => hne hp rfl) s s' hat
  | cons x ts => exact hcons x ts hts hlength s s' hat

theorem before_of_at_cons {x : Token} {ts : List Token} (hts : Bracketed (x :: ts))
    (hlength : ts.length < n) (h : At t t' (x :: ts) s s') : Before t t' p n s s' :=
  ⟨x :: ts, ⟨hts, hlength, fun _ => List.cons_ne_nil x ts⟩, h⟩

theorem before_of_at {ts : List Token} (hts : Bracketed ts) (hlength : ts.length ≤ n)
    (hne : p → ts ≠ []) (h : At t t' ts s s') : Before t t' p n s s' :=
  ⟨ts, ⟨hts, hlength, hne⟩, h⟩

/-! ## Single units -/

theorem peek_at_cons {x : Token} {ts : List Token} :
    Follows (At t t' (x :: ts)) peek peek fun y s s' => y = some x ∧ At t t' (x :: ts) s s' := by
  refine peek_follows ?_
  rintro s s' ⟨-, hrest, heq⟩
  rw [hrest, heq]
  exact ⟨rfl, rfl⟩

theorem peek_at_nil (ht : Ending t) (ht' : Ending t') :
    Follows (At t t' []) peek peek fun y s s' => y = some (.plain '\x7b') ∧ At t t' [] s s' := by
  refine peek_follows ?_
  rintro s s' ⟨-, hrest, heq⟩
  rw [hrest, heq]
  exact ⟨ht.head, ht'.head⟩

/-- Where the endings begin, their braces are consumed. -/
theorem advance_at_nil (ht : Ending t) (ht' : Ending t') : Follows (At t t' []) advance advance
    fun _ s s' => s.flags = .none ∧ s.rest = t.tail ∧ s' = { s with rest := t'.tail } := by
  have hhead : ∀ {t : List Token}, Ending t → t.tail.head? ≠ some .dangling := by
    intro t ht hhead
    obtain ⟨c, hc, -⟩ := ht.plain _ (List.mem_of_mem_tail (List.mem_of_mem_head? hhead))
    cases hc
  rintro s s' ⟨hflags, hrest, rfl⟩ a u hrun
  rw [List.nil_append] at hrest
  rw [run_advance (by rw [hrest]; exact hhead ht)] at hrun
  cases hrun
  exact ⟨_, run_advance (hhead ht'), hflags, congrArg List.tail hrest, rfl⟩

/-- **A unit in front of the endings** is consumed by both readers. -/
theorem advance_follows (ht : Ending t) (ht' : Ending t') {x : Token} {ts : List Token} :
    Follows (At t t' (x :: ts)) advance advance fun _ => At t t' ts := by
  have hhead : (ts ++ t).head? = (ts ++ t').head? := by
    cases ts with
    | nil => exact ht.head.trans ht'.head.symm
    | cons y ts => rfl
  refine .get ?_
  rintro s s' ⟨hflags, hrest, rfl⟩
  simp only [hrest, List.cons_append, List.tail_cons, hhead]
  refine .ite (fun _ => .invalid_bind) fun _ => modify_follows ?_
  rintro u u' ⟨rfl, rfl⟩
  exact ⟨hflags, rfl, rfl⟩

/-- A given character is consumed by both readers or by none.  A brace has to come before the endings,
which begin with one. -/
theorem accept_follows_lt (ht : Ending t) (ht' : Ending t') {c : Char} (hbracket : c ≠ ']')
    (hbrace : c ≠ '\x7b' ∨ p) : Follows (Before t t' p n) (accept c) (accept c) fun b s s' =>
      ∃ m, (m ≤ n ∧ (b = true → m < n)) ∧ Before t t' (p ∨ b = true) m s s' := by
  refine follows_before (fun hp => ?_) fun x ts hts hlength => ?_
  · refine .bind (peek_at_nil ht ht') fun y => .of_and fun hy => ?_
    rw [hy, if_neg fun h => hbrace.resolve_right hp (Token.plain.inj (Option.some.inj h)).symm]
    refine .pure fun s s' hs => ⟨n, ⟨Nat.le_refl n, Bool.noConfusion⟩, ?_⟩
    exact before_of_at .nil (Nat.zero_le n) (fun h => absurd h (by simpa using hp)) hs
  · refine .bind peek_at_cons fun y => .of_and fun hy => ?_
    subst hy
    refine .ite (fun heq => ?_) fun _ => ?_
    · obtain rfl : x = .plain c := Option.some.inj heq
      refine .bind (advance_follows ht ht') fun _ => .pure fun s s' hs => ?_
      refine ⟨ts.length, ⟨Nat.le_of_lt hlength, fun _ => hlength⟩, ?_⟩
      have hne : ts ≠ [] := hts.ne_nil (decide_eq_false hbracket)
      exact before_of_at hts.tail (Nat.le_refl _) (fun _ => hne) hs
    · refine .pure fun s s' hs => ⟨n, ⟨Nat.le_refl n, Bool.noConfusion⟩, ?_⟩
      exact before_of_at_cons hts hlength hs

theorem accept_follows (ht : Ending t) (ht' : Ending t') {c : Char} (hbracket : c ≠ ']')
    (hbrace : c ≠ '\x7b' ∨ p) :
    Follows (Before t t' p n) (accept c) (accept c) fun _ => Before t t' p n :=
  (accept_follows_lt ht ht' hbracket hbrace).mono_right fun _ _ _ h => by
    obtain ⟨m, hm, h⟩ := h
    exact h.mono .inl hm.1

theorem expect_follows (ht : Ending t) (ht' : Ending t') {c : Char} (hbracket : c ≠ ']')
    (hbrace : c ≠ '\x7b' ∨ p) :
    Follows (Before t t' p n) (expect c) (expect c) fun _ => Before t t' p n :=
  .bind (accept_follows ht ht' hbracket hbrace) fun _ =>
    .ite (fun _ => .invalid) fun _ => .pure fun _ _ => id

theorem next_at_cons (ht : Ending t) (ht' : Ending t') {x : Token} {ts : List Token} :
    Follows (At t t' (x :: ts)) next next fun y s s' => y = some x ∧ At t t' ts s s' := by
  refine .bind peek_at_cons fun y => .of_and fun hy => ?_
  subst hy
  exact .bind (advance_follows ht ht') fun _ => .pure fun _ _ hs => ⟨rfl, hs⟩

/-- **The next unit**, in front of the endings. -/
theorem next_follows (ht : Ending t) (ht' : Ending t') (hp : p) :
    Follows (Before t t' p n) next next fun y s s' =>
      ∃ x m, (y = some x ∧ m < n) ∧ Before t t' (x.isBracket = false) m s s' := by
  refine follows_before (fun h => absurd hp h) fun x ts hts hlength => ?_
  refine (next_at_cons ht ht').mono_right fun y s s' hs => ⟨x, ts.length, ⟨hs.1, hlength⟩, ?_⟩
  exact before_of_at hts.tail (Nat.le_refl _) hts.ne_nil hs.2

/-- Where another character comes next, no characters of a kind are taken. -/
theorem run_takeWhile_of_head {test : Char → Bool} {c : Char} (hc : test c = false) (l : Nat)
    (hhead : s.rest.head? = some (.plain c)) : (takeWhile test l).run s = .ok ([], s) := by
  cases l with
  | zero => rfl
  | succ l =>
    have hpeek : peek.run s = .ok (some (.plain c), s) := by
      rw [← hhead]
      rfl
    rw [takeWhile, StateT.run_bind, hpeek, Except.ok_bind]
    simp only [hc]
    rfl

/-- **Further characters of a kind** that neither a bracket nor a brace belongs to.  The limits are the
same, or there are no more units in front of the endings. -/
theorem takeWhile_follows (ht : Ending t) (ht' : Ending t') {test : Char → Bool}
    (hbracket : test ']' = false) (hbrace : test '\x7b' = false) {l l' : Nat}
    (hl : l = l' ∨ n ≤ l ∧ n ≤ l') :
    Follows (Before t t' p n) (takeWhile test l) (takeWhile test l') fun _ => Before t t' p n := by
  have hnil : ∀ {n l l'}, ¬ p → Follows (At t t' []) (takeWhile test l) (takeWhile test l')
      fun _ => Before t t' p n := by
    intro n l l' hp s s' hs a u hrun
    have hhead : s.rest.head? = some (.plain '\x7b') := by rw [hs.2.1]; exact ht.head
    have hhead' : s'.rest.head? = some (.plain '\x7b') := by rw [hs.2.2]; exact ht'.head
    rw [run_takeWhile_of_head hbrace l hhead] at hrun
    cases hrun
    refine ⟨s', run_takeWhile_of_head hbrace l' hhead', ?_⟩
    exact before_of_at .nil (Nat.zero_le n) (fun h => absurd h hp) hs
  induction l generalizing n l' with
  | zero =>
    refine follows_before hnil fun x ts hts hlength => ?_
    obtain rfl : 0 = l' := hl.resolve_right (by omega)
    exact .pure fun s s' hs => before_of_at_cons hts hlength hs
  | succ l ih =>
    refine follows_before hnil fun x ts hts hlength => ?_
    obtain ⟨l', rfl⟩ : ∃ k, l' = k + 1 := ⟨l' - 1, by omega⟩
    have hstay : Follows (At t t' (x :: ts)) (pure ([] : List Char)) (pure []) fun _ => Before t t' p n :=
      .pure fun s s' hs => before_of_at_cons hts hlength hs
    refine .bind peek_at_cons fun y => .of_and fun hy => ?_
    subst hy
    cases x with
    | plain c =>
      refine .ite (fun hc => ?_) fun _ => hstay
      have hne : ts ≠ [] := hts.ne_nil (decide_eq_false fun h => by rw [h, hbracket] at hc; cases hc)
      refine .bind (advance_follows ht ht') fun _ => ?_
      refine .bind (ih (n := n - 1) (by omega) |>.mono_left fun s s' hs => ?_) fun _ => ?_
      · exact before_of_at hts.tail (by omega) (fun _ => hne) hs
      · exact .pure fun s s' hs => hs.mono id (Nat.sub_le n 1)
    | escaped c => exact hstay
    | dangling => exact hstay

/-! ## Going up to a closing sign -/

/-- What is taken up to a closing sign holds what was taken before, and the first sign if it is not the
closing one.  The closing sign is there. -/
theorem of_run_takeUntil {close : Char} {f : Nat} {taken name : List Char} {u : ParseState}
    (h : (takeUntil close f taken).run s = .ok (name, u)) :
    .plain close ∈ s.rest ∧ taken ⊆ name ∧
      ∀ c, s.rest.head? = some (.plain c) → c ≠ close → c ∈ name := by
  induction f generalizing s taken with
  | zero => cases h
  | succ f ih =>
    rw [takeUntil, StateT.run_bind] at h
    obtain ⟨⟨y, v⟩, hnext, h⟩ := Except.bind_eq_ok_iff.mp h
    obtain ⟨rfl, hv⟩ := rest_of_run_next hnext
    cases hrest : s.rest with
    | nil =>
      rw [hrest] at h
      cases h
    | cons x ts =>
      rw [hrest, List.tail_cons] at hv
      rw [hrest, List.head?_cons] at h
      dsimp only at h
      by_cases hx : x = .plain close
      · subst hx
        rw [if_pos rfl] at h
        split at h
        · cases h
        · cases h
          refine ⟨List.mem_cons_self, fun _ => id, fun c hc hne => ?_⟩
          exact absurd (Token.plain.inj (Option.some.inj hc)).symm hne
      · rw [if_neg hx] at h
        obtain ⟨hmem, htaken, -⟩ := ih h
        rw [hv] at hmem
        refine ⟨List.mem_cons_of_mem x hmem, fun c hc => htaken (List.mem_append_left _ hc), ?_⟩
        intro c hc _
        obtain rfl : x = .plain c := Option.some.inj hc
        exact htaken (List.mem_append_right _ (List.mem_singleton_self c))

/-- **Going up to a closing sign** and on.  What goes on beyond the first ending must not succeed. -/
theorem takeUntil_follows (ht : Ending t) (ht' : Ending t') {close : Char} (hclose : close ≠ ']')
    {k k' : List Char → SourceReader α}
    (hover : ∀ f taken s, s.rest = t → ∀ r, (takeUntil close f taken >>= k).run s ≠ .ok r)
    (hk : ∀ name, Follows (Before t t' True n) (k name) (k' name) Q) {f g m : Nat} (hm : m ≤ n)
    (hf : m < g) (taken : List Char) :
    Follows (Before t t' p m) (takeUntil close f taken >>= k) (takeUntil close g taken >>= k') Q := by
  induction f generalizing taken p m g with
  | zero => exact .invalid_bind
  | succ f ih =>
    obtain ⟨g, rfl⟩ : ∃ k, g = k + 1 := ⟨g - 1, by omega⟩
    refine follows_before (fun _ s s' hs a u hrun => ?_) fun x ts hts hlength => ?_
    · exact absurd hrun (hover _ taken s hs.2.1 (a, u))
    · simp only [takeUntil, bind_assoc]
      refine .bind (next_at_cons ht ht') fun y => .of_and fun hy => ?_
      subst hy
      dsimp only
      by_cases hx : x = .plain close
      · have hne : ts ≠ [] := hts.ne_nil (by rw [hx]; exact decide_eq_false hclose)
        rw [if_pos hx, if_pos hx]
        cases taken with
        | nil => exact .invalid_bind
        | cons c taken =>
          refine (hk (c :: taken)).mono_left fun s s' hs => ?_
          exact before_of_at hts.tail (by omega) (fun _ => hne) hs
      · rw [if_neg hx, if_neg hx]
        have hlater := ih (p := False) (m := ts.length) (g := g) (by omega) (by omega) (taken ++ x.chars)
        exact hlater.mono_left fun s s' hs => before_of_at hts.tail (Nat.le_refl _) False.elim hs

/-- A name in front of a closing sign that no ending has. -/
theorem nameUntil_follows (ht : Ending t) (ht' : Ending t') {close : Char} (hclose : close ≠ ']')
    (hnone : .plain close ∉ t) :
    Follows (Before t t' p n) (nameUntil close) (nameUntil close) fun _ => Before t t' True n := by
  refine .get fun s s' hs => ?_
  obtain ⟨m, hm, -, hrest, hs⟩ := hs.exists_le
  have hover : ∀ f taken s, s.rest = t → ∀ r : List Char × ParseState,
      (takeUntil close f taken >>= pure).run s ≠ .ok r := by
    intro f taken u hu r hrun
    rw [bind_pure] at hrun
    exact hnone (hu ▸ (of_run_takeUntil hrun).1)
  have hpure : ∀ name : List Char, Follows (Before t t' True n) (pure name) (pure name)
      fun _ => Before t t' True n := fun _ => .pure fun _ _ => id
  have hfollows := takeUntil_follows (p := p) ht ht' hclose hover hpure hm (Nat.lt_succ_of_le hrest) []
    (f := s.rest.length + 1)
  rw [bind_pure, bind_pure] at hfollows
  refine hfollows.mono_left ?_
  rintro u u' ⟨rfl, rfl⟩
  exact hs

theorem identifierUntil_follows (ht : Ending t) (ht' : Ending t') {close : Char} (hclose : close ≠ ']')
    (hnone : .plain close ∉ t) : Follows (Before t t' p n) (identifierUntil close)
      (identifierUntil close) fun _ => Before t t' True n :=
  .bind (nameUntil_follows ht ht' hclose hnone) fun _ =>
    .ite (fun _ => .pure fun _ _ => id) fun _ => .invalid

/-- A comment is not closed among units without a closing parenthesis. -/
theorem mem_of_run_skipComment {f : Nat} {r : Unit × ParseState} (h : (skipComment f).run s = .ok r) :
    .plain ')' ∈ s.rest := by
  induction f generalizing s with
  | zero => cases h
  | succ f ih =>
    rw [skipComment, StateT.run_bind] at h
    obtain ⟨⟨y, v⟩, hnext, h⟩ := Except.bind_eq_ok_iff.mp h
    obtain ⟨rfl, hv⟩ := rest_of_run_next hnext
    cases hrest : s.rest with
    | nil =>
      rw [hrest] at h
      cases h
    | cons x ts =>
      rw [hrest, List.tail_cons] at hv
      rw [hrest, List.head?_cons] at h
      dsimp only at h
      by_cases hx : x = .plain ')'
      · exact hx ▸ List.mem_cons_self
      · rw [if_neg hx] at h
        exact List.mem_cons_of_mem x (hv ▸ ih h)

/-- **A comment** is skipped in front of the endings. -/
theorem skipComment_follows (ht : Ending t) (ht' : Ending t') {f g : Nat} (hf : n < g) :
    Follows (Before t t' p n) (skipComment f) (skipComment g) fun _ => Before t t' True n := by
  induction f generalizing p n g with
  | zero => exact .invalid
  | succ f ih =>
    obtain ⟨g, rfl⟩ : ∃ k, g = k + 1 := ⟨g - 1, by omega⟩
    refine follows_before (fun _ s s' hs a u hrun => ?_) fun x ts hts hlength => ?_
    · have hmem := mem_of_run_skipComment hrun
      rw [hs.2.1, List.nil_append] at hmem
      exact absurd hmem (ht.notMem (.inl rfl))
    · refine .bind (next_at_cons ht ht') fun y => .of_and fun hy => ?_
      subst hy
      refine .ite (fun hx => ?_) fun _ => ?_
      · have hne : ts ≠ [] := hts.ne_nil (by rw [hx]; rfl)
        exact .pure fun s s' hs => before_of_at hts.tail (by omega) (fun _ => hne) hs
      · refine (ih (p := False) (n := ts.length) (by omega)).mono (fun s s' hs => ?_) fun _ s s' hs => ?_
        · exact before_of_at hts.tail (Nat.le_refl _) False.elim hs
        · exact hs.mono id (by omega)

/-- Units without a line end are skipped all of them. -/
theorem run_skipLine {f : Nat} (hf : s.rest.length < f)
    (hplain : ∀ x ∈ s.rest, ∃ c, x = .plain c ∧ c ≠ '\n') :
    (skipLine f).run s = .ok ((), { s with rest := [] }) := by
  induction f generalizing s with
  | zero => cases hf
  | succ f ih =>
    cases hrest : s.rest with
    | nil =>
      have hs : { s with rest := [] } = s := by rw [← hrest]
      rw [skipLine, StateT.run_bind, hs]
      have hnext : next.run s = .ok (none, s) := by
        rw [next, StateT.run_bind, run_peek, hrest]
        rfl
      rw [hnext]
      rfl
    | cons x ts =>
      rw [hrest] at hf hplain
      obtain ⟨hx, hts⟩ := List.forall_mem_cons.mp hplain
      have hhead : ts.head? ≠ some .dangling := by
        intro hhead
        obtain ⟨c, heq, -⟩ := hts _ (List.mem_of_mem_head? hhead)
        cases heq
      obtain ⟨c, rfl, hc⟩ := hx
      have hlater := ih (s := { s with rest := ts }) (Nat.lt_of_succ_lt_succ hf) hts
      rw [skipLine, StateT.run_bind, run_next hrest hhead, Except.ok_bind]
      dsimp only
      rw [if_neg fun h => hc (Token.plain.inj h), hlater]

theorem skipLine_at (ht : Ending t) (ht' : Ending t') {ts : List Token} (hts : Bracketed ts) {f g : Nat}
    (hf : ts.length + t.length < f) (hf' : ts.length + t'.length < g) :
    Follows (At t t' ts) (skipLine f) (skipLine g)
      fun _ s s' => Before t t' True ts.length s s' ∨ Over s s' := by
  induction ts generalizing f g with
  | nil =>
    have hplain : ∀ {t : List Token}, Ending t → ∀ x ∈ t, ∃ c, x = .plain c ∧ c ≠ '\n' := by
      intro t ht x hx
      obtain ⟨c, hc, -, -, -, hne⟩ := ht.plain x hx
      exact ⟨c, hc, hne⟩
    rintro s - ⟨hflags, hrest, rfl⟩ a u hrun
    rw [List.nil_append] at hrest
    rw [run_skipLine (by rw [hrest]; simpa using hf) (by rw [hrest]; exact hplain ht)] at hrun
    cases hrun
    refine ⟨_, run_skipLine (by simpa using hf') (by simpa using hplain ht'), .inr ?_⟩
    exact ⟨hflags, rfl, rfl⟩
  | cons x ts ih =>
    obtain ⟨f, rfl⟩ : ∃ k, f = k + 1 := ⟨f - 1, by omega⟩
    obtain ⟨g, rfl⟩ : ∃ k, g = k + 1 := ⟨g - 1, by omega⟩
    rw [List.length_cons] at hf hf'
    refine .bind (next_at_cons ht ht') fun y => .of_and fun hy => ?_
    subst hy
    refine .ite (fun hx => ?_) fun _ => ?_
    · have hne : ts ≠ [] := hts.ne_nil (by rw [hx]; rfl)
      exact .pure fun s s' hs => .inl (before_of_at hts.tail (Nat.le_succ _) (fun _ => hne) hs)
    · refine (ih hts.tail (by omega) (by omega)).mono_right fun _ s s' hs => ?_
      exact hs.imp_left fun hs => hs.mono id (Nat.le_succ _)

/-- **The rest of a line** is skipped in front of the endings, or to the end of both sources. -/
theorem skipLine_follows (ht : Ending t) (ht' : Ending t') (h : Before t t' p n s s') :
    Follows (fun u u' => u = s ∧ u' = s') (skipLine (s.rest.length + 1))
      (skipLine (s'.rest.length + 1)) fun _ s s' => Before t t' True n s s' ∨ Over s s' := by
  obtain ⟨ts, ⟨hts, hlength, -⟩, hat⟩ := h
  have hrest : s.rest.length = ts.length + t.length := by rw [hat.2.1, List.length_append]
  have hrest' : s'.rest.length = ts.length + t'.length := by rw [hat.2.2, List.length_append]
  have hskip := skipLine_at ht ht' hts (Nat.lt_succ_of_le (Nat.le_of_eq hrest.symm))
    (Nat.lt_succ_of_le (Nat.le_of_eq hrest'.symm))
  refine hskip.mono ?_ fun _ s s' hs => hs.imp_left fun hs => hs.mono id hlength
  rintro u u' ⟨rfl, rfl⟩
  exact hat

end Endings

end Conformance.Regex
