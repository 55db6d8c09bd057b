import Conformance.Regex.Parsing
import Conformance.Proofs.Except

/-!
# Readers side by side

Two readers follow one another if the second succeeds wherever the first does, from states that are
related, with the same result and in states that are related again.  Readers that are put together
alike follow one another if their parts do, so a claim about the whole grammar comes down to one lemma
for each reader.

## Main Definitions

* `Regex.SourceReader.Follows` — from related states, where the first reader succeeds, so does the
  second one

## Main statements

* `Regex.SourceReader.Follows.bind` — one reader after another
* `Regex.SourceReader.Follows.get` — readers that look at their own states
* `Regex.SourceReader.run_next`, `Regex.SourceReader.rest_of_run_next` — what a single reader does with
  a unit
-/

namespace Conformance.Regex.SourceReader

variable {α β : Type}

/-- A relation between the states of two readers. -/
abbrev StateRel := ParseState → ParseState → Prop

/-- **From related states, where the first reader succeeds, so does the second one**, with the same
result; the states behind are related in a way that may depend on the result. -/
def Follows (P : StateRel) (m m' : SourceReader α) (Q : α → StateRel) : Prop :=
  ∀ s s', P s s' → ∀ a u, m.run s = .ok (a, u) → ∃ u', m'.run s' = .ok (a, u') ∧ Q a u u'

namespace Follows

variable {P P' : StateRel} {m m' n n' : SourceReader α} {Q Q' : α → StateRel} {φ : Prop}

theorem pure {a : α} (h : ∀ s s', P s s' → Q a s s') :
    Follows P (Pure.pure a) (Pure.pure a) Q := by
  intro s s' hs b u hrun
  cases hrun
  exact ⟨s', rfl, h s s' hs⟩

/-- What the first reader refuses need not be followed. -/
theorem throw {r : Refusal} : Follows P (MonadExcept.throw r) m' Q := by
  intro s s' _ a u hrun
  cases hrun

theorem throw_bind {r : Refusal} {f : β → SourceReader α} :
    Follows P (MonadExcept.throw r >>= f) m' Q := by
  intro s s' _ a u hrun
  cases hrun

theorem invalid : Follows P SourceReader.invalid m' Q := throw

theorem invalid_bind {f : β → SourceReader α} : Follows P (SourceReader.invalid >>= f) m' Q :=
  throw_bind

/-- **One reader after another.** -/
theorem bind {R : α → StateRel} {Q : β → StateRel} {f f' : α → SourceReader β}
    (h : Follows P m m' R) (hf : ∀ a, Follows (R a) (f a) (f' a) Q) :
    Follows P (m >>= f) (m' >>= f') Q := by
  intro s s' hs b u hrun
  rw [StateT.run_bind] at hrun
  obtain ⟨⟨a, t⟩, hm, hfa⟩ := Except.bind_eq_ok_iff.mp hrun
  obtain ⟨t', hm', ht⟩ := h s s' hs a t hm
  obtain ⟨u', hfa', hu⟩ := hf a t t' ht b u hfa
  refine ⟨u', ?_, hu⟩
  rw [StateT.run_bind, hm']
  exact hfa'

theorem mono (h : Follows P m m' Q) (hP : ∀ s s', P' s s' → P s s')
    (hQ : ∀ a s s', Q a s s' → Q' a s s') : Follows P' m m' Q' := by
  intro s s' hs a u hrun
  obtain ⟨u', hrun', hu⟩ := h s s' (hP s s' hs) a u hrun
  exact ⟨u', hrun', hQ a u u' hu⟩

theorem mono_left (h : Follows P m m' Q) (hP : ∀ s s', P' s s' → P s s') : Follows P' m m' Q :=
  h.mono hP fun _ _ _ => id

theorem mono_right (h : Follows P m m' Q) (hQ : ∀ a s s', Q a s s' → Q' a s s') :
    Follows P m m' Q' :=
  h.mono (fun _ _ => id) hQ

/-- What is known of the states without looking at them. -/
theorem of_and (h : φ → Follows P m m' Q) : Follows (fun s s' => φ ∧ P s s') m m' Q :=
  fun s s' hs => h hs.1 s s' hs.2

theorem of_exists {ι : Sort*} {R : ι → StateRel} (h : ∀ i, Follows (R i) m m' Q) :
    Follows (fun s s' => ∃ i, R i s s') m m' Q := by
  rintro s s' ⟨i, hs⟩
  exact h i s s' hs

theorem of_or (h : Follows P m m' Q) (h' : Follows P' m m' Q) :
    Follows (fun s s' => P s s' ∨ P' s s') m m' Q :=
  fun s s' hs => hs.elim (h s s') (h' s s')

theorem ite {c : Prop} [Decidable c] (h : c → Follows P m m' Q) (h' : ¬ c → Follows P n n' Q) :
    Follows P (if c then m else n) (if c then m' else n') Q := by
  split
  · next hc => exact h hc
  · next hc => exact h' hc

/-- One reader or another one, and then the same. -/
theorem ite_bind {c : Prop} [Decidable c] {R : α → StateRel} {Q : β → StateRel}
    {f f' : α → SourceReader β} (h : c → Follows P m m' R) (h' : ¬ c → Follows P n n' R)
    (hf : ∀ a, Follows (R a) (f a) (f' a) Q) :
    Follows P (if c then m >>= f else n >>= f) (if c then m' >>= f' else n' >>= f') Q :=
  ite (fun hc => bind (h hc) hf) fun hc => bind (h' hc) hf

/-- A reader that comes before the others on a condition. -/
theorem when {c : Prop} [Decidable c] {Q : α → StateRel} {w w' : SourceReader Unit}
    {f f' : Unit → SourceReader α} (h : c → Follows P w w' fun _ => P)
    (hf : Follows P (f ()) (f' ()) Q) :
    Follows P (if c then w >>= f else f ()) (if c then w' >>= f' else f' ()) Q :=
  ite (fun hc => bind (h hc) fun _ => hf) fun _ => hf

/-- Readers that look at their own states. -/
theorem get {f f' : ParseState → SourceReader α}
    (h : ∀ s s', P s s' → Follows (fun u u' => u = s ∧ u' = s') (f s) (f' s') Q) :
    Follows P (MonadState.get >>= f) (MonadState.get >>= f') Q :=
  fun s s' hs => h s s' hs s s' ⟨rfl, rfl⟩

/-- Readers that set their states. -/
theorem set (s s' : ParseState) :
    Follows P (MonadState.set s) (MonadState.set s') fun _ u u' => u = s ∧ u' = s' := by
  intro t t' _ a u hrun
  cases hrun
  exact ⟨s', rfl, rfl, rfl⟩

end Follows

/-- Readers that change their states. -/
theorem modify_follows {P Q : StateRel} {g g' : ParseState → ParseState}
    (h : ∀ s s', P s s' → Q (g s) (g' s')) : Follows P (modify g) (modify g') fun _ => Q := by
  intro s s' hs a u hrun
  cases hrun
  exact ⟨g' s', rfl, h s s' hs⟩

/-- Readers look at the same unit. -/
theorem peek_follows {P : StateRel} {x : Option Token}
    (h : ∀ s s', P s s' → s.rest.head? = x ∧ s'.rest.head? = x) :
    Follows P peek peek fun y s s' => y = x ∧ P s s' := by
  intro s s' hs y u hrun
  obtain ⟨hx, hx'⟩ := h s s' hs
  cases hrun
  refine ⟨s', ?_, hx, hs⟩
  rw [hx, ← hx']
  rfl

/-! ## Single units -/

theorem run_peek (s : ParseState) : peek.run s = .ok (s.rest.head?, s) := rfl

/-- A unit is consumed where no lone backslash comes after it. -/
theorem run_advance {s : ParseState} (h : s.rest.tail.head? ≠ some .dangling) :
    advance.run s = .ok ((), { s with rest := s.rest.tail }) := by
  unfold advance
  simp only [StateT.run_bind, StateT.run_get, pure_bind, if_neg h]
  rfl

/-- The next unit is the first one, where no lone backslash comes after it. -/
theorem run_next {s : ParseState} {x : Token} {ts : List Token} (hrest : s.rest = x :: ts)
    (h : ts.head? ≠ some .dangling) : next.run s = .ok (some x, { s with rest := ts }) := by
  have hadvance := run_advance (s := s) (by rw [hrest]; exact h)
  rw [next, StateT.run_bind, run_peek, hrest, List.head?_cons, Except.ok_bind, Option.isSome_some,
    if_pos rfl, StateT.run_bind, hadvance, hrest]
  rfl

theorem rest_of_run_advance {s u : ParseState} (h : advance.run s = .ok ((), u)) :
    u.rest = s.rest.tail := by
  unfold advance at h
  rw [StateT.run_bind, StateT.run_get] at h
  dsimp only [Pure.pure, Except.pure, Except.ok_bind] at h
  split at h
  · cases h
  · cases h
    rfl

/-- The next unit is the one that comes first. -/
theorem rest_of_run_next {s u : ParseState} {y : Option Token} (h : next.run s = .ok (y, u)) :
    y = s.rest.head? ∧ u.rest = s.rest.tail := by
  unfold next at h
  rw [StateT.run_bind] at h
  obtain ⟨⟨x, v⟩, hpeek, h⟩ := Except.bind_eq_ok_iff.mp h
  cases hpeek
  cases hrest : s.rest with
  | nil =>
    rw [hrest] at h
    cases h
    exact ⟨rfl, hrest⟩
  | cons x ts =>
    rw [hrest, List.head?_cons, Option.isSome_some, if_pos rfl, StateT.run_bind] at h
    obtain ⟨⟨⟨⟩, v⟩, hadvance, h⟩ := Except.bind_eq_ok_iff.mp h
    cases h
    exact ⟨rfl, (rest_of_run_advance hadvance).trans (by rw [hrest])⟩

/-- Whether a character is consumed or not, the units behind are among those before. -/
theorem rest_subset_of_run_accept {s u : ParseState} {c : Char} {b : Bool}
    (h : (accept c).run s = .ok (b, u)) : u.rest ⊆ s.rest := by
  rw [accept, StateT.run_bind, run_peek, Except.ok_bind] at h
  dsimp only at h
  split at h
  · rw [StateT.run_bind] at h
    obtain ⟨⟨⟨⟩, v⟩, hadvance, h⟩ := Except.bind_eq_ok_iff.mp h
    cases h
    rw [rest_of_run_advance hadvance]
    exact fun _ => List.mem_of_mem_tail
  · cases h
    exact fun _ => id

end Conformance.Regex.SourceReader
