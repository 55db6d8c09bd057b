import Conformance.Proofs.Session.Keys
import Conformance.Proofs.Session.Reading
import Conformance.Proofs.Session.Runs
import Conformance.Proofs.Validator.KeyOrder

/-!
# Object patterns and the order of keys

What a mapping of patterns is compiled to accepts the mappings that satisfy its keys.  The rule knows no
order, and neither does the verdict.  For patterns that speak of themselves this needs an argument: the
schema of a pattern and that of the pattern with its keys in another order lead to different roots, so
their readings are compared as a whole.

## Main Definitions

* `Pattern.Reordered` — the same pattern with the keys in it in another order

## Main statements

* `Readable.holds_of_reordered` — one step of the reading of a pattern, the keys in another order
* `Pattern.accepts_iff_of_reordered` — the whole reading
* `Schema.validate_mapping` — the verdict of an object pattern
-/

namespace Conformance

namespace Pattern

/-- **The same pattern with its keys in another order**, also those of the object patterns in it.
Mappings have distinct keys.  Literals and fragments stay as they are. -/
inductive Reordered : Bool → Pattern → Pattern → Prop where
  | same {inOr : Bool} (p : Pattern) : Reordered inOr p p
  | seq {inOr : Bool} {form : SeqForm} {tag tag' : Nat} {es : List (Pattern × Pattern)} :
    ¬ (inOr = true ∧ es.length = 1) → (∀ e ∈ es, Reordered true e.1 e.2) →
    Reordered inOr (seq form tag (es.map Prod.fst)) (seq form tag' (es.map Prod.snd))
  | mapping {inOr : Bool} {form form' : MapForm} {tag tag' : Nat}
    {entries entries' : List (Value × Pattern)} {es : List (Value × Pattern × Pattern)} :
    (es.map Prod.fst).Nodup → entries.Perm (es.map fun e => (e.1, e.2.1)) →
    entries'.Perm (es.map fun e => (e.1, e.2.2)) → (∀ e ∈ es, Reordered false e.2.1 e.2.2) →
    Reordered inOr (mapping form tag entries) (mapping form' tag' entries')

/-- A mapping with the same entries in another order. -/
theorem Reordered.of_perm {inOr : Bool} {form form' : MapForm} {tag tag' : Nat}
    {entries entries' : List (Value × Pattern)} (hnodup : (entries.map Prod.fst).Nodup)
    (hperm : entries.Perm entries') :
    Reordered inOr (.mapping form tag entries) (.mapping form' tag' entries') := by
  refine @Reordered.mapping inOr form form' tag tag' entries entries'
    (entries.map fun e => (e.1, e.2, e.2)) ?_ (.of_eq ?_) (hperm.symm.trans (.of_eq ?_)) fun e he => ?_
  · rwa [List.map_map]
  · rw [List.map_map]
    exact (List.map_id entries).symm
  · rw [List.map_map]
    exact (List.map_id entries).symm
  · obtain ⟨e', -, rfl⟩ := List.mem_map.mp he
    exact .same e'.2

/-- The first pattern is the second one with its keys in another order. -/
theorem Reordered.symm {inOr : Bool} {p q : Pattern} (h : p.Reordered inOr q) : q.Reordered inOr p := by
  induction h with
  | same p => exact .same p
  | @seq inOr form tag tag' es hliteral _ ih =>
    have hswapped := @Reordered.seq inOr form tag' tag (es.map Prod.swap) (by rwa [List.length_map])
      (List.forall_mem_map.mpr ih)
    rwa [List.map_map, List.map_map] at hswapped
  | @mapping inOr form form' tag tag' entries entries' es hnodup hleft hright _ ih =>
    refine @Reordered.mapping inOr form' form tag' tag entries' entries
      (es.map fun e => (e.1, e.2.swap)) ?_ ?_ ?_ (List.forall_mem_map.mpr ih)
    · rwa [List.map_map]
    · rwa [List.map_map]
    · rwa [List.map_map]

/-- A mapping that is read as an object pattern has one catch-all key at most. -/
theorem oneCatchAll_property? {entries : List (Value × Pattern)}
    (hnodup : (entries.map Prod.fst).Nodup) : OneCatchAll (entries.filterMap property?) := by
  -- both entries are written with the sign of the catch-all key, so they are the same
  have hwritten : ∀ p : Property Readable, ∀ e ∈ entries, property? e = some p →
      p.key.isCatchAll = true → e.1 = .text "*" := by
    rintro p ⟨written, rule⟩ - hread hkind
    cases written with
    | text s =>
      cases hkey : Key.ofWritten s with
      | error e => simp [property?, hkey, Except.toOption] at hread
      | ok key =>
        obtain rfl : ⟨key, none, .pattern false rule⟩ = p := by
          simpa [property?, hkey, Except.toOption] using hread
        rw [Key.written_of_isCatchAll hkey hkind]
    | _ => cases hread
  intro p hp q hq hkind hkind'
  obtain ⟨e, he, hread⟩ := List.mem_filterMap.mp hp
  obtain ⟨e', he', hread'⟩ := List.mem_filterMap.mp hq
  have heq : e = e' := List.inj_on_of_nodup_map hnodup he he'
    ((hwritten p e he hread hkind).trans (hwritten q e' he' hread' hkind').symm)
  subst heq
  exact Option.some.inj (hread.symm.trans hread')

end Pattern

/-! ## Readings -/

namespace Readable

/-- **Two readings are of the same, but for the order of keys.** -/
inductive Reordered : Readable → Readable → Prop where
  | pattern {inOr : Bool} {p q : Pattern} : p.Reordered inOr q →
    Reordered (.pattern inOr p) (.pattern inOr q)
  | validator (isOpen : Bool) (v : Validator) :
    Reordered (.validator isOpen v) (.validator isOpen v)

theorem Reordered.refl : ∀ r : Readable, r.Reordered r
  | .pattern _ p => .pattern (.same p)
  | .validator isOpen v => .validator isOpen v

variable {env : Env}

/-- **What a form says does not depend on the whole pattern**, unless it says the same as the whole
pattern. -/
theorem meaning_root (env : Env) (r : Readable) :
    (∃ m, ∀ root, r.meaning env root = m) ∨
      ∀ root, r.meaning env root = .same (.pattern false root) := by
  cases r with
  | validator isOpen v =>
    cases v with
    | selfRef own =>
      cases own with
      | none =>
        cases isOpen with
        | true => exact .inr fun _ => rfl
        | false => exact .inl ⟨_, fun _ => rfl⟩
      | some session => exact .inl ⟨_, fun _ => rfl⟩
    | _ => exact .inl ⟨_, fun _ => rfl⟩
  | pattern inOr p =>
    cases p with
    | value x =>
      cases x with
      | selfMarker => exact .inr fun _ => rfl
      | ellipsis =>
        cases inOr with
        | true => exact .inr fun _ => rfl
        | false => exact .inl ⟨_, fun _ => rfl⟩
      | cls c => cases c <;> exact .inl ⟨_, fun _ => rfl⟩
      | _ => exact .inl ⟨_, fun _ => rfl⟩
    | _ => exact .inl ⟨_, fun _ => rfl⟩

/-- What is reordered under the keys of a mapping is read as reordered. -/
theorem forall₂_property? {es : List (Value × Pattern × Pattern)}
    (h : ∀ e ∈ es, Pattern.Reordered false e.2.1 e.2.2) :
    List.Forall₂ (fun p q => p.key = q.key ∧ p.rule.Reordered q.rule)
      ((es.map fun e => (e.1, e.2.1)).filterMap Pattern.property?)
      ((es.map fun e => (e.1, e.2.2)).filterMap Pattern.property?) := by
  refine List.rel_filterMap (R := fun e e' => e.1 = e'.1 ∧ e.2.Reordered false e'.2) ?_ ?_
  · rintro ⟨written, p⟩ ⟨_, q⟩ ⟨rfl, hreordered⟩
    cases written with
    | text s =>
      rw [Pattern.property?, Pattern.property?]
      cases (Key.ofWritten s).toOption with
      | none => exact .none
      | some key => exact .some ⟨rfl, .pattern hreordered⟩
    | _ => exact .none
  · exact List.forall₂_map_left_iff.mpr (List.forall₂_map_right_iff.mpr
      (List.forall₂_same.mpr fun e he => ⟨rfl, h e he⟩))

variable {P Q : Pattern} {accepts accepts' : Readable → Value → Prop}

/-- **One step of the reading**, with the keys in another order. -/
theorem holds_of_reordered (hroot : P.Reordered false Q)
    (haccepts : ∀ r r', r.Reordered r' → ∀ x, accepts r x → accepts' r' x) {r r' : Readable}
    (h : r.Reordered r') {x : Value} (hx : (r.meaning env P).Holds accepts x) :
    (r'.meaning env Q).Holds accepts' x := by
  -- what is the same on both sides still differs in the whole pattern
  have hsame : ∀ r : Readable, (r.meaning env P).Holds accepts x →
      (r.meaning env Q).Holds accepts' x := by
    intro r hr
    rcases r.meaning_root env with ⟨m, hm⟩ | hm
    · rw [hm] at hr ⊢
      exact hr.mono fun r x => haccepts r r (.refl r) x
    · rw [hm] at hr ⊢
      exact haccepts _ _ (.pattern hroot) x hr
  cases h with
  | validator isOpen v => exact hsame _ hx
  | pattern h =>
    cases h with
    | same p => exact hsame _ hx
    | @seq inOr form tag tag' es hliteral hes =>
      rw [meaning, Pattern.meaning_seq (by rwa [List.length_map])] at hx ⊢
      obtain ⟨r, hr, haccepted⟩ := hx
      rw [List.map_map] at hr
      obtain ⟨e, he, rfl⟩ := List.mem_map.mp hr
      refine ⟨.pattern true e.2, ?_, haccepts _ _ (.pattern (hes e he)) x haccepted⟩
      rw [List.map_map]
      exact List.mem_map_of_mem he
    | @mapping inOr form form' tag tag' entries entries' es hnodup hleft hright hes =>
      obtain ⟨form, tag, ms, rfl, hconforms⟩ := hx
      refine ⟨form, tag, ms, rfl, ?_⟩
      have hone : ∀ f : Pattern × Pattern → Pattern,
          OneCatchAll ((es.map fun e => (e.1, f e.2)).filterMap Pattern.property?) := fun f =>
        Pattern.oneCatchAll_property? (by rwa [List.map_map])
      have hmiddle : Conforms accepts
          ((es.map fun e => (e.1, e.2.1)).filterMap Pattern.property?) ms :=
        hconforms.perm ((hone Prod.fst).perm (hleft.symm.filterMap _)) (hleft.filterMap _)
      have hmiddle' : Conforms accepts'
          ((es.map fun e => (e.1, e.2.2)).filterMap Pattern.property?) ms :=
        hmiddle.congr (forall₂_property? hes) (fun p q hpq => hpq.1)
          fun p q hpq => haccepts _ _ hpq.2
      exact hmiddle'.perm (hone Prod.snd) (hright.symm.filterMap _)

/-- **The reading does not depend on the order of keys.** -/
theorem accepts_of_reordered (hroot : P.Reordered false Q) {r r' : Readable} (h : r.Reordered r')
    {x : Value} (hx : Accepts env P r x) : Accepts env Q r' x := by
  -- the reading is the least one that agrees with what the forms say
  let related : Readable → Value → Prop := fun r x => ∀ r', r.Reordered r' → Accepts env Q r' x
  have hclosed : reading env P related ≤ related := fun r x hr r' h' =>
    accepts_iff.mpr (holds_of_reordered hroot (fun _ _ h x hx => hx _ h) h' hr)
  exact OrderHom.lfp_le (reading env P) hclosed r x hx r' h

end Readable

/-- A pattern and the same with its keys in another order accept the same values. -/
theorem Pattern.accepts_iff_of_reordered {env : Env} {P Q : Pattern} (h : P.Reordered false Q)
    (x : Value) :
    Accepts env P (.pattern false P) x ↔ Accepts env Q (.pattern false Q) x :=
  ⟨Readable.accepts_of_reordered h (.pattern h), Readable.accepts_of_reordered h.symm (.pattern h.symm)⟩

/-! ## Schemas -/

namespace Schema

variable {host : Host} {s t : Store} {p : Pattern} {v : Handle}

/-- A schema of a mapping is an object pattern with one catch-all key at most. -/
theorem exists_of_compile_keys {form : MapForm} {tag : Nat} {entries : List (Value × Pattern)}
    (hkeys : (entries.map Prod.fst).Nodup)
    (h : (compile host (.mapping form tag entries) s).outcome = .ok v) :
    ∃ ps, v.validator = .object ps ∧ OneCatchAll ps ∧ List.Forall₂ (fun e p =>
      e.1 = .text p.key.written ∧ Key.ofWritten p.key.written = .ok p.key) entries ps := by
  obtain ⟨ps, hps, hread⟩ := exists_of_compile_mapping h
  have hwritten : entries.map Prod.fst = ps.map fun p => .text p.key.written := by
    have hall := List.forall₂_map_left_iff.mpr (List.forall₂_map_right_iff.mpr
      (hread.imp fun e p hep => hep.1))
    rwa [List.forall₂_eq_eq_eq] at hall
  rw [hwritten] at hkeys
  refine ⟨ps, hps, fun p hp q hq hkind hkind' => ?_, hread⟩
  refine List.inj_on_of_nodup_map hkeys hp hq ?_
  obtain ⟨-, -, -, hp⟩ := hread.exists_left hp
  obtain ⟨-, -, -, hq⟩ := hread.exists_left hq
  rw [Key.written_of_isCatchAll hp hkind, Key.written_of_isCatchAll hq hkind']

/-- Where no check raises, the verdict of a schema is the reading of its pattern. -/
theorem exists_verdict_of_calm (h : (compile host p s).outcome = .ok v)
    (hextends : (compile host p s).store.Extends t) {x : Value}
    (hcalm : ((t.env host).validate v.validator x).IsCalm) :
    ∃ b, ((t.env host).validate v.validator x).outcome = .ok b ∧
      (b = true ↔ Accepts (t.env host) p (.pattern false p) x) := by
  obtain ⟨b, hb, -⟩ := Walk.outcome_guarded (Env.crashed v.validator)
    ((t.env host).check depthLimit v.validator x Path.root)
  exact ⟨b, hb, ((check_answers_reading h hextends depthLimit x Path.root).guarded
    fun _ => rfl).sound b ⟨hb, hcalm⟩⟩

end Schema

end Conformance
