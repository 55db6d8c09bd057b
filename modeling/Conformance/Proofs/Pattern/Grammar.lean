import Conformance.Proofs.Key.Grammar
import Conformance.Proofs.Pattern.Structure
import Conformance.Proofs.Validator.LiveChains

/-!
# The grammar of patterns

A pattern is well formed or it is not, and what is wrong with it can be listed from left to right.  The
grammar is told here without a word on compiling, and compiling is then shown to go by it: it gives a
validator where nothing is wrong, and else the first thing on the list.

## Main Definitions

* `Pattern.StandsAlone` — the values that are patterns by themselves
* `Pattern.IsLiteral` — a sequence that is a literal at its place, and is not looked into
* `Pattern.WellFormed` — the well-formed patterns, directly inside alternatives or elsewhere
* `Pattern.violations` — everything that is wrong with a pattern, from left to right
* `Pattern.Names` — the sources of names in the keys that are looked at
* `Pattern.ChainsLive` — so many live delegates lead on to one another, from the pattern

## Main statements

* `Pattern.violations_eq_nil_iff` — a pattern is well formed exactly if nothing is wrong with it
* `Pattern.reports_compile` — compiling reports the first violation
* `Pattern.chainsLive_of_compile_iff` — the chains of a pattern are those of its validator
-/

namespace Conformance.Pattern

/-! ## Well-formed patterns -/

/-- **The values that are patterns by themselves**: classes, regexes, primitives and the markers, and the
objects of the host that have a validator as their `schema`, or a function if they can be called. -/
inductive StandsAlone (slot : Nat → Slot) : Value → Prop where
  | cls (c : Class) : StandsAlone slot (.cls c)
  | regex (r : Regex) : StandsAlone slot (.regex r)
  | bool (b : Bool) : StandsAlone slot (.bool b)
  | number (n : Num) : StandsAlone slot (.number n)
  | text (s : String) : StandsAlone slot (.text s)
  | null : StandsAlone slot .null
  | ellipsis : StandsAlone slot .ellipsis
  | selfMarker : StandsAlone slot .selfMarker
  | validator {h : HostObject} {v : Handle} : slot h.id = .validator v → StandsAlone slot (.host h)
  | function {h : HostObject} {verdict : Value → Except Fault Bool} :
    slot h.id = .function verdict → h.callable = true → StandsAlone slot (.host h)

/-- Directly inside a list of alternatives a sequence of one item is a literal. -/
def IsLiteral (inOr : Bool) (items : List Pattern) : Prop := inOr = true ∧ items.length = 1

instance (inOr : Bool) (items : List Pattern) : Decidable (IsLiteral inOr items) :=
  inferInstanceAs (Decidable (_ ∧ _))

/-- A key is a text of the grammar whose name is a regex, if it has one. -/
def IsKey (v : Value) : Prop :=
  ∃ written source, v = .text written ∧ Key.Grammar written source ∧
    ∀ name ∈ source, ∃ r, Regex.ofSource name .none = .ok r

/-- **The well-formed patterns.**  A literal is well formed whatever stands in it. -/
inductive WellFormed (slot : Nat → Slot) : Bool → Pattern → Prop where
  | validator {inOr : Bool} (h : Handle) : WellFormed slot inOr (.validator h)
  | value {inOr : Bool} {v : Value} : StandsAlone slot v → WellFormed slot inOr (.value v)
  | literal {inOr : Bool} {form : SeqForm} {tag : Nat} {items : List Pattern} : IsLiteral inOr items →
    WellFormed slot inOr (.seq form tag items)
  | seq {inOr : Bool} {form : SeqForm} {tag : Nat} {items : List Pattern} :
    (∀ p ∈ items, WellFormed slot true p) → WellFormed slot inOr (.seq form tag items)
  | mapping {inOr : Bool} {form : MapForm} {tag : Nat} {entries : List (Value × Pattern)} :
    (∀ e ∈ entries, IsKey e.1) → (∀ e ∈ entries, WellFormed slot false e.2) →
    WellFormed slot inOr (.mapping form tag entries)

/-! ## What is wrong with a pattern -/

/-- What is wrong with a value without parts: it is no pattern. -/
def valueViolations (slot : Nat → Slot) : Value → List CompileError
  | .cls _ | .regex _ | .bool _ | .number _ | .text _ | .null | .ellipsis | .selfMarker => []
  | .host h =>
    match slot h.id with
    | .validator _ => []
    | .function _ => if h.callable then [] else [.unrecognized (.host h)]
    | _ => [.unrecognized (.host h)]
  | v => [.unrecognized v]

/-- What is wrong with the form of a key: it is no text, or lacks a name. -/
def formViolations : Value → List CompileError
  | .text written => if Key.lacksName written then [.keyWithoutName written] else []
  | v => [.keyNotText v]

/-- What is wrong with the name in a key: it is no regex. -/
def nameViolations : Value → List CompileError
  | .text written =>
    match (Key.sourceIn written).map (Regex.ofSource · .none) with
    | some (.error .invalid) => [.keyInvalidRegex written]
    | _ => []
  | _ => []

mutual

/-- **Everything that is wrong with a pattern**, depth first and from left to right.  Of an entry the form
of the key comes first, then what stands under it, and then the name in the key. -/
def violations (slot : Nat → Slot) : Bool → Pattern → List CompileError
  | _, .validator _ => []
  | _, .value v => valueViolations slot v
  | inOr, .seq _ _ items => if IsLiteral inOr items then [] else itemViolations slot items
  | _, .mapping _ _ entries => entryViolations slot entries

/-- Everything that is wrong with alternatives. -/
def itemViolations (slot : Nat → Slot) : List Pattern → List CompileError
  | [] => []
  | p :: ps => violations slot true p ++ itemViolations slot ps

/-- Everything that is wrong with the entries of a mapping. -/
def entryViolations (slot : Nat → Slot) : List (Value × Pattern) → List CompileError
  | [] => []
  | (written, p) :: rest =>
    formViolations written ++ violations slot false p ++ nameViolations written ++
      entryViolations slot rest

end

variable {slot : Nat → Slot} {inOr : Bool}

theorem itemViolations_eq_nil_iff {ps : List Pattern} :
    itemViolations slot ps = [] ↔ ∀ p ∈ ps, violations slot true p = [] := by
  induction ps with
  | nil => exact iff_of_true rfl (by simp)
  | cons p ps ih => rw [itemViolations, List.append_eq_nil_iff, ih, List.forall_mem_cons]

theorem entryViolations_eq_nil_iff {entries : List (Value × Pattern)} :
    entryViolations slot entries = [] ↔ ∀ e ∈ entries,
      formViolations e.1 = [] ∧ violations slot false e.2 = [] ∧ nameViolations e.1 = [] := by
  induction entries with
  | nil => exact iff_of_true rfl (by simp)
  | cons e entries ih =>
    simp only [entryViolations, List.append_eq_nil_iff, ih, List.forall_mem_cons, and_assoc]

/-- The values that nothing is wrong with are those that stand alone. -/
theorem valueViolations_eq_nil_iff {v : Value} : valueViolations slot v = [] ↔ StandsAlone slot v := by
  constructor
  · intro h
    cases v with
    | host object =>
      cases hslot : slot object.id with
      | validator handle => exact .validator hslot
      | function verdict =>
        by_cases hcallable : object.callable = true
        · exact .function hslot hcallable
        · simp [valueViolations, hslot, hcallable] at h
      | _ => simp [valueViolations, hslot] at h
    | cls c => exact .cls c
    | regex r => exact .regex r
    | bool b => exact .bool b
    | number n => exact .number n
    | text s => exact .text s
    | null => exact .null
    | ellipsis => exact .ellipsis
    | selfMarker => exact .selfMarker
    | _ => cases h
  · intro h
    cases h with
    | validator hslot => simp [valueViolations, hslot]
    | function hslot hcallable => simp [valueViolations, hslot, hcallable]
    | _ => rfl

/-! ## Names in keys -/

/-- **The source of a name** in one of the keys that are looked at: those of mappings outside of
literals. -/
inductive Names : Bool → Pattern → String → Prop where
  | key {inOr : Bool} {form : MapForm} {tag : Nat} {entries : List (Value × Pattern)} {written name : String}
    {p : Pattern} : (.text written, p) ∈ entries → Key.sourceIn written = some name →
    Names inOr (.mapping form tag entries) name
  | entry {inOr : Bool} {form : MapForm} {tag : Nat} {entries : List (Value × Pattern)}
    {e : Value × Pattern} {name : String} : e ∈ entries → Names false e.2 name →
    Names inOr (.mapping form tag entries) name
  | item {inOr : Bool} {form : SeqForm} {tag : Nat} {items : List Pattern} {p : Pattern} {name : String} :
    ¬ IsLiteral inOr items → p ∈ items → Names true p name → Names inOr (.seq form tag items) name

/-- **Each name in a key is a regex or an invalid one**: reading it does not end with a fault. -/
def NamesRead (inOr : Bool) (p : Pattern) : Prop :=
  ∀ name, Names inOr p name → ∀ f, Regex.ofSource name .none ≠ .error (.fault f)

/-- The same of a key alone. -/
def NameReads (v : Value) : Prop :=
  ∀ written name, v = .text written → Key.sourceIn written = some name →
    ∀ f, Regex.ofSource name .none ≠ .error (.fault f)

/-- A name that is a regex does not end with a fault. -/
theorem nameReads_text {written : String} (h : (Key.sourceIn written).all
    (fun name => (Regex.ofSource name .none).toOption.isSome) = true) : NameReads (.text written) := by
  rintro _ name ⟨⟩ hsource f hfault
  rw [hsource, Option.all_some, hfault] at h
  cases h

namespace NamesRead

theorem value (v : Value) : NamesRead inOr (.value v) := by
  rintro name ⟨⟩

theorem literal {form : SeqForm} {tag : Nat} {items : List Pattern} (h : IsLiteral inOr items) :
    NamesRead inOr (.seq form tag items) := by
  rintro name (_ | _ | ⟨hliteral, -, -⟩)
  exact absurd h hliteral

theorem seq {form : SeqForm} {tag : Nat} {items : List Pattern} (h : ∀ p ∈ items, NamesRead true p) :
    NamesRead inOr (.seq form tag items) := by
  rintro name (_ | _ | ⟨-, hp, hname⟩)
  exact h _ hp name hname

theorem mapping {form : MapForm} {tag : Nat} {entries : List (Value × Pattern)}
    (hkeys : ∀ e ∈ entries, NameReads e.1) (hrules : ∀ e ∈ entries, NamesRead false e.2) :
    NamesRead inOr (.mapping form tag entries) := by
  intro name hname
  cases hname with
  | key he hsource => exact hkeys _ he _ name rfl hsource
  | entry he hname => exact hrules _ he name hname

theorem item {form : SeqForm} {tag : Nat} {items : List Pattern}
    (h : NamesRead inOr (.seq form tag items)) (hliteral : ¬ IsLiteral inOr items) {p : Pattern}
    (hp : p ∈ items) : NamesRead true p :=
  fun name hname => h name (.item hliteral hp hname)

variable {form : MapForm} {tag : Nat} {entries : List (Value × Pattern)}

theorem entry (h : NamesRead inOr (.mapping form tag entries)) {e : Value × Pattern} (he : e ∈ entries) :
    NamesRead false e.2 :=
  fun name hname => h name (.entry he hname)

theorem key (h : NamesRead inOr (.mapping form tag entries)) {e : Value × Pattern} (he : e ∈ entries) :
    NameReads e.1 := by
  obtain ⟨v, p⟩ := e
  rintro written name rfl hsource
  exact h name (.key he hsource)

end NamesRead

/-- Nothing is wrong with a key exactly if it is one of the grammar with a regex for a name. -/
theorem isKey_iff {v : Value} (hread : NameReads v) :
    IsKey v ↔ formViolations v = [] ∧ nameViolations v = [] := by
  cases v with
  | text written =>
    have hform : formViolations (.text written) = [] ↔ Key.lacksName written = false := by
      simp [formViolations]
    have hname : nameViolations (.text written) = [] ↔
        ∀ name ∈ Key.sourceIn written, ∃ r, Regex.ofSource name .none = .ok r := by
      rw [nameViolations]
      cases hsource : Key.sourceIn written with
      | none => exact iff_of_true rfl nofun
      | some name =>
        cases hr : Regex.ofSource name .none with
        | ok r => simp [hr]
        | error e =>
          cases e with
          | invalid => simp [hr]
          | fault f => exact absurd hr (hread written name rfl hsource f)
    rw [hform, hname]
    constructor
    · rintro ⟨written', source, ⟨⟩, hgrammar, hregex⟩
      obtain ⟨hlacks, rfl⟩ := Key.grammar_iff.mp hgrammar
      exact ⟨hlacks, hregex⟩
    · rintro ⟨hlacks, hregex⟩
      exact ⟨written, _, rfl, Key.grammar_iff.mpr ⟨hlacks, rfl⟩, hregex⟩
  | _ =>
    refine iff_of_false ?_ nofun
    rintro ⟨written, source, hwritten, -⟩
    cases hwritten

/-- **A pattern is well formed exactly if nothing is wrong with it.** -/
theorem violations_eq_nil_iff {p : Pattern} (hread : p.NamesRead inOr) :
    violations slot inOr p = [] ↔ WellFormed slot inOr p := by
  induction p using treeInduction generalizing inOr with
  | value v =>
    rw [violations, valueViolations_eq_nil_iff]
    exact ⟨.value, fun | .value h => h⟩
  | seq form tag items ih =>
    rw [violations]
    by_cases hliteral : IsLiteral inOr items
    · rw [if_pos hliteral]
      exact iff_of_true rfl (.literal hliteral)
    · rw [if_neg hliteral, itemViolations_eq_nil_iff]
      have hitems : ∀ p ∈ items, violations slot true p = [] ↔ WellFormed slot true p :=
        fun p hp => ih p hp (hread.item hliteral hp)
      constructor
      · exact fun h => .seq fun p hp => (hitems p hp).mp (h p hp)
      · intro h p hp
        cases h with
        | literal h => exact absurd h hliteral
        | seq h => exact (hitems p hp).mpr (h p hp)
  | mapping form tag entries ih =>
    rw [violations, entryViolations_eq_nil_iff]
    constructor
    · intro h
      refine .mapping (fun e he => ?_) fun e he => ?_
      · exact (isKey_iff (hread.key he)).mpr ⟨(h e he).1, (h e he).2.2⟩
      · exact (ih e he (hread.entry he)).mp (h e he).2.1
    · intro h e he
      cases h with
      | mapping hkeys hrules =>
        obtain ⟨hform, hname⟩ := (isKey_iff (hread.key he)).mp (hkeys e he)
        exact ⟨hform, (ih e he (hread.entry he)).mpr (hrules e he), hname⟩
  | validator h => exact iff_of_true rfl (.validator h)

/-! ## Compiling goes by the grammar -/

/-- **A result reports what is wrong**: there is one if nothing is, and else the first violation is the
refusal. -/
def Reports {α : Type} (es : List CompileError) (x : Except Refusal α) : Prop :=
  match es with
  | [] => ∃ a, x = .ok a
  | e :: _ => x = .error (.compile e)

namespace Reports

variable {α β : Type} {es es' : List CompileError} {x : Except Refusal α}

theorem ok (a : α) : Reports [] (Except.ok a : Except Refusal α) := ⟨a, rfl⟩

/-- What follows a result reports what is wrong from there on. -/
theorem bind {f : α → Except Refusal β} (h : Reports es x) (hf : ∀ a, x = .ok a → Reports es' (f a)) :
    Reports (es ++ es') (x >>= f) := by
  cases es with
  | nil =>
    obtain ⟨a, ha⟩ := h
    rw [ha]
    exact hf a ha
  | cons e es =>
    have herror : x = .error (.compile e) := h
    rw [herror]
    exact rfl

/-- Something made of a result reports what the result does. -/
theorem map {f : α → β} (h : Reports es x) : Reports es (do return f (← x)) := by
  have hbind : Reports (es ++ []) (do return f (← x)) := h.bind fun a _ => .ok (f a)
  rwa [List.append_nil] at hbind

end Reports

variable {session : Option Nat}

/-- A value without parts is refused if it does not stand alone. -/
theorem reports_compileValue (v : Value) :
    Reports (valueViolations slot v) ((compileValue slot session inOr v).mapError .compile) := by
  cases v with
  | cls c =>
    cases c with
    | builtin b => exact .ok _
    | host c =>
      cases hslot : slot c.id with
      | validator handle =>
        exact ⟨.delegate ⟨c.id, c.name⟩, by simp [compileValue, kindOfValue, hslot, target?, Except.mapError]⟩
      | _ =>
        exact ⟨.leaf (.instanceOf (.host c)), by simp [compileValue, kindOfValue, hslot, Except.mapError]⟩
  | host object =>
    cases hslot : slot object.id with
    | validator handle =>
      simp [Reports, valueViolations, compileValue, kindOfValue, hslot, target?, Except.mapError]
    | function verdict =>
      by_cases hcallable : object.callable = true <;>
        simp [Reports, valueViolations, compileValue, kindOfValue, hslot, hcallable, target?,
          Except.mapError]
    | _ => simp [Reports, valueViolations, compileValue, kindOfValue, hslot, Except.mapError]
  | ellipsis => cases inOr <;> exact .ok _
  | regex r => exact .ok _
  | bool b => exact .ok _
  | number n => exact .ok _
  | text s => exact .ok _
  | null => exact .ok _
  | selfMarker => exact .ok _
  | _ => exact rfl

/-- A key is split, unless its form is wrong. -/
theorem reports_splitValue (v : Value) :
    Reports (formViolations v) ((Key.splitValue v).mapError Refusal.compile) := by
  cases v with
  | text written =>
    rcases Key.split_eq written with ⟨hlacks, hsplit⟩ | ⟨hlacks, q, hsplit⟩
    · rw [formViolations, if_pos hlacks, Key.splitValue, hsplit]
      exact rfl
    · rw [formViolations, hlacks, Key.splitValue, hsplit]
      exact .ok _
  | _ => exact rfl

/-- The name of a key that was split is read, unless it is wrong. -/
theorem reports_ofParts {v : Value} (hread : NameReads v) {q : Quantifier} {source : Option String}
    (hsplit : Key.splitValue v = .ok (q, source)) :
    Reports (nameViolations v) (Key.ofParts v.nameText q source) := by
  cases v with
  | text written =>
    rw [Key.splitValue] at hsplit
    have hsource : source = Key.sourceIn written := by
      rcases Key.split_eq written with ⟨-, herror⟩ | ⟨-, q', hok⟩
      · cases herror.symm.trans hsplit
      · cases hok.symm.trans hsplit
        rfl
    rw [nameViolations, ← hsource]
    cases source with
    | none => exact .ok _
    | some name =>
      rw [Key.ofParts, Option.map_some]
      cases hr : Regex.ofSource name .none with
      | ok r => exact .ok _
      | error e =>
        cases e with
        | invalid => exact rfl
        | fault f => exact absurd hr (hread written name rfl hsource.symm f)
  | _ => cases hsplit

/-- Alternatives report what is wrong with the first of them that is not well formed. -/
theorem reports_compileEach {ps : List Pattern}
    (h : ∀ p ∈ ps, Reports (violations slot true p) (compile slot session true p)) :
    Reports (itemViolations slot ps) (compileEach slot session ps) := by
  induction ps with
  | nil => exact .ok _
  | cons p ps ih =>
    obtain ⟨hp, hps⟩ := List.forall_mem_cons.mp h
    exact hp.bind fun _ _ => (ih hps).map

/-- Entries report what is wrong with the first of them: its form, what stands under it, its name. -/
theorem reports_compileEntries {entries : List (Value × Pattern)} (hread : ∀ e ∈ entries, NameReads e.1)
    (h : ∀ e ∈ entries, Reports (violations slot false e.2) (compile slot session false e.2)) :
    Reports (entryViolations slot entries) (compileEntries slot session entries) := by
  induction entries with
  | nil => exact .ok _
  | cons e entries ih =>
    obtain ⟨written, p⟩ := e
    obtain ⟨hkey, hkeys⟩ := List.forall_mem_cons.mp hread
    obtain ⟨hp, hps⟩ := List.forall_mem_cons.mp h
    rw [entryViolations, compileEntries, List.append_assoc, List.append_assoc]
    refine (reports_splitValue written).bind fun parts hsplit => ?_
    refine hp.bind fun _ _ => ?_
    refine (reports_ofParts hkey (Except.mapError_eq_ok_iff.mp hsplit)).bind fun _ _ => ?_
    exact (ih hkeys hps).map

/-- **Compiling reports the first violation**, and gives a validator where there is none. -/
theorem reports_compile {p : Pattern} (hread : p.NamesRead inOr) :
    Reports (violations slot inOr p) (compile slot session inOr p) := by
  induction p using treeInduction generalizing inOr with
  | value v =>
    rw [violations, compile]
    exact reports_compileValue v
  | seq form tag items ih =>
    rw [violations]
    by_cases hliteral : IsLiteral inOr items
    · obtain ⟨rfl, hlength⟩ := hliteral
      obtain ⟨item, rfl⟩ := List.length_eq_one_iff.mp hlength
      rw [if_pos ⟨rfl, rfl⟩, compile_seq_singleton]
      exact .ok _
    · rw [if_neg hliteral, compile_seq hliteral]
      exact (reports_compileEach fun p hp => ih p hp (hread.item hliteral hp)).map
  | mapping form tag entries ih =>
    rw [violations, compile]
    exact (reports_compileEntries (fun e he => hread.key he)
      fun e he => ih e he (hread.entry he)).map
  | validator h => exact .ok _

/-! ## Chains of live delegates -/

/-- **A chain of live delegates from a pattern**: `k` of them lead on to one another, and the first one is
an object of the host in the pattern, or stands in a validator there.  Literals are not looked into. -/
inductive ChainsLive (slot : Nat → Slot) : Bool → Nat → Pattern → Prop where
  | none {inOr : Bool} (p : Pattern) : ChainsLive slot inOr 0 p
  | validator {inOr : Bool} {k : Nat} {h : Handle} : h.validator.ChainsLive slot k →
    ChainsLive slot inOr k (.validator h)
  | target {inOr : Bool} {k : Nat} {v : Value} {t : Target} {h : Handle} : target? v = some t →
    slot t.id = .validator h → h.validator.ChainsLive slot k → ChainsLive slot inOr (k + 1) (.value v)
  | item {inOr : Bool} {k : Nat} {form : SeqForm} {tag : Nat} {items : List Pattern} {p : Pattern} :
    ¬ IsLiteral inOr items → p ∈ items → ChainsLive slot true k p →
    ChainsLive slot inOr k (.seq form tag items)
  | entry {inOr : Bool} {k : Nat} {form : MapForm} {tag : Nat} {entries : List (Value × Pattern)}
    {e : Value × Pattern} : e ∈ entries → ChainsLive slot false k e.2 →
    ChainsLive slot inOr k (.mapping form tag entries)

variable {k : Nat}

theorem chainsLive_value (v : Value) : (value v).ChainsLive slot inOr (k + 1) ↔
    ∃ t h, target? v = some t ∧ slot t.id = .validator h ∧ h.validator.ChainsLive slot k := by
  constructor
  · rintro (_ | _ | ⟨ht, hslot, h⟩)
    exact ⟨_, _, ht, hslot, h⟩
  · rintro ⟨t, handle, ht, hslot, h⟩
    exact .target ht hslot h

theorem chainsLive_seq (form : SeqForm) (tag : Nat) (items : List Pattern) :
    (seq form tag items).ChainsLive slot inOr (k + 1) ↔
      ¬ IsLiteral inOr items ∧ ∃ p ∈ items, p.ChainsLive slot true (k + 1) := by
  constructor
  · rintro (_ | _ | _ | ⟨hliteral, hp, h⟩)
    exact ⟨hliteral, _, hp, h⟩
  · rintro ⟨hliteral, p, hp, h⟩
    exact .item hliteral hp h

theorem chainsLive_mapping (form : MapForm) (tag : Nat) (entries : List (Value × Pattern)) :
    (mapping form tag entries).ChainsLive slot inOr (k + 1) ↔
      ∃ e ∈ entries, e.2.ChainsLive slot false (k + 1) := by
  constructor
  · rintro (_ | _ | _ | _ | ⟨he, h⟩)
    exact ⟨_, he, h⟩
  · rintro ⟨e, he, h⟩
    exact .entry he h

theorem chainsLive_validator (h : Handle) :
    (validator h).ChainsLive slot inOr (k + 1) ↔ h.validator.ChainsLive slot (k + 1) := by
  constructor
  · rintro (_ | ⟨h⟩)
    exact h
  · exact .validator

/-- An object of the host whose `schema` is a validator becomes a live delegate. -/
theorem compileValue_target {v : Value} {t : Target} {h : Handle} (ht : target? v = some t)
    (hslot : slot t.id = .validator h) : compileValue slot session inOr v = .ok (.delegate t) := by
  cases v with
  | cls c =>
    cases c with
    | builtin b => cases ht
    | host c =>
      cases ht
      simp [compileValue, kindOfValue, hslot, target?]
  | host object =>
    cases ht
    simp [compileValue, kindOfValue, hslot, target?]
  | _ => cases ht

/-- **The chains of a pattern are those of its validator.** -/
theorem chainsLive_of_compile_iff {p : Pattern} {v : Validator} (h : compile slot session inOr p = .ok v)
    (k : Nat) : v.ChainsLive slot k ↔ p.ChainsLive slot inOr k := by
  cases k with
  | zero => exact iff_of_true (.none v) (.none p)
  | succ k =>
    induction p using treeInduction generalizing v inOr with
    | value x =>
      rw [compile, Except.mapError_eq_ok_iff] at h
      rw [chainsLive_value]
      constructor
      · intro hchain
        rcases compileValue_eq_ok h with ⟨t, ht, rfl⟩ | rfl | ⟨rule, rfl⟩
        · obtain ⟨handle, hslot, hhandle⟩ := (Validator.chainsLive_delegate t).mp hchain
          exact ⟨t, handle, ht, hslot, hhandle⟩
        · exact absurd hchain (Validator.not_chainsLive_selfRef session)
        · exact absurd hchain (Validator.not_chainsLive_leaf rule)
      · rintro ⟨t, handle, ht, hslot, hchain⟩
        rw [compileValue_target ht hslot] at h
        cases h
        exact .live hslot hchain
    | seq form tag items ih =>
      rw [chainsLive_seq]
      by_cases hliteral : IsLiteral inOr items
      · obtain ⟨rfl, hlength⟩ := id hliteral
        obtain ⟨item, rfl⟩ := List.length_eq_one_iff.mp hlength
        rw [compile_seq_singleton] at h
        cases h
        exact iff_of_false (Validator.not_chainsLive_leaf _) fun h => h.1 hliteral
      · rw [compile_seq hliteral, Except.map_eq_ok_iff] at h
        obtain ⟨vs, hvs, rfl⟩ := h
        have hall := compileEach_eq_ok_iff.mp hvs
        rw [Validator.chainsLive_anyOf]
        constructor
        · rintro ⟨w, hw, hchain⟩
          obtain ⟨p, hp, hcompile⟩ := hall.exists_left hw
          exact ⟨hliteral, p, hp, (ih p hp hcompile).mp hchain⟩
        · rintro ⟨-, p, hp, hchain⟩
          obtain ⟨w, hw, hcompile⟩ := hall.exists_right hp
          exact ⟨w, hw, (ih p hp hcompile).mpr hchain⟩
    | mapping form tag entries ih =>
      simp only [compile, Except.bind_eq_ok_iff, Except.pure_eq_ok_iff] at h
      obtain ⟨qs, hqs, rfl⟩ := h
      have hall := forall₂_of_compileEntries hqs
      rw [chainsLive_mapping, Validator.chainsLive_object]
      constructor
      · rintro ⟨q, hq, hchain⟩
        obtain ⟨e, he, hentry⟩ := hall.exists_left hq
        exact ⟨e, he, (ih e he hentry.rule).mp hchain⟩
      · rintro ⟨e, he, hchain⟩
        obtain ⟨q, hq, hentry⟩ := hall.exists_right he
        exact ⟨q, hq, (ih e he hentry.rule).mpr hchain⟩
    | validator handle =>
      cases h
      rw [chainsLive_validator]

end Conformance.Pattern
