import Conformance.Proofs.Regex.LiteralName
import Conformance.Validator.ObjectRule
import Mathlib.Data.List.Nodup

/-!
# Keys and their written forms

## Main Definitions

* `Key.IsSingle` — a key that is about one property at most, if its name is literal
* `Key.SaysSame` — a key with another quantifier that says the same

## Main statements

* `Key.ofWritten_eq_ok` — what is known of a key that was read
* `Key.ofWritten_sign`, `Key.ofWritten_literal` — reading a name behind a sign, and a literal name
* `Key.exists_ofParts_literal` — a literal name is always a key, and about the property of that name only
* `Key.isSingle_of_ofWritten` — a literal name is about one property at most
-/

namespace Conformance.Key

/-! ## What is read -/

/-- The source of a regex is the one it was read from. -/
theorem source_of_ofSource {source : String} {flags : Regex.Flags} {r : Regex}
    (h : Regex.ofSource source flags = .ok r) : r.source = source := by
  simp only [Regex.ofSource, Except.bind_eq_ok_iff, Except.pure_eq_ok_iff] at h
  obtain ⟨⟨tree, flags'⟩, -, rfl⟩ := h
  rfl

/-- A key is written as it was. -/
theorem written_of_ofWritten {written : String} {k : Key} (h : ofWritten written = .ok k) :
    k.written = written := by
  unfold ofWritten at h
  split at h
  · unfold ofParts at h
    split at h
    · cases h
      rfl
    · split at h <;> cases h
      rfl
  · cases h

/-- Only the sign of the catch-all key stands for no name. -/
theorem split_eq_ok {written : String} {q : Quantifier} {source : Option String}
    (h : split written = .ok (q, source)) :
    (q = .catchAll ∧ source = none) ∨
      ∃ name, q ≠ .catchAll ∧ source = some name ∧ (written ≠ "" → name ≠ "") := by
  unfold split at h
  split at h
  · cases h
    exact .inl ⟨rfl, rfl⟩
  · right
    split at h
    · next c body heq =>
      split at h
      · next sign hsign =>
        split at h
        · cases h
        · next hbody =>
          cases h
          refine ⟨_, ?_, rfl, fun _ => ?_⟩
          · rintro rfl
            unfold Quantifier.ofSign? at hsign
            split at hsign <;> cases hsign
          · simpa using hbody
      · cases h
        exact ⟨_, nofun, rfl, id⟩
    · cases h
      exact ⟨_, nofun, rfl, id⟩

/-- **A key that was read** is the catch-all key, or has a name that is a regex without switches. -/
theorem ofWritten_eq_ok {written : String} {k : Key} (h : ofWritten written = .ok k) :
    (k.quantifier = .catchAll ∧ k.name = none) ∨
      ∃ r, k.quantifier ≠ .catchAll ∧ k.name = some r ∧ Regex.ofSource r.source .none = .ok r ∧
        (written ≠ "" → r.source ≠ "") := by
  unfold ofWritten at h
  split at h
  · next q source hsplit =>
    rcases split_eq_ok hsplit with ⟨rfl, rfl⟩ | ⟨name, hq, rfl, hne⟩
    · cases h
      exact .inl ⟨rfl, rfl⟩
    · rw [ofParts] at h
      split at h
      · next r hr =>
        cases h
        have hsource := source_of_ofSource hr
        refine .inr ⟨r, hq, rfl, ?_, ?_⟩
        · rw [hsource, hr]
        · rwa [hsource]
      · cases h
      · cases h
  · cases h

/-- What stands behind a sign is the name. -/
theorem split_sign {c : Char} {q : Quantifier} {source : String}
    (hsign : Quantifier.ofSign? c = some q) (hne : source ≠ "") :
    split (String.singleton c ++ source) = .ok (q, some source) := by
  have htoList : (String.singleton c ++ source).toList = c :: source.toList := by simp
  have hstar : String.singleton c ++ source ≠ "*" := by
    intro heq
    have hlist := congrArg String.toList heq
    rw [htoList] at hlist
    have hnil : source.toList = [] := (List.cons.inj hlist).2
    exact hne (by simpa using hnil)
  have hempty : source.toList.isEmpty = false := by simpa using hne
  rw [split, if_neg hstar, htoList]
  simp only [hsign, hempty, String.ofList_toList, Bool.false_eq_true, if_false]

/-- **A name behind a sign.** -/
theorem ofWritten_sign {c : Char} {q : Quantifier} {source : String} {r : Regex}
    (hsign : Quantifier.ofSign? c = some q) (hne : source ≠ "")
    (hr : Regex.ofSource source .none = .ok r) :
    ofWritten (String.singleton c ++ source) = .ok ⟨String.singleton c ++ source, q, some r⟩ := by
  rw [ofWritten, split_sign hsign hne]
  simp only [ofParts, hr]

/-- **A literal name** stands for itself. -/
theorem ofWritten_literal {name : String} {r : Regex} (hliteral : isLiteralName name = true)
    (hr : Regex.ofSource name .none = .ok r) : ofWritten name = .ok ⟨name, .exact, some r⟩ := by
  have hplain := Regex.isPlain_of_isLiteralName hliteral
  have hstar : name ≠ "*" := by
    rintro rfl
    exact hplain '*' (by decide) (by decide)
  have hsplit : split name = .ok (.exact, some name) := by
    rw [split, if_neg hstar]
    split
    · next c body heq =>
      have hc := hplain c (by rw [heq]; exact List.mem_cons_self)
      have hsign : Quantifier.ofSign? c = none := by
        unfold Quantifier.ofSign?
        split
        · exact absurd rfl (hc.ne (by decide))
        · exact absurd rfl (hc.ne (by decide))
        · exact absurd rfl (hc.ne (by decide))
        · rfl
      simp only [hsign]
    · rfl
  rw [ofWritten, hsplit]
  simp only [ofParts, hr]

/-- **A literal name is always a key**, behind any sign and with any quantifier, and the key is about the
property of that name only. -/
theorem exists_ofParts_literal {name : String} (hname : isLiteralName name = true) (written : String)
    (quantifier : Quantifier) : ∃ k, ofParts written quantifier (some name) = .ok k ∧
      k.isLiteral = true ∧ ∀ text, k.matchesName? text = .ok (decide (text = name)) := by
  have hr := Regex.ofSource_literal hname
  refine ⟨⟨written, quantifier, some ⟨name, .none, .ofList (Regex.plainNodes name.toList)⟩⟩, ?_, hname,
    Regex.matchesAll?_literal hname hr⟩
  simp only [ofParts, hr]

/-! ## Matching -/

/-- Where matching a name does not end in a fault, it tells which properties the key is about. -/
theorem claims_of_matchesName? {k : Key} {property : String} {matched : Bool}
    (h : k.matchesName? property = .ok matched) : k.claims property = matched := by
  unfold matchesName? at h
  unfold claims
  split at h
  · exact Except.ok.inj h
  · exact Regex.matchesAll_of_matchesAll? h

/-! ## Counting -/

/-- A literal name is about the property of that name only. -/
theorem eq_of_claims {k : Key} {r : Regex} (hname : k.name = some r)
    (hr : Regex.ofSource r.source .none = .ok r) (hliteral : k.isLiteral = true) {property : String}
    (h : k.claims property = true) : property = r.source := by
  rw [isLiteral, hname] at hliteral
  rw [claims, hname] at h
  exact (Regex.matchesAll_literal_iff hliteral hr).mp h

/-- A key that is about one property at most, if its name is literal and no two properties have the
same name. -/
def IsSingle (k : Key) : Prop :=
  k.isLiteral = true → ∀ names : List String, names.Nodup → k.count names ≤ 1

/-- **A literal name is about one property at most.** -/
theorem isSingle_of_ofWritten {written : String} {k : Key} (h : ofWritten written = .ok k) :
    k.IsSingle := by
  intro hliteral names hnodup
  rcases ofWritten_eq_ok h with ⟨-, hname⟩ | ⟨r, -, hname, hr, -⟩
  · rw [isLiteral, hname] at hliteral
    cases hliteral
  · calc names.countP k.claims ≤ names.countP (· == r.source) :=
          List.countP_mono_left fun name _ hclaims => by
            rw [eq_of_claims hname hr hliteral hclaims, beq_self_eq_true]
      _ ≤ 1 := List.nodup_iff_count_le_one.mp hnodup r.source

/-! ## Keys that say the same -/

/-- **A key says the same as another one** of the same name.  The quantifier is the same, or it replaces
none: an unmarked name with special characters allows any number of properties, and an unmarked
literal name allows one at most if its absence is `admitted`. -/
inductive SaysSame (admitted : Prop) (k l : Key) : Prop where
  | same : l.name = k.name → l.quantifier = k.quantifier → SaysSame admitted k l
  | anyNumber : l.name = k.name → k.isLiteral = false → k.quantifier = .exact →
    l.quantifier = .any → SaysSame admitted k l
  | atMostOne : l.name = k.name → k.isLiteral = true → k.quantifier = .exact →
    l.quantifier = .optional → admitted → SaysSame admitted k l

namespace SaysSame

variable {admitted : Prop} {k l : Key}

theorem name (h : SaysSame admitted k l) : l.name = k.name := by
  cases h <;> assumption

theorem isLiteral (h : SaysSame admitted k l) : l.isLiteral = k.isLiteral := by
  rw [Key.isLiteral, Key.isLiteral, h.name]

theorem claims (h : SaysSame admitted k l) : l.claims = k.claims := by
  funext property
  rw [Key.claims, Key.claims, h.name]

theorem sourceText (h : SaysSame admitted k l) : l.sourceText = k.sourceText := by
  rw [Key.sourceText, Key.sourceText, Key.source, Key.source, h.name]

theorem isCatchAll (h : SaysSame admitted k l) : l.isCatchAll = k.isCatchAll := by
  unfold Key.isCatchAll
  cases h with
  | same _ heq => rw [heq]
  | anyNumber _ _ hexact hany =>
    rw [hexact, hany]
    rfl
  | atMostOne _ _ hexact hoptional _ =>
    rw [hexact, hoptional]
    rfl

/-- The admission of absence may be another one. -/
theorem imp {admitted' : Prop} (h : SaysSame admitted k l)
    (himp : k.isLiteral = true → k.quantifier = .exact → admitted → admitted') :
    SaysSame admitted' k l := by
  cases h with
  | same hname heq => exact .same hname heq
  | anyNumber hname hliteral hexact hany => exact .anyNumber hname hliteral hexact hany
  | atMostOne hname hliteral hexact hoptional hadmitted =>
    exact .atMostOne hname hliteral hexact hoptional (himp hliteral hexact hadmitted)

end SaysSame

end Conformance.Key
