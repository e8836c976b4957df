import ColumnConstants.Proofs.Reading

namespace ColumnConstants

-- Whether the tokens start with the clause of the package `name`, terminators in front of it aside,
-- and go on with `rest`.
def PackageClause (ts : List Token) (name : String) (rest : List Token) : Prop :=
  skipTerminators ts = .word "package" :: .word name :: rest

namespace SourceFile

variable {source : List Char} {ts rest : List Token} {name : String}

theorem ofTokens_eq_ok_iff {file : SourceFile} (h : PackageClause ts name rest) :
    ofTokens ts = .ok file ↔
      file.package = name ∧ ∃ us, repeatTurns declTurn rest = .ok (file.types, us) := by
  rw [ofTokens, h]
  simp only [↓reduceIte]
  constructor
  case mp =>
    intro hf
    have ⟨⟨types, us⟩, ht, he⟩ := bind_eq_ok.mp hf
    cases he
    exact ⟨rfl, us, ht⟩
  case mpr =>
    rintro ⟨rfl, us, ht⟩
    exact bind_eq_ok.mpr ⟨_, ht, rfl⟩

theorem ofTokens_of_not_packageClause (h : ¬∃ name rest, PackageClause ts name rest) :
    ofTokens ts = .error .missingPackage := by
  unfold ofTokens
  split
  case h_1 w name rest hs =>
    split
    case isTrue hw =>
      subst hw
      exact absurd ⟨name, rest, hs⟩ h
    case isFalse => rfl
  case h_2 => rfl

-- Behind a package clause, nested tokens are always those of a file.
theorem exists_ofTokens (hn : Nested [] ts) (h : PackageClause ts name rest) :
    ∃ file, ofTokens ts = .ok file := by
  have hn := hn.skipTerminators
  rw [h] at hn
  have ⟨decls, hd⟩ := exists_repeatTurns_declTurn (show Nested [] rest from hn)
  have hd := hd [] [] [] (.inl rfl) (repeatTurns_of_leave rfl)
  rw [List.append_nil] at hd
  exact ⟨⟨name, decls ++ []⟩, (ofTokens_eq_ok_iff h).mpr ⟨rfl, [], hd⟩⟩

theorem ofText_of_tokenize (h : tokenize source = .ok ts) : ofText source = ofTokens ts := by
  rw [ofText, h]
  rfl

theorem ofText_of_fault {e : SourceError} (h : tokenize source = .error e) :
    ofText source = .error e := by
  rw [ofText, h]
  rfl

end SourceFile

theorem checkNesting_ne_unexpectedEnd {line : Nat} {opened : List OpenBracket}
    {unclosed : Option Unclosed} {ps : List Piece} :
    checkNesting line opened unclosed ps ≠ .error .unexpectedEnd := by
  induction ps generalizing line opened with
  | nil =>
    match unclosed with
    | some u => cases u <;> simp [checkNesting, Unclosed.error]
    | none => cases opened <;> simp [checkNesting]
  | cons p ps ih =>
    unfold checkNesting
    split
    case h_1 | h_3 => exact ih
    case h_2 =>
      split
      case h_1 =>
        split
        case isTrue => exact ih
        case isFalse => simp
      case h_2 => simp

theorem tokenize_ne_unexpectedEnd {source : List Char} :
    tokenize source ≠ .error .unexpectedEnd := by
  intro h
  unfold tokenize at h
  cases hc : checkNesting 1 [] (pieces source).2 (pieces source).1
  case error e =>
    simp only [hc] at h
    cases h
    exact checkNesting_ne_unexpectedEnd hc
  case ok =>
    simp only [hc] at h
    cases h

namespace SourceFile

variable {source : List Char}

theorem ofText_cases (source : List Char) :
    (∃ e, tokenize source = .error e ∧ ofText source = .error e) ∨
    (∃ ts, tokenize source = .ok ts ∧ (¬∃ name rest, PackageClause ts name rest) ∧
      ofText source = .error .missingPackage) ∨
    (∃ ts name rest file, tokenize source = .ok ts ∧ PackageClause ts name rest ∧
      ofText source = .ok file) := by
  cases ht : tokenize source
  case error e => exact .inl ⟨e, rfl, ofText_of_fault ht⟩
  case ok ts =>
    refine .inr ?_
    by_cases hp : ∃ name rest, PackageClause ts name rest
    case pos =>
      have ⟨name, rest, hp⟩ := hp
      have ⟨file, hf⟩ := exists_ofTokens (nested_of_tokenize ht) hp
      exact .inr ⟨ts, name, rest, file, rfl, hp, (ofText_of_tokenize ht).trans hf⟩
    case neg =>
      exact .inl ⟨ts, rfl, hp, (ofText_of_tokenize ht).trans (ofTokens_of_not_packageClause hp)⟩

theorem exists_ofText_iff :
    (∃ file, ofText source = .ok file) ↔
      ∃ ts name rest, tokenize source = .ok ts ∧ PackageClause ts name rest := by
  constructor
  case mp =>
    intro ⟨file, hf⟩
    obtain ⟨e, _, he⟩ | ⟨ts, _, _, he⟩ | ⟨ts, name, rest, _, ht, hp, _⟩ := ofText_cases source
    · exact absurd (hf.symm.trans he) (by simp)
    · exact absurd (hf.symm.trans he) (by simp)
    · exact ⟨ts, name, rest, ht, hp⟩
  case mpr =>
    intro ⟨ts, name, rest, ht, hp⟩
    have ⟨file, hf⟩ := exists_ofTokens (nested_of_tokenize ht) hp
    exact ⟨file, (ofText_of_tokenize ht).trans hf⟩

theorem ofText_ne_unexpectedEnd : ofText source ≠ .error .unexpectedEnd := by
  intro hf
  obtain ⟨e, ht, he⟩ | ⟨ts, _, _, he⟩ | ⟨ts, name, rest, file, _, _, he⟩ := ofText_cases source
  · cases he.symm.trans hf
    exact tokenize_ne_unexpectedEnd ht
  · cases he.symm.trans hf
  · cases he.symm.trans hf

-- What is not a fault of the text is a missing package clause, and all other texts are read.
-- In particular no declaration of an accepted text ends too early, wherever it is looked for.
theorem ofText_accepts (source : List Char) :
    ((∃ file, ofText source = .ok file) ↔
      ∃ ts name rest, tokenize source = .ok ts ∧ PackageClause ts name rest) ∧
    (∀ e, tokenize source = .error e → ofText source = .error e) ∧
    (∀ ts, tokenize source = .ok ts → (¬∃ name rest, PackageClause ts name rest) →
      ofText source = .error .missingPackage) ∧
    ofText source ≠ .error .unexpectedEnd ∧
    (∀ ts us, tokenize source = .ok ts → us <:+ ts →
      (∃ r, typeDecls us = .ok r) ∧
      (∀ name, ∃ r, typeSpec name us = .ok r) ∧
      (∀ body, us = .opening .curly :: body → ∃ r, structFields body = .ok r)) := by
  refine ⟨exists_ofText_iff, fun e => ofText_of_fault, fun ts ht hp => ?missing,
    ofText_ne_unexpectedEnd, fun ts us ht hs => ?branches⟩
  case missing => exact (ofText_of_tokenize ht).trans (ofTokens_of_not_packageClause hp)
  case branches =>
    have ⟨st, hn⟩ := (nested_of_tokenize ht).suffix hs
    refine ⟨?_, fun name => ?_, fun body hb => ?_⟩
    · have ⟨decls, rest, _, _, hd⟩ := exists_typeDecls hn
      exact ⟨_, us.append_nil ▸ hd [] (.inl rfl)⟩
    · have ⟨decl, rest, _, _, _, hd⟩ := exists_typeSpec name hn
      exact ⟨_, us.append_nil ▸ hd [] (.inr (.inl rfl))⟩
    · subst hb
      have ⟨fields, rest, _, hf⟩ := exists_structFields (show Nested (.curly :: st) body from hn)
      exact ⟨_, body.append_nil ▸ hf []⟩

end SourceFile

end ColumnConstants
