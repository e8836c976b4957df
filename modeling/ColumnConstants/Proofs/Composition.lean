import Mathlib
import ColumnConstants.Proofs.Acceptance
import ColumnConstants.Proofs.Cutting

namespace ColumnConstants

namespace Piece

variable {c : Char} {cs t rest more : List Char} {p : Piece}

theorem span_append_lineBreak (q : Char → Bool) (cs more : List Char) (h : q '\n' = false) :
    (cs ++ '\n' :: more).takeWhile q = cs.takeWhile q ∧
      (cs ++ '\n' :: more).dropWhile q = cs.dropWhile q ++ '\n' :: more := by
  induction cs with
  | nil => simp [h]
  | cons c cs ih => cases hc : q c <;> simp [hc, ih]

-- Whether a piece that is cut off with the outcome `x` is cut off as well with the outcome `x'`, and
-- `more` is left in addition.
def Extends (more : List Char) (x x' : Except Unclosed (Piece × List Char)) : Prop :=
  ∀ p rest, x = .ok (p, rest) → x' = .ok (p, rest ++ more)

theorem extends_ok : Extends more (.ok (p, cs)) (.ok (p, cs ++ more)) := by
  intro p rest h
  cases h
  rfl

theorem extends_closing {unclosed : Unclosed} {make : List Char → Piece}
    {o o' : Option (List Char × List Char)}
    (h : ∀ t rest, o = some (t, rest) → o' = some (t, rest ++ more)) :
    Extends more (closing unclosed make o) (closing unclosed make o') := by
  intro p rest hp
  have ⟨t, ht, hp⟩ := closing_eq_ok hp
  rw [h t rest ht, hp]
  rfl

theorem extends_ite {b b' : Prop} [Decidable b] [Decidable b']
    {x x' y y' : Except Unclosed (Piece × List Char)} (hb : b' ↔ b)
    (hx : b → Extends more x x') (hy : Extends more y y') :
    Extends more (if b then x else y) (if b' then x' else y') := by
  by_cases h : b
  case pos =>
    rw [if_pos h, if_pos (hb.mpr h)]
    exact hx h
  case neg =>
    rw [if_neg h, if_neg (mt hb.mp h)]
    exact hy

theorem extends_first : Extends ('\n' :: more) (first c cs) (first c (cs ++ '\n' :: more)) := by
  have head (d : Char) (hd : d ≠ '\n') :
      c = '/' ∧ (cs ++ '\n' :: more).head? = some d ↔ c = '/' ∧ cs.head? = some d := by
    cases cs <;> simp [hd.symm]
  have tail {d : Char} (hd : cs.head? = some d) :
      (cs ++ '\n' :: more).tail = cs.tail ++ '\n' :: more := by
    cases cs
    case nil => cases hd
    case cons => rfl
  unfold first
  refine extends_ite .rfl (fun _ => extends_ok) ?_
  refine extends_ite .rfl (fun _ => extends_ok) ?_
  refine extends_ite (head '/' (by decide)) (fun h => ?lineComment) ?_
  case lineComment =>
    have hs := span_append_lineBreak (· ≠ '\n') cs.tail more (by decide)
    rw [tail h.2, hs.1, hs.2]
    exact extends_ok
  refine extends_ite (head '*' (by decide)) (fun h => ?blockComment) ?_
  case blockComment =>
    rw [tail h.2]
    exact extends_closing fun _ _ => closeComment_append
  refine extends_ite .rfl (fun _ => extends_closing fun _ _ => closeRaw_append_of_eq_some) ?_
  refine extends_ite .rfl (fun _ => extends_closing fun _ _ => closeQuote_append) ?_
  refine extends_ite .rfl (fun _ => extends_closing fun _ _ => closeQuote_append) ?_
  refine extends_ite .rfl (fun _ => ?word) ?_
  case word =>
    have hs := span_append_lineBreak continuesWord cs more (by decide)
    rw [hs.1, hs.2]
    exact extends_ok
  refine extends_ite .rfl (fun _ => ?number) extends_ok
  have hs := span_append_lineBreak continuesNumber cs more (by decide)
  rw [hs.1, hs.2]
  exact extends_ok

theorem Fits.append_lineBreak (h : Fits p rest) : Fits p (rest ++ '\n' :: more) := by
  obtain ⟨c, cs, ht, hf⟩ := h
  exact ⟨c, cs ++ '\n' :: more, by rw [← List.append_assoc, ht]; rfl, extends_first p rest hf⟩

end Piece

section

variable {cs rest more : List Char} {ps qs : List Piece} {r : Bool}

theorem Apart.append_lineBreak (h : Apart ps rest) : Apart ps (rest ++ '\n' :: more) := by
  induction ps with
  | nil => exact apart_nil
  | cons p ps ih =>
    refine ⟨?_, ih h.2⟩
    rw [← List.append_assoc]
    exact h.1.append_lineBreak

theorem pieces_append_lineBreak (more : List Char) (h : (pieces cs).2 = none) :
    pieces (cs ++ '\n' :: more) =
      ((pieces cs).1 ++ .lineBreak :: (pieces more).1, (pieces more).2) := by
  have ha : Apart (pieces cs).1 ('\n' :: more) := (apart_pieces h).append_lineBreak
  have hb : pieces ('\n' :: more) = (.lineBreak :: (pieces more).1, (pieces more).2) :=
    pieces_of_ok rfl
  have hp := pieces_of_apart ha
  rwa [text_pieces h, hb] at hp

-- A line break ends a text as its end does.
theorem tokens_append_lineBreak :
    tokens r (ps ++ .lineBreak :: qs) = tokens r ps ++ tokens false qs := by
  induction ps generalizing r with
  | nil => cases r <;> rfl
  | cons p ps ih =>
    rw [List.cons_append, tokens, tokens]
    cases p.token?
    case some t => simp [ih]
    case none =>
      by_cases hb : r && p.breaksLine
      case pos => simp [hb, ih]
      case neg => simp [hb, ih]

end

section

variable {s₁ s₂ q : List Char} {ts us : List Token}

theorem tokenize_append (h₁ : tokenize s₁ = .ok ts) (h₂ : tokenize s₂ = .ok us) :
    tokenize (s₁ ++ '\n' :: ';' :: '\n' :: s₂) = .ok (ts ++ .terminator :: us) := by
  obtain ⟨hp₁, rfl, hn₁⟩ := tokenize_eq_ok_iff.mp h₁
  obtain ⟨hp₂, rfl, hn₂⟩ := tokenize_eq_ok_iff.mp h₂
  have ha : Apart [.mark ';', .lineBreak] s₂ :=
    ⟨Piece.fits_mark (by decide), Piece.fits_lineBreak, trivial⟩
  have hs : pieces (';' :: '\n' :: s₂) =
      (.mark ';' :: .lineBreak :: (pieces s₂).1, (pieces s₂).2) := pieces_of_apart ha
  have hp := pieces_append_lineBreak (';' :: '\n' :: s₂) hp₁
  rw [hs] at hp
  refine tokenize_eq_ok_iff.mpr ⟨by rw [hp, hp₂], ?_, hn₁.append hn₂⟩
  rw [hp, tokens_append_lineBreak]
  rfl

theorem tokenize_packageClause_append (hq : isWord q = true)
    (h : tokenize ("package ".toList ++ q ++ '\n' :: s₂) = .ok ts) :
    ∃ us, tokenize s₂ = .ok us ∧
      ts = .word "package" :: .word (String.ofList q) :: .terminator :: us := by
  have ha : Apart [.word "package".toList, .blank ' ', .word q, .lineBreak] s₂ :=
    ⟨Piece.fits_word (by decide) (by simp [Piece.text]; decide),
      Piece.fits_blank (by decide) (by decide),
      Piece.fits_word hq (by simp [Piece.text]; decide), Piece.fits_lineBreak, trivial⟩
  have hp := pieces_of_apart ha
  have hs : [Piece.word "package".toList, .blank ' ', .word q, .lineBreak].flatMap Piece.text ++ s₂ =
      "package ".toList ++ q ++ '\n' :: s₂ := by
    simp [Piece.text]
  rw [hs] at hp
  obtain ⟨hu, ht, hn⟩ := tokenize_eq_ok_iff.mp h
  rw [hp] at hu ht
  subst ht
  exact ⟨_, tokenize_eq_ok_iff.mpr ⟨hu, rfl, hn⟩, rfl⟩

end

namespace SourceFile

theorem packageClause_append {ts rest us : List Token} {name : String}
    (h : PackageClause ts name rest) : PackageClause (ts ++ us) name (rest ++ us) := by
  unfold PackageClause at h ⊢
  rw [skipTerminators_append_of_ne_nil (by simp [h]), h]
  rfl

theorem ofTokens_append {ts rest us : List Token} {name q : String} {f₁ f₂ : SourceFile}
    (hn : Nested [] ts) (hp : PackageClause ts name rest) (h₁ : ofTokens ts = .ok f₁)
    (h₂ : ofTokens (.word "package" :: .word q :: .terminator :: us) = .ok f₂) :
    ofTokens (ts ++ .terminator :: us) = .ok ⟨f₁.package, f₁.types ++ f₂.types⟩ := by
  have hn : Nested [] rest := by
    have hn := hn.skipTerminators
    rw [hp] at hn
    exact hn
  have ⟨decls, hd⟩ := exists_repeatTurns_declTurn hn
  -- On its own, the first file has the declarations that it has in front of any other.
  have ⟨hf₁, _, hr₁⟩ := (ofTokens_eq_ok_iff hp).mp h₁
  have hd₁ := hd [] [] [] (.inl rfl) (repeatTurns_of_leave rfl)
  simp only [List.append_nil] at hd₁
  cases hd₁.symm.trans hr₁
  have hq : PackageClause (.word "package" :: .word q :: .terminator :: us) q (.terminator :: us) :=
    rfl
  have ⟨_, vs, hr₂⟩ := (ofTokens_eq_ok_iff hq).mp h₂
  have hd₂ := hd _ f₂.types vs (.inr ⟨us, rfl⟩) hr₂
  exact (ofTokens_eq_ok_iff (packageClause_append hp)).mpr ⟨hf₁, vs, hd₂⟩

variable {s₁ s₂ q : String} {f₁ f₂ : SourceFile}

-- Two texts with the end of a line, a semicolon and another line break between them are read as one
-- file, which has the package of the first text and the declarations of both.
theorem ofText_append (hq : isWord q.toList = true) (h₁ : ofText s₁.toList = .ok f₁)
    (h₂ : ofText ("package " ++ q ++ "\n" ++ s₂).toList = .ok f₂) :
    ofText (s₁ ++ "\n;\n" ++ s₂).toList = .ok ⟨f₁.package, f₁.types ++ f₂.types⟩ := by
  have ⟨ts, name, rest, ht₁, hp⟩ := exists_ofText_iff.mp ⟨f₁, h₁⟩
  have ⟨vs, _, _, hv, _⟩ := exists_ofText_iff.mp ⟨f₂, h₂⟩
  have hs₂ : ("package " ++ q ++ "\n" ++ s₂).toList =
      "package ".toList ++ q.toList ++ '\n' :: s₂.toList := by simp
  obtain ⟨us, ht₂, rfl⟩ := tokenize_packageClause_append hq (hs₂ ▸ hv)
  have hs : (s₁ ++ "\n;\n" ++ s₂).toList =
      s₁.toList ++ '\n' :: ';' :: '\n' :: s₂.toList := by simp
  rw [ofText_of_tokenize ht₁] at h₁
  rw [ofText_of_tokenize hv] at h₂
  rw [hs, ofText_of_tokenize (tokenize_append ht₁ ht₂)]
  exact ofTokens_append (nested_of_tokenize ht₁) hp h₁ h₂

set_option maxRecDepth 4096 in
-- The first text leaves a block in a declaration, and stops in another one.
theorem ofText_append_truncated :
    isWord "q".toList = true ∧
    ofText "package p\nfunc f() \x7b type a int \x7d // b\ntype T =".toList =
      .ok ⟨"p", [⟨"a", .other⟩, ⟨"T", .other⟩]⟩ ∧
    ofText ("package " ++ "q" ++ "\n" ++ "type U struct \x7b A, B int `c` \x7d").toList =
      .ok ⟨"q", [⟨"U", .struct [⟨["A", "B"], some "`c`"⟩]⟩]⟩ ∧
    ofText ("package p\nfunc f() \x7b type a int \x7d // b\ntype T =" ++ "\n;\n" ++
        "type U struct \x7b A, B int `c` \x7d").toList =
      .ok ⟨"p", [⟨"a", .other⟩, ⟨"T", .other⟩] ++ [⟨"U", .struct [⟨["A", "B"], some "`c`"⟩]⟩]⟩ := by
  have hq : isWord "q".toList = true := by decide
  have h₁ : ofText "package p\nfunc f() \x7b type a int \x7d // b\ntype T =".toList =
      .ok ⟨"p", [⟨"a", .other⟩, ⟨"T", .other⟩]⟩ := by cbv
  have h₂ : ofText ("package " ++ "q" ++ "\n" ++ "type U struct \x7b A, B int `c` \x7d").toList =
      .ok ⟨"q", [⟨"U", .struct [⟨["A", "B"], some "`c`"⟩]⟩]⟩ := by cbv
  exact ⟨hq, h₁, h₂, ofText_append hq h₁ h₂⟩

end SourceFile

end ColumnConstants
