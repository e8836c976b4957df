import Mathlib
import ColumnConstants.Proofs.Quotes

namespace ColumnConstants

def OpensUnclosed (c : Char) (cs : List Char) : Prop :=
  c = '\x60' ∧ '\x60' ∉ cs ∨ IsQuote c ∧ ¬Closes c cs

namespace Piece

variable {c : Char} {cs : List Char} {u : Unclosed}

theorem closeRaw_eq_none_iff : closeRaw cs = none ↔ '\x60' ∉ cs := by
  fun_induction closeRaw cs with
  | case1 => simp
  | case2 c cs hc ih =>
    have hc : '\x60' ≠ c := fun he => hc he.symm
    simp [ih, hc]
  | case3 => simp

theorem closeComment_eq_none_iff : closeComment cs = none ↔ ¬['*', '/'] <:+: cs := by
  induction cs with
  | nil => simp [closeComment]
  | cons c cs ih =>
    have hp : ['*', '/'] <+: c :: cs ↔ c = '*' ∧ cs.head? = some '/' := by
      cases cs <;> simp [eq_comm]
    rw [closeComment_cons, List.infix_cons_iff, hp]
    split
    case isTrue h => simp [h]
    case isFalse h => simp [h, ih]

theorem closing_eq_error {unclosed : Unclosed} {make : List Char → Piece}
    {o : Option (List Char × List Char)} (h : closing unclosed make o = .error u) :
    o = none ∧ u = unclosed := by
  cases o
  case none =>
    cases h
    exact ⟨rfl, rfl⟩
  case some => cases h

theorem first_eq_error (h : first c cs = .error u) :
    (u = .comment ∧ c = '/' ∧ ∃ ds, cs = '*' :: ds ∧ ¬['*', '/'] <:+: ds) ∨
      (u = .literal ∧ OpensUnclosed c cs) := by
  unfold first at h
  split at h
  case isTrue => cases h
  split at h
  case isTrue => cases h
  split at h
  case isTrue => cases h
  split at h
  case isTrue hc =>
    have ⟨ds, hd⟩ := List.head?_eq_some_iff.mp hc.2
    have ⟨hn, hu⟩ := closing_eq_error h
    rw [hd, List.tail_cons] at hn
    exact .inl ⟨hu, hc.1, ds, hd, closeComment_eq_none_iff.mp hn⟩
  split at h
  case isTrue hc =>
    have ⟨hn, hu⟩ := closing_eq_error h
    exact .inr ⟨hu, .inl ⟨hc, closeRaw_eq_none_iff.mp hn⟩⟩
  split at h
  case isTrue hc =>
    have ⟨hn, hu⟩ := closing_eq_error h
    have hq : IsQuote c := .inl hc
    exact .inr ⟨hu, .inr ⟨hq, (closeQuote_eq_none_iff hq).mp (hc ▸ hn)⟩⟩
  split at h
  case isTrue hc =>
    have ⟨hn, hu⟩ := closing_eq_error h
    have hq : IsQuote c := .inr hc
    exact .inr ⟨hu, .inr ⟨hq, (closeQuote_eq_none_iff hq).mp (hc ▸ hn)⟩⟩
  split at h
  case isTrue => cases h
  split at h <;> cases h

end Piece

section

variable {source : List Char} {u : Unclosed} {p : Piece} {ps : List Piece}

-- Where a text stops inside of a literal or a comment, that literal or comment is opened behind all
-- pieces.
theorem exists_unclosed (h : (pieces source).2 = some u) :
    ∃ c cs, source = (pieces source).1.flatMap Piece.text ++ c :: cs ∧
      Piece.first c cs = .error u := by
  have ⟨rest, hs, hp⟩ := exists_rest_of_prefix (List.prefix_refl (pieces source).1)
  have ⟨hn, hu⟩ := Prod.ext_iff.mp hp
  have hn : (pieces rest).1 = [] := List.self_eq_append_right.mp hn
  have hu : (pieces rest).2 = some u := hu.symm.trans h
  match rest with
  | [] => simp at hu
  | c :: cs =>
    match hf : Piece.first c cs with
    | .ok (q, more) => simp [pieces_of_ok hf] at hn
    | .error v =>
      rw [pieces_of_error hf] at hu
      cases hu
      exact ⟨c, cs, hs, hf⟩

theorem text_infix_of_mem (h : p ∈ ps) : p.text <:+: ps.flatMap Piece.text := by
  have ⟨front, back, hp⟩ := List.append_of_mem h
  exact ⟨front.flatMap Piece.text, back.flatMap Piece.text, by simp [hp]⟩

-- Without a backslash in front of a line break, no literal between quotes goes over a line break.
theorem spansLines_of_mem_pieces (hs : ¬['\\', '\n'] <:+: source) (h : p ∈ (pieces source).1) :
    p.spansLines = false := by
  have ⟨rest, ht, _⟩ := exists_rest_of_prefix (List.prefix_refl (pieces source).1)
  have hi : p.text <:+: source := ht ▸ (text_infix_of_mem h).trans (List.prefix_append ..).isInfix
  by_contra hp
  obtain ⟨quote, t, hq, rfl, hm⟩ := Piece.spansLines_iff.mp (eq_true_of_ne_false hp)
  have ⟨u, v, hu, _⟩ := ((passes_of_mem_pieces hq h).mem_lineBreak_iff (by simp)).mp hm
  have hb : ['\\', '\n'] <:+: (Piece.quoted quote t).text := by
    rw [Piece.text_quoted hq, hu]
    exact ⟨quote :: u, v ++ [quote], by simp⟩
  exact hs (hb.trans hi)

-- Each fault is reported with the line on which it starts: the one that the delimiter or the bracket
-- stands on.
theorem tokenize_fault_lines {e : SourceError} (hs : ¬['\\', '\n'] <:+: source)
    (h : tokenize source = .error e) :
    let ps := (pieces source).1
    (∃ c cs, source = ps.flatMap Piece.text ++ c :: cs ∧ OpensUnclosed c cs ∧
      e = .unterminatedString (1 + (ps.flatMap Piece.text).count '\n')) ∨
    (∃ cs, source = ps.flatMap Piece.text ++ '/' :: '*' :: cs ∧ ¬['*', '/'] <:+: cs ∧
      e = .unterminatedComment (1 + (ps.flatMap Piece.text).count '\n')) ∨
    (∃ before b c rest, source = before.flatMap Piece.text ++ c :: rest ∧
      (c = b.closer ∧ Mismatched ps before b ∨ c = b.opener ∧ LeftOpen ps before b) ∧
      e = .unbalancedBracket (1 + (before.flatMap Piece.text).count '\n') c) := by
  intro ps
  have count {before : List Piece} (hb : before <+: ps) :
      lineBehind 1 before = 1 + (before.flatMap Piece.text).count '\n' :=
    lineBehind_eq_count fun p hp => spansLines_of_mem_pieces hs (hb.subset hp)
  obtain ⟨before, b, rest, ht, hm, he⟩ | ⟨u, hu, he⟩ | ⟨before, b, rest, ht, hl, _, he⟩ |
    ⟨_, _, _, he⟩ := tokenize_cases source
  all_goals cases h.symm.trans he
  case inl =>
    have ⟨_, _, hp, _⟩ := hm
    rw [count ⟨_, hp.symm⟩]
    exact .inr (.inr ⟨before, b, _, rest, ht, .inl ⟨rfl, hm⟩, rfl⟩)
  case inr.inl =>
    have ⟨c, cs, ht, hf⟩ := exists_unclosed hu
    rw [count List.prefix_rfl]
    obtain ⟨rfl, rfl, ds, rfl, hn⟩ | ⟨rfl, ho⟩ := Piece.first_eq_error hf
    · exact .inr (.inl ⟨ds, ht, hn, rfl⟩)
    · exact .inl ⟨c, cs, ht, ho, rfl⟩
  case inr.inr.inl =>
    have ⟨_, _, hp, _⟩ := hl
    rw [count ⟨_, hp.symm⟩]
    exact .inr (.inr ⟨before, b, _, rest, ht, .inr ⟨rfl, hl⟩, rfl⟩)

theorem tokenize_fault_lines_mixed :
    let source := "/*\n*/ `\n` // (\n\"x".toList
    ¬['\\', '\n'] <:+: source ∧
    tokenize source = .error (.unterminatedString 4) ∧
    ∃ c cs, source = (pieces source).1.flatMap Piece.text ++ c :: cs ∧ OpensUnclosed c cs ∧
      4 = 1 + ((pieces source).1.flatMap Piece.text).count '\n' := by
  intro source
  have hs : ¬['\\', '\n'] <:+: source := by decide
  have he : tokenize source = .error (.unterminatedString 4) := by
    simp only [source]
    cbv
  obtain ⟨c, cs, ht, ho, hl⟩ | ⟨_, _, _, hl⟩ | ⟨_, _, _, _, _, _, hl⟩ := tokenize_fault_lines hs he
  · exact ⟨hs, he, c, cs, ht, ho, SourceError.unterminatedString.inj hl⟩
  · cases hl
  · cases hl

end

end ColumnConstants
