import ColumnConstants.Proofs.Characters
import ColumnConstants.Source.StringLiteral

namespace ColumnConstants

def isWord : List Char → Bool
  | [] => false
  | c :: cs => startsWord c && cs.all continuesWord

def isNumber : List Char → Bool
  | [] => false
  | c :: cs => startsNumber c && cs.all continuesNumber

-- Whether a character stands for itself, wherever it stands. A slash may start a comment.
def isPlainMark (c : Char) : Bool :=
  !isBlank c && c ∉ ['/', '\x60', '"', '\''] && !startsWord c && !startsNumber c

theorem continuesWord_of_isWord {t : List Char} (h : isWord t = true) :
    ∀ c ∈ t, continuesWord c = true := by
  cases t
  case nil => simp
  case cons c t =>
    have ⟨hc, ht⟩ : startsWord c = true ∧ ∀ d ∈ t, continuesWord d = true := by
      simpa [isWord] using h
    simpa [continuesWord_of_startsWord hc] using ht

theorem not_mem_lineBreak_of_isWord {t : List Char} (h : isWord t = true) : '\n' ∉ t := fun hm =>
  absurd (continuesWord_of_isWord h '\n' hm) (by decide)

theorem isWord_append {t u : List Char} (ht : isWord t = true)
    (hu : ∀ c ∈ u, continuesWord c = true) : isWord (t ++ u) = true := by
  cases t
  case nil => simp [isWord] at ht
  case cons c t =>
    simp only [isWord, Bool.and_eq_true, List.all_eq_true] at ht
    simp only [isWord, List.cons_append, List.all_append, Bool.and_eq_true, List.all_eq_true]
    exact ⟨ht.1, ht.2, hu⟩

theorem span_append {p : Char → Bool} {t rest : List Char} (ht : ∀ d ∈ t, p d = true)
    (hr : ∀ d ∈ rest.head?, p d = false) :
    (t ++ rest).takeWhile p = t ∧ (t ++ rest).dropWhile p = rest := by
  rw [List.takeWhile_append_of_pos ht, List.dropWhile_append_of_pos ht]
  cases rest
  case nil => simp
  case cons d rest => simp [hr d rfl]

namespace Piece

variable {c d : Char} {t cs rest more : List Char} {p : Piece}

theorem closeComment_cons :
    closeComment (c :: cs) =
      if c = '*' ∧ cs.head? = some '/' then some ([], cs.tail)
      else (closeComment cs).map fun (t, rest) => (c :: t, rest) := by
  split
  case isTrue hc =>
    have ⟨cs, hcs⟩ := List.head?_eq_some_iff.mp hc.2
    rw [hc.1, hcs]
    rfl
  case isFalse hc =>
    rw [closeComment]
    rintro rest rfl rfl
    exact hc ⟨rfl, rfl⟩

theorem closeQuote_cons {quote : Char} (h : c ≠ '\\') :
    closeQuote quote (c :: cs) =
      if c = '\n' then none
      else if c = quote then some ([], cs)
      else (closeQuote quote cs).map fun (t, rest) => (c :: t, rest) := by
  by_cases hn : c = '\n'
  case pos =>
    subst hn
    rfl
  case neg => simp [closeQuote, h, hn]

theorem closeComment_append (h : closeComment cs = some (t, rest)) :
    closeComment (cs ++ more) = some (t, rest ++ more) := by
  induction cs generalizing t with
  | nil => cases h
  | cons c cs ih =>
    cases cs
    case nil => simp [closeComment_cons, closeComment] at h
    case cons d cs =>
      rw [List.cons_append, closeComment_cons]
      rw [closeComment_cons] at h
      by_cases hc : c = '*' ∧ d = '/'
      case pos => simp_all
      case neg =>
        simp only [List.head?_cons, Option.some.injEq, hc, ↓reduceIte] at h
        obtain ⟨⟨u, r⟩, hu, he⟩ := Option.map_eq_some_iff.mp h
        cases he
        rw [ih hu]
        simp [hc]

theorem closeRaw_append_of_eq_some (h : closeRaw cs = some (t, rest)) :
    closeRaw (cs ++ more) = some (t, rest ++ more) := by
  fun_induction closeRaw cs generalizing t with
  | case1 =>
    cases h
    rfl
  | case2 c cs hc ih =>
    obtain ⟨⟨u, r⟩, hu, he⟩ := Option.map_eq_some_iff.mp h
    cases he
    simp [closeRaw, ih hu]
  | case3 => cases h

theorem closeQuote_append {quote : Char} (h : closeQuote quote cs = some (t, rest)) :
    closeQuote quote (cs ++ more) = some (t, rest ++ more) := by
  fun_induction closeQuote quote cs generalizing t with
  | case1 c cs ih =>
    obtain ⟨⟨u, r⟩, hu, he⟩ := Option.map_eq_some_iff.mp h
    cases he
    simp [closeQuote, ih hu]
  | case2 => cases h
  | case3 => cases h
  | case4 cs hb hbn hn =>
    cases h
    have hq : quote ≠ '\\' := fun hq => by cases rest <;> simp_all
    rw [List.cons_append, closeQuote_cons hq, if_neg hn, if_pos rfl]
  | case5 c cs hb hbn hn hq ih =>
    obtain ⟨⟨u, r⟩, hu, he⟩ := Option.map_eq_some_iff.mp h
    cases he
    have hc : c ≠ '\\' := fun hc => by cases cs <;> simp_all
    rw [List.cons_append, closeQuote_cons hc, if_neg hn, if_neg hq, ih hu]
    rfl
  | case6 => cases h

theorem closeQuote_spells {c : Char} {cs : List Char} (h : StringLiteral.Spells cs c)
    (ds : List Char) :
    closeQuote '"' (cs ++ ds) = (closeQuote '"' ds).map fun (t, rest) => (cs ++ t, rest) := by
  cases h
  case escape => rfl
  case plain hq hb hn => simp [closeQuote_cons hb, hq, hn]

-- No quote ends a literal in front of its own, if the text of the literal is written character by
-- character.
theorem closeQuote_flatMap {spell : Char → List Char} (h : ∀ c, StringLiteral.Spells (spell c) c)
    (cs rest : List Char) :
    closeQuote '"' (cs.flatMap spell ++ '"' :: rest) = some (cs.flatMap spell, rest) := by
  induction cs with
  | nil => rfl
  | cons c cs ih => simp [closeQuote_spells (h c), ih]

def Fits (p : Piece) (rest : List Char) : Prop :=
  ∃ c cs, p.text ++ rest = c :: cs ∧ first c cs = .ok (p, rest)

theorem fits_lineBreak : Fits lineBreak rest :=
  ⟨'\n', rest, rfl, rfl⟩

theorem fits_blank (h : isBlank c = true) (hn : c ≠ '\n') : Fits (blank c) rest :=
  ⟨c, rest, rfl, by simp [first, h, hn]⟩

theorem fits_lineComment (ht : '\n' ∉ t) (hr : ∀ d ∈ rest.head?, d = '\n') :
    Fits (lineComment t) rest := by
  refine ⟨'/', '/' :: t ++ rest, rfl, ?_⟩
  have hb : isBlank '/' = false := by decide
  have ht : ∀ d ∈ t, decide (d ≠ '\n') = true := by
    intro d hd
    simpa using ne_of_mem_of_not_mem hd ht
  have hr : ∀ d ∈ rest.head?, decide (d ≠ '\n') = false := by simpa using hr
  simp only [first, hb, List.head?_cons, List.tail_cons, List.cons_append, span_append ht hr]
  simp

theorem closeRaw_append (h : '\x60' ∉ t) : closeRaw (t ++ '\x60' :: rest) = some (t, rest) := by
  induction t with
  | nil => rfl
  | cons c t ih =>
    have ⟨hc, ht⟩ : '\x60' ≠ c ∧ '\x60' ∉ t := by simpa using h
    simp [closeRaw, hc.symm, ih ht]

theorem fits_rawString (h : '\x60' ∉ t) : Fits (rawString t) rest := by
  refine ⟨'\x60', t ++ '\x60' :: rest, by simp [text], ?_⟩
  have hb : isBlank '\x60' = false := by decide
  simp [first, hb, closeRaw_append h, closing]

theorem fits_string (h : closeQuote '"' (t ++ '"' :: rest) = some (t, rest)) :
    Fits (string t) rest := by
  refine ⟨'"', t ++ '"' :: rest, by simp [text], ?_⟩
  have hb : isBlank '"' = false := by decide
  simp [first, hb, h, closing]

theorem first_of_startsWord (h : startsWord c = true) :
    first c cs = .ok (word (c :: cs.takeWhile continuesWord), cs.dropWhile continuesWord) := by
  have hb := isBlank_eq_false_of_startsWord h
  have hc (d : Char) (hd : startsWord d = false) : c ≠ d := by
    rintro rfl
    simp [h] at hd
  have h1 := hc '\n' (by decide)
  have h2 := hc '/' (by decide)
  have h3 := hc '\x60' (by decide)
  have h4 := hc '"' (by decide)
  have h5 := hc '\'' (by decide)
  simp [first, hb, h, h1, h2, h3, h4, h5]

theorem first_of_startsNumber (h : startsNumber c = true) :
    first c cs =
      .ok (number (c :: cs.takeWhile continuesNumber), cs.dropWhile continuesNumber) := by
  have hb := isBlank_eq_false_of_startsNumber h
  have hw := startsWord_eq_false_of_startsNumber h
  have hc (d : Char) (hd : startsNumber d = false) : c ≠ d := by
    rintro rfl
    simp [h] at hd
  have h1 := hc '\n' (by decide)
  have h2 := hc '/' (by decide)
  have h3 := hc '\x60' (by decide)
  have h4 := hc '"' (by decide)
  have h5 := hc '\'' (by decide)
  simp [first, hb, h, hw, h1, h2, h3, h4, h5]

theorem fits_word (h : isWord t = true) (hr : ∀ d ∈ rest.head?, continuesWord d = false) :
    Fits (word t) rest := by
  cases t
  case nil => simp [isWord] at h
  case cons c t =>
    obtain ⟨hc, ht⟩ : startsWord c = true ∧ ∀ d ∈ t, continuesWord d = true := by
      simpa [isWord] using h
    refine ⟨c, t ++ rest, rfl, ?_⟩
    rw [first_of_startsWord hc, (span_append ht hr).1, (span_append ht hr).2]

theorem fits_number (h : isNumber t = true) (hr : ∀ d ∈ rest.head?, continuesNumber d = false) :
    Fits (number t) rest := by
  cases t
  case nil => simp [isNumber] at h
  case cons c t =>
    obtain ⟨hc, ht⟩ : startsNumber c = true ∧ ∀ d ∈ t, continuesNumber d = true := by
      simpa [isNumber] using h
    refine ⟨c, t ++ rest, rfl, ?_⟩
    rw [first_of_startsNumber hc, (span_append ht hr).1, (span_append ht hr).2]

theorem fits_mark (h : isPlainMark c = true) : Fits (mark c) rest := by
  refine ⟨c, rest, rfl, ?_⟩
  have hn : c ≠ '\n' := by
    rintro rfl
    exact absurd h (by decide)
  simp only [isPlainMark, List.mem_cons, List.not_mem_nil, or_false, not_or, Bool.and_eq_true,
    Bool.not_eq_true', decide_eq_true_eq] at h
  simp [first, h, hn]

end Piece

-- Whether the pieces, written one after the other with `rest` behind them, are cut apart again.
def Apart : List Piece → List Char → Prop
  | [], _ => True
  | p :: ps, rest => p.Fits (ps.flatMap Piece.text ++ rest) ∧ Apart ps rest

@[simp]
theorem apart_nil {rest : List Char} : Apart [] rest :=
  trivial

@[simp]
theorem apart_cons {p : Piece} {ps : List Piece} {rest : List Char} :
    Apart (p :: ps) rest ↔ p.Fits (ps.flatMap Piece.text ++ rest) ∧ Apart ps rest :=
  Iff.rfl

@[simp]
theorem apart_append {ps qs : List Piece} {rest : List Char} :
    Apart (ps ++ qs) rest ↔ Apart ps (qs.flatMap Piece.text ++ rest) ∧ Apart qs rest := by
  induction ps with
  | nil => simp
  | cons p ps ih => simp [ih, and_assoc]

theorem text_blanks (n : Nat) :
    (List.replicate n (Piece.blank ' ')).flatMap Piece.text = List.replicate n ' ' := by
  induction n with
  | zero => rfl
  | succ n ih => simp [List.replicate_succ, ih, Piece.text]

theorem apart_blanks {n : Nat} {rest : List Char} : Apart (List.replicate n (.blank ' ')) rest := by
  induction n with
  | zero => exact apart_nil
  | succ n ih => exact ⟨Piece.fits_blank (by decide) (by decide), ih⟩

theorem fits_word_blank {t rest : List Char} (h : isWord t = true) :
    (Piece.word t).Fits (' ' :: rest) :=
  Piece.fits_word h (by simp; decide)

theorem apart_flatMap {α : Type} {f : α → List Piece} {xs : List α} {rest : List Char}
    (h : ∀ x ∈ xs, ∀ rest, Apart (f x) rest) : Apart (xs.flatMap f) rest := by
  induction xs with
  | nil => exact apart_nil
  | cons x xs ih =>
    rw [List.flatMap_cons, apart_append]
    exact ⟨h x List.mem_cons_self _, ih fun y hy => h y (List.mem_cons_of_mem x hy)⟩

theorem pieces_of_apart {ps : List Piece} {rest : List Char} (h : Apart ps rest) :
    pieces (ps.flatMap Piece.text ++ rest) = (ps ++ (pieces rest).1, (pieces rest).2) := by
  induction ps with
  | nil => rfl
  | cons p ps ih =>
    have ⟨⟨c, cs, ht, hf⟩, h⟩ := h
    rw [List.flatMap_cons, List.append_assoc, ht, pieces_of_ok hf, ih h]
    rfl

theorem apart_pieces {cs : List Char} (h : (pieces cs).2 = none) : Apart (pieces cs).1 [] := by
  fun_induction pieces cs with
  | case1 => exact apart_nil
  | case2 => simp at h
  | case3 c cs p rest hp ps unclosed hps ih =>
    rw [hps] at ih
    have ht : ps.flatMap Piece.text = rest := by
      have ht : (pieces rest).2 = none → (pieces rest).1.flatMap Piece.text = rest := text_pieces
      rw [hps] at ht
      exact ht h
    refine ⟨⟨c, cs, ?_, ?_⟩, ih h⟩
    · rw [List.append_nil, ht, Piece.text_append_of_first hp]
    · rw [List.append_nil, ht, hp]

end ColumnConstants
