import Mathlib
import ColumnConstants.Proofs.Balance
import ColumnConstants.Proofs.Naming

namespace ColumnConstants

inductive Passes (stops : List Char) : List Char → Prop where
  | nil : Passes stops []
  | plain {c : Char} {t : List Char} (hc : c ∉ stops) (hb : c ≠ '\\') (h : Passes stops t) :
    Passes stops (c :: t)
  | escape {t : List Char} (c : Char) (h : Passes stops t) : Passes stops ('\\' :: c :: t)

-- Whether the text goes on up to a closing quote, without a line break on the way other than in
-- escapes.
def Closes (quote : Char) (cs : List Char) : Prop :=
  ∃ t rest, cs = t ++ quote :: rest ∧ Passes [quote, '\n'] t

def IsQuote (c : Char) : Prop :=
  c = '"' ∨ c = '\''

def Piece.quoted (quote : Char) (t : List Char) : Piece :=
  if quote = '"' then string t else rune t

section

variable {quote : Char} {stops t cs rest : List Char}

theorem Passes.mem_lineBreak_iff (h : Passes stops t) (hn : '\n' ∈ stops) :
    '\n' ∈ t ↔ ∃ u v, t = u ++ '\\' :: '\n' :: v ∧ Passes stops u := by
  constructor
  case mpr =>
    rintro ⟨u, v, rfl, _⟩
    simp
  case mp =>
    intro hm
    induction h with
    | nil => cases hm
    | @plain c t hc hb _ ih =>
      have hcn : '\n' ≠ c := fun he => hc (he ▸ hn)
      have ⟨u, v, hu, hp⟩ := ih ((List.mem_cons.mp hm).resolve_left hcn)
      exact ⟨c :: u, v, by simp [hu], .plain hc hb hp⟩
    | @escape t c _ ih =>
      by_cases hc : c = '\n'
      case pos => exact ⟨[], t, by rw [hc]; rfl, .nil⟩
      case neg =>
        have hm : '\n' ∈ t := by simpa [Ne.symm hc] using hm
        have ⟨u, v, hu, hp⟩ := ih hm
        exact ⟨'\\' :: c :: u, v, by simp [hu], .escape c hp⟩

namespace Piece

theorem closeQuote_of_passes (h : Passes [quote, '\n'] t) :
    closeQuote quote (t ++ cs) = (closeQuote quote cs).map fun (u, rest) => (t ++ u, rest) := by
  induction h with
  | nil => simp
  | @plain c _ hc hb _ ih =>
    have ⟨hq, hn⟩ : c ≠ quote ∧ c ≠ '\n' := by simpa using hc
    rw [List.cons_append, closeQuote_cons hb, if_neg hn, if_neg hq, ih, Option.map_map]
    rfl
  | escape c _ ih =>
    rw [List.cons_append, List.cons_append, closeQuote, ih, Option.map_map]
    rfl

theorem passes_of_closeQuote (h : closeQuote quote cs = some (t, rest)) :
    Passes [quote, '\n'] t := by
  fun_induction closeQuote quote cs generalizing t with
  | case1 c cs ih =>
    obtain ⟨⟨u, r⟩, hu, he⟩ := Option.map_eq_some_iff.mp h
    cases he
    exact .escape c (ih hu)
  | case2 | case3 | case6 => cases h
  | case4 =>
    cases h
    exact .nil
  | case5 c cs hb hbn hn hq ih =>
    obtain ⟨⟨u, r⟩, hu, he⟩ := Option.map_eq_some_iff.mp h
    cases he
    have hc : c ≠ '\\' := fun hc => by cases cs <;> simp_all
    have hn : c ≠ '\n' := fun hc => hn hc
    exact .plain (by simp [hq, hn]) hc (ih hu)

theorem closeQuote_eq_some_iff (hq : IsQuote quote) :
    closeQuote quote cs = some (t, rest) ↔
      cs = t ++ quote :: rest ∧ Passes [quote, '\n'] t := by
  constructor
  case mp => exact fun h => ⟨closeQuote_eq_some h, passes_of_closeQuote h⟩
  case mpr =>
    rintro ⟨rfl, h⟩
    rw [closeQuote_of_passes h]
    cases hq <;> subst quote <;> simp [closeQuote]

theorem closeQuote_eq_none_iff (hq : IsQuote quote) :
    closeQuote quote cs = none ↔ ¬Closes quote cs := by
  rw [Option.eq_none_iff_forall_ne_some]
  constructor
  case mp =>
    rintro h ⟨t, rest, hc⟩
    exact h (t, rest) ((closeQuote_eq_some_iff hq).mpr hc)
  case mpr =>
    rintro h ⟨t, rest⟩ he
    exact h ⟨t, rest, (closeQuote_eq_some_iff hq).mp he⟩

theorem closeQuote_lineBreak (h : Passes [quote] t) :
    closeQuote quote (t ++ '\n' :: rest) = none := by
  induction h with
  | nil => rfl
  | @plain c _ hc hb _ ih =>
    have hq : c ≠ quote := by simpa using hc
    rw [List.cons_append, closeQuote_cons hb, if_neg hq, ih]
    simp
  | escape c _ ih =>
    rw [List.cons_append, List.cons_append, closeQuote, ih]
    rfl

theorem first_quote (hq : IsQuote quote) :
    first quote cs = closing .literal (quoted quote) (closeQuote quote cs) := by
  cases hq
  case inl hq =>
    subst hq
    have hb : isBlank '"' = false := by decide
    simp only [first, hb]
    rfl
  case inr hq =>
    subst hq
    have hb : isBlank '\'' = false := by decide
    simp only [first, hb]
    rfl

end Piece

end

def Piece.spansLines : Piece → Bool
  | string t | rune t => '\n' ∈ t
  | _ => false

-- The reading of `source` comes to the opening quote of a literal behind the pieces `before`, and `cs`
-- follows the quote.
structure ReachesQuote (source : List Char) (before : List Piece) (quote : Char)
    (cs : List Char) : Prop where
  isQuote : IsQuote quote
  cut     : before <+: (pieces source).1
  text    : source = before.flatMap Piece.text ++ quote :: cs
  -- A closer that does not fit ends the reading.
  fits    : ∃ st, LeavesOpen (before.map Piece.nesting) st

section

variable {line : Nat} {source cs t rest : List Char} {quote : Char} {p : Piece}
variable {ps before : List Piece}

theorem Piece.lines_eq_count (h : p.spansLines = false) : p.lines = p.text.count '\n' := by
  cases p
  case string t | rune t =>
    have ht : '\n' ∉ t := by simpa [spansLines] using h
    simp [lines, text, List.count_eq_zero.mpr ht]
  all_goals rfl

theorem Piece.text_quoted (hq : IsQuote quote) :
    (quoted quote t).text = quote :: t ++ [quote] := by
  cases hq
  all_goals
    subst quote
    rfl

theorem Piece.spansLines_iff :
    p.spansLines = true ↔ ∃ quote t, IsQuote quote ∧ p = .quoted quote t ∧ '\n' ∈ t := by
  constructor
  case mp =>
    intro h
    cases p
    case string t => exact ⟨'"', t, .inl rfl, rfl, by simpa [spansLines] using h⟩
    case rune t => exact ⟨'\'', t, .inr rfl, rfl, by simpa [spansLines] using h⟩
    all_goals cases h
  case mpr =>
    rintro ⟨quote, t, hq, rfl, hm⟩
    cases hq
    all_goals
      subst quote
      exact decide_eq_true hm

-- The lines are counted by the line breaks, unless literals between quotes hide some of them.
theorem lineBehind_eq_count (h : ∀ p ∈ ps, p.spansLines = false) :
    lineBehind line ps = line + (ps.flatMap Piece.text).count '\n' := by
  induction ps generalizing line with
  | nil => rfl
  | cons p ps ih =>
    have ⟨hp, hs⟩ := List.forall_mem_cons.mp h
    rw [lineBehind_cons, ih hs, Piece.lines_eq_count hp, List.flatMap_cons, List.count_append,
      Nat.add_assoc]

theorem passes_of_mem_pieces (hq : IsQuote quote) (h : .quoted quote t ∈ (pieces source).1) :
    Passes [quote, '\n'] t := by
  have hw := whole_of_mem_pieces h
  cases hq
  all_goals
    subst quote
    exact Piece.passes_of_closeQuote hw

namespace ReachesQuote

variable (h : ReachesQuote source before quote cs)
include h

theorem pieces_eq :
    pieces source = (before ++ (pieces (quote :: cs)).1, (pieces (quote :: cs)).2) := by
  have ⟨rest, hs, hp⟩ := exists_rest_of_prefix h.cut
  have hr : rest = quote :: cs := List.append_cancel_left (hs.symm.trans h.text)
  rw [hp, hr]

theorem quoted_prefix (hc : cs = t ++ quote :: rest) (hp : Passes [quote, '\n'] t) :
    before ++ [.quoted quote t] <+: (pieces source).1 := by
  have hq := (Piece.closeQuote_eq_some_iff h.isQuote).mpr ⟨hc, hp⟩
  have hf : Piece.first quote cs = .ok (.quoted quote t, rest) := by
    rw [Piece.first_quote h.isQuote, hq]
    rfl
  rw [h.pieces_eq, pieces_of_ok hf]
  exact ⟨(pieces rest).1, by simp⟩

theorem pieces_of_not_closes (hc : ¬Closes quote cs) : pieces source = (before, some .literal) := by
  have hq := (Piece.closeQuote_eq_none_iff h.isQuote).mpr hc
  have hf : Piece.first quote cs = .error .literal := by
    rw [Piece.first_quote h.isQuote, hq]
    rfl
  rw [h.pieces_eq, pieces_of_error hf, List.append_nil]

theorem exists_quoted_prefix_iff :
    (∃ t, before ++ [.quoted quote t] <+: (pieces source).1) ↔ Closes quote cs := by
  constructor
  case mp =>
    rintro ⟨t, ht⟩
    by_contra hc
    rw [h.pieces_of_not_closes hc] at ht
    have hl := ht.length_le
    simp only [List.length_append, List.length_singleton] at hl
    omega
  case mpr =>
    rintro ⟨t, rest, hc, hp⟩
    exact ⟨t, h.quoted_prefix hc hp⟩

theorem tokenize_of_not_closes (hc : ¬Closes quote cs) :
    tokenize source = .error (.unterminatedString (lineBehind 1 before)) := by
  have ⟨_, ho⟩ := h.fits
  apply tokenize_eq_error
  rw [h.pieces_of_not_closes hc]
  exact checkNesting_of_unclosed ho

end ReachesQuote

theorem not_closes_of_lineBreak (hq : IsQuote quote) (h : Passes [quote] t) :
    ¬Closes quote (t ++ '\n' :: rest) :=
  (Piece.closeQuote_eq_none_iff hq).mp (Piece.closeQuote_lineBreak h)

theorem closes_append_iff (hq : IsQuote quote) (h : Passes [quote, '\n'] t) :
    Closes quote (t ++ cs) ↔ Closes quote cs := by
  rw [← not_iff_not, ← Piece.closeQuote_eq_none_iff hq, ← Piece.closeQuote_eq_none_iff hq,
    Piece.closeQuote_of_passes h, Option.map_eq_none_iff]

-- A literal between quotes has no line breaks but those in its escapes. A literal that is come to is
-- read if and only if it is closed without any other line break, and if not, the line of its opening
-- quote is reported.
theorem tokenize_quotes (source : List Char) :
    (∀ quote t, IsQuote quote → .quoted quote t ∈ (pieces source).1 →
      ('\n' ∈ t ↔ ∃ u v, t = u ++ '\\' :: '\n' :: v ∧ Passes [quote, '\n'] u)) ∧
    ∀ before quote cs, ReachesQuote source before quote cs →
      ((∃ t, before ++ [.quoted quote t] <+: (pieces source).1) ↔ Closes quote cs) ∧
      (¬Closes quote cs →
        tokenize source = .error (.unterminatedString (lineBehind 1 before))) ∧
      (∀ t rest, cs = t ++ '\n' :: rest → Passes [quote] t → ¬Closes quote cs) ∧
      (∀ t rest, cs = t ++ '\\' :: '\n' :: rest → Passes [quote, '\n'] t →
        (Closes quote cs ↔ Closes quote rest)) ∧
      ((∀ p ∈ before, p.spansLines = false) →
        lineBehind 1 before = 1 + (before.flatMap Piece.text).count '\n') := by
  refine ⟨fun quote t hq h => ?escaped, fun before quote cs h => ⟨h.exists_quoted_prefix_iff,
    h.tokenize_of_not_closes, fun t rest hc hp => ?plain, fun t rest hc hp => ?goesOn,
    lineBehind_eq_count⟩⟩
  case escaped => exact (passes_of_mem_pieces hq h).mem_lineBreak_iff (by simp)
  case plain =>
    rw [hc]
    exact not_closes_of_lineBreak h.isQuote hp
  case goesOn =>
    rw [hc, closes_append_iff h.isQuote hp]
    exact closes_append_iff h.isQuote (.escape '\n' .nil)

theorem tokenize_quotes_backslashes :
    let source := "x = `\n`\n\"a\\\\\n\"".toList
    let before : List Piece := [.word ['x'], .blank ' ', .mark '=', .blank ' ', .rawString ['\n'],
      .lineBreak]
    let cs := "a\\\\\n\"".toList
    ReachesQuote source before '"' cs ∧ ¬Closes '"' cs ∧
      tokenize source = .error (.unterminatedString 3) := by
  intro source before cs
  have h : ReachesQuote source before '"' cs := {
    isQuote := .inl rfl
    cut := by
      have hp : (pieces source).1 = before := by
        simp only [source]
        cbv
      exact hp ▸ List.prefix_rfl
    text := rfl
    fits := ⟨[], .closed (properlyNested_of_keeps (by decide))⟩ }
  obtain ⟨_, he, hn, _⟩ := (tokenize_quotes source).2 before '"' cs h
  have hp : Passes ['"'] "a\\\\".toList := .plain (by decide) (by decide) (.escape '\\' .nil)
  have hc := hn _ ['"'] rfl hp
  exact ⟨h, hc, he hc⟩

set_option maxRecDepth 4096 in
-- With a single backslash, the literal is read, and nothing is reported.
theorem quotes_span_lines :
    let source := "package p\nvar s = \"a\\\nb\"\n".toList
    let before : List Piece := [.word "package".toList, .blank ' ', .word ['p'], .lineBreak,
      .word "var".toList, .blank ' ', .word ['s'], .blank ' ', .mark '=', .blank ' ']
    let t := "a\\\nb".toList
    ReachesQuote source before '"' (t ++ ['"', '\n']) ∧ '\n' ∈ t ∧
      .quoted '"' t ∈ (pieces source).1 ∧
      tokenize source = .ok [.word "package", .word "p", .terminator, .word "var", .word "s",
        .mark '=', .string (.interpreted t), .terminator] ∧
      SourceFile.ofText source = .ok ⟨"p", []⟩ := by
  intro source before t
  have hp : (pieces source).1 = before ++ [.quoted '"' t, .lineBreak] := by
    simp only [source, before, t]
    cbv
  have ht : tokenize source = .ok [.word "package", .word "p", .terminator, .word "var", .word "s",
      .mark '=', .string (.interpreted t), .terminator] := by
    simp only [source, t]
    cbv
  have hf : SourceFile.ofText source = .ok ⟨"p", []⟩ := by
    simp only [source]
    cbv
  have hk : ProperlyNested (before.map Piece.nesting) := properlyNested_of_keeps (by decide)
  exact ⟨⟨.inl rfl, ⟨_, hp.symm⟩, rfl, [], .closed hk⟩, by decide, by simp [hp], ht, hf⟩

end

end ColumnConstants
