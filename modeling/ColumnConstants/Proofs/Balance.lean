import Mathlib
import ColumnConstants.Proofs.Nested

namespace ColumnConstants

def Token.nesting : Token → Nesting
  | opening b => .opens b
  | closing b => .closes b
  | _ => .keeps

inductive ProperlyNested : List Nesting → Prop where
  | nil : ProperlyNested []
  | keeps {es : List Nesting} (h : ProperlyNested es) : ProperlyNested (.keeps :: es)
  | group {inner rest : List Nesting} (b : Bracket) (hi : ProperlyNested inner)
    (hr : ProperlyNested rest) : ProperlyNested (.opens b :: (inner ++ .closes b :: rest))

-- Whether all closers close groups, and the brackets `st` stay open, the innermost one first.
inductive LeavesOpen : List Nesting → List Bracket → Prop where
  | closed {es : List Nesting} (h : ProperlyNested es) : LeavesOpen es []
  | opens {es inner : List Nesting} {st : List Bracket} (b : Bracket) (h : LeavesOpen es st)
    (hi : ProperlyNested inner) : LeavesOpen (es ++ .opens b :: inner) (b :: st)

-- The pieces go on behind `before` with the closer of `b`, and `b` is not the innermost bracket that
-- is open there, while all closers in front of it fit.
def Mismatched (ps before : List Piece) (b : Bracket) : Prop :=
  ∃ after st, ps = before ++ .mark b.closer :: after ∧
    LeavesOpen (before.map Piece.nesting) st ∧ st.head? ≠ some b

-- The pieces go on behind `before` with the opener of `b`, and it is the last one that is not closed,
-- while all closers fit.
def LeftOpen (ps before : List Piece) (b : Bracket) : Prop :=
  ∃ inner st, ps = before ++ .mark b.opener :: inner ∧
    LeavesOpen (before.map Piece.nesting) st ∧ ProperlyNested (inner.map Piece.nesting)

def lineBehind (line : Nat) (ps : List Piece) : Nat :=
  line + (ps.map Piece.lines).sum

namespace ProperlyNested

variable {es fs : List Nesting}

theorem append (h : ProperlyNested es) (hf : ProperlyNested fs) : ProperlyNested (es ++ fs) := by
  induction h with
  | nil => exact hf
  | keeps _ ih => exact keeps ih
  | group b hi _ _ ihr =>
    rw [List.cons_append, List.append_assoc]
    exact group b hi ihr

end ProperlyNested

theorem properlyNested_of_keeps {es : List Nesting} (h : ∀ e ∈ es, e = .keeps) :
    ProperlyNested es := by
  induction es with
  | nil => exact .nil
  | cons e es ih =>
    have ⟨he, hs⟩ := List.forall_mem_cons.mp h
    subst he
    exact .keeps (ih hs)

namespace LeavesOpen

variable {es fs : List Nesting} {st : List Bracket} {b : Bracket}

theorem append (h : LeavesOpen es st) (hf : ProperlyNested fs) : LeavesOpen (es ++ fs) st := by
  cases h with
  | closed h => exact closed (h.append hf)
  | opens b h hi =>
    rw [List.append_assoc]
    exact opens b h (hi.append hf)

theorem closes (h : LeavesOpen es (b :: st)) : LeavesOpen (es ++ [.closes b]) st := by
  cases h with
  | opens _ h hi =>
    rw [List.append_assoc]
    exact h.append (.group b hi .nil)

end LeavesOpen

section

variable {line : Nat} {opened : List OpenBracket} {unclosed : Option Unclosed}
variable {p : Piece} {ps before after inner : List Piece} {st : List Bracket} {b : Bracket}

@[simp]
theorem lineBehind_nil : lineBehind line [] = line :=
  rfl

@[simp]
theorem lineBehind_cons : lineBehind line (p :: ps) = lineBehind (line + p.lines) ps := by
  simp [lineBehind, Nat.add_assoc]

@[simp]
theorem lineBehind_append : lineBehind line (before ++ ps) = lineBehind (lineBehind line before) ps := by
  simp [lineBehind, Nat.add_assoc]

@[simp]
theorem nesting_opener : (Piece.mark b.opener).nesting = .opens b := by
  simp [Piece.nesting, Nesting.ofChar]

@[simp]
theorem nesting_closer : (Piece.mark b.closer).nesting = .closes b := by
  simp [Piece.nesting, Nesting.ofChar]

theorem Nesting.ofChar_eq_opens {c : Char} (h : ofChar c = .opens b) : c = b.opener := by
  unfold ofChar at h
  split at h
  case h_1 ho =>
    cases h
    exact Bracket.opening?_eq_some_iff.mp ho
  all_goals cases h

theorem Nesting.ofChar_eq_closes {c : Char} (h : ofChar c = .closes b) : c = b.closer := by
  unfold ofChar at h
  split at h
  case h_2 hc =>
    cases h
    exact Bracket.closing?_eq_some_iff.mp hc
  all_goals cases h

theorem eq_opener_of_nesting (h : p.nesting = .opens b) : p = .mark b.opener := by
  cases p
  case mark c => exact congrArg Piece.mark (Nesting.ofChar_eq_opens h)
  all_goals cases h

theorem eq_closer_of_nesting (h : p.nesting = .closes b) : p = .mark b.closer := by
  cases p
  case mark c => exact congrArg Piece.mark (Nesting.ofChar_eq_closes h)
  all_goals cases h

theorem checkNesting_keeps (h : p.nesting = .keeps) :
    checkNesting line opened unclosed (p :: ps) =
      checkNesting (line + p.lines) opened unclosed ps := by
  simp [checkNesting, h]

theorem checkNesting_opener :
    checkNesting line opened unclosed (.mark b.opener :: ps) =
      checkNesting (line + (Piece.mark b.opener).lines) (⟨b, line⟩ :: opened) unclosed ps := by
  simp [checkNesting]

theorem checkNesting_closer {l : Nat} :
    checkNesting line (⟨b, l⟩ :: opened) unclosed (.mark b.closer :: ps) =
      checkNesting (line + (Piece.mark b.closer).lines) opened unclosed ps := by
  simp [checkNesting]

theorem checkNesting_mismatch (h : (opened.map OpenBracket.bracket).head? ≠ some b) :
    checkNesting line opened unclosed (.mark b.closer :: ps) =
      .error (.unbalancedBracket line b.closer) := by
  cases opened
  case nil => simp [checkNesting]
  case cons o opened =>
    have ho : o.bracket ≠ b := by simpa using h
    simp [checkNesting, ho]

-- Groups leave no trace but the lines that they take.
theorem checkNesting_of_properlyNested (h : ProperlyNested (before.map Piece.nesting)) :
    checkNesting line opened unclosed (before ++ ps) =
      checkNesting (lineBehind line before) opened unclosed ps := by
  generalize he : before.map Piece.nesting = es at h
  induction h generalizing before line opened ps with
  | nil =>
    cases List.map_eq_nil_iff.mp he
    rfl
  | keeps _ ih =>
    obtain ⟨p, before, rfl, hp, hb⟩ := List.map_eq_cons_iff.mp he
    rw [List.cons_append, checkNesting_keeps hp, ih hb, lineBehind_cons]
  | group b _ _ ihi ihr =>
    obtain ⟨p, rest, rfl, hp, he⟩ := List.map_eq_cons_iff.mp he
    obtain ⟨inner, outer, rfl, hi, he⟩ := List.map_eq_append_iff.mp he
    obtain ⟨q, outer, rfl, hq, ho⟩ := List.map_eq_cons_iff.mp he
    cases eq_opener_of_nesting hp
    cases eq_closer_of_nesting hq
    rw [List.cons_append, checkNesting_opener, List.append_assoc, ihi hi, List.cons_append,
      checkNesting_closer, ihr ho, lineBehind_cons, lineBehind_append, lineBehind_cons]

theorem exists_opened (line : Nat) (h : LeavesOpen (before.map Piece.nesting) st) :
    ∃ opened, opened.map OpenBracket.bracket = st ∧ ∀ unclosed ps,
      checkNesting line [] unclosed (before ++ ps) =
        checkNesting (lineBehind line before) opened unclosed ps := by
  generalize he : before.map Piece.nesting = es at h
  induction h generalizing before with
  | closed h => exact ⟨[], rfl, fun _ _ => checkNesting_of_properlyNested (he ▸ h)⟩
  | opens b _ hi ih =>
    obtain ⟨before, rest, rfl, hb, he⟩ := List.map_eq_append_iff.mp he
    obtain ⟨p, inner, rfl, hp, hm⟩ := List.map_eq_cons_iff.mp he
    cases eq_opener_of_nesting hp
    obtain ⟨opened, ho, hc⟩ := ih hb
    refine ⟨⟨b, lineBehind line before⟩ :: opened, by simp [ho], fun unclosed ps => ?_⟩
    rw [List.append_assoc, hc, List.cons_append, checkNesting_opener,
      checkNesting_of_properlyNested (hm ▸ hi), lineBehind_append, lineBehind_cons]

theorem checkNesting_of_mismatched (h : Mismatched ps before b) :
    checkNesting line [] unclosed ps =
      .error (.unbalancedBracket (lineBehind line before) b.closer) := by
  have ⟨after, st, hp, ho, hb⟩ := h
  have ⟨opened, he, hc⟩ := exists_opened line ho
  rw [hp, hc, checkNesting_mismatch (he ▸ hb)]

theorem checkNesting_of_leftOpen (h : LeftOpen ps before b) :
    checkNesting line [] none ps =
      .error (.unbalancedBracket (lineBehind line before) b.opener) := by
  have ⟨inner, st, hp, ho, hi⟩ := h
  have ⟨opened, _, hc⟩ := exists_opened line ho
  rw [hp, hc, checkNesting_opener, ← List.append_nil inner, checkNesting_of_properlyNested hi]
  rfl

theorem checkNesting_of_unclosed {u : Unclosed} (h : LeavesOpen (ps.map Piece.nesting) st) :
    checkNesting line [] (some u) ps = .error (u.error (lineBehind line ps)) := by
  have ⟨opened, _, hc⟩ := exists_opened line h
  rw [← List.append_nil ps, hc, List.append_nil]
  rfl

theorem Mismatched.append (h : Mismatched ps before b) (qs : List Piece) :
    Mismatched (ps ++ qs) before b := by
  have ⟨after, st, hp, ho, hb⟩ := h
  exact ⟨after ++ qs, st, by simp [hp], ho, hb⟩

theorem leavesOpen_or_mismatched (ps : List Piece) :
    (∃ st, LeavesOpen (ps.map Piece.nesting) st) ∨ ∃ before b, Mismatched ps before b := by
  induction ps using List.reverseRecOn with
  | nil => exact .inl ⟨[], .closed .nil⟩
  | append_singleton ps p ih =>
    cases ih
    case inr h =>
      have ⟨before, b, h⟩ := h
      exact .inr ⟨before, b, h.append [p]⟩
    case inl h =>
      have ⟨st, h⟩ := h
      rw [List.map_append, List.map_singleton]
      match hp : p.nesting with
      | .keeps => exact .inl ⟨st, h.append (.keeps .nil)⟩
      | .opens b => exact .inl ⟨b :: st, .opens b h .nil⟩
      | .closes b =>
        cases eq_closer_of_nesting hp
        by_cases hb : st.head? = some b
        case neg => exact .inr ⟨ps, b, [], st, rfl, h, hb⟩
        case pos =>
          obtain ⟨st, rfl⟩ := List.head?_eq_some_iff.mp hb
          exact .inl ⟨st, h.closes⟩

theorem properlyNested_or_leftOpen (h : LeavesOpen (ps.map Piece.nesting) st) :
    ProperlyNested (ps.map Piece.nesting) ∨ ∃ before b, LeftOpen ps before b := by
  generalize he : ps.map Piece.nesting = es at h ⊢
  cases h with
  | closed h => exact .inl h
  | @opens _ _ st b h hi =>
    obtain ⟨before, rest, rfl, rfl, hr⟩ := List.map_eq_append_iff.mp he
    obtain ⟨p, inner, rfl, hp, rfl⟩ := List.map_eq_cons_iff.mp hr
    cases eq_opener_of_nesting hp
    exact .inr ⟨before, b, inner, st, rfl, h, hi⟩

theorem nesting_of_token?_eq_none (h : p.token? = none) : p.nesting = .keeps := by
  cases p
  case mark => cases h
  all_goals rfl

theorem nesting_of_token?_eq_some {t : Token} (h : p.token? = some t) :
    t.nesting = p.nesting := by
  cases p
  case mark c =>
    cases h
    simp only [Token.ofMark, Piece.nesting]
    cases Nesting.ofChar c
    case opens | closes => rfl
    case keeps => by_cases hc : c = ';' <;> simp [hc, Token.nesting]
  case lineBreak | blank | lineComment | blockComment => cases h
  case word | number | string | rawString | rune =>
    cases h
    rfl

theorem filter_nesting_tokens {ready : Bool} :
    ((tokens ready ps).map Token.nesting).filter (· ≠ .keeps) =
      (ps.map Piece.nesting).filter (· ≠ .keeps) := by
  induction ps generalizing ready with
  | nil => cases ready <;> rfl
  | cons p ps ih =>
    unfold tokens
    split
    case h_1 t ht => simp only [List.map_cons, List.filter_cons, nesting_of_token?_eq_some ht, ih]
    case h_2 ht =>
      have hp := nesting_of_token?_eq_none ht
      split <;> simpa [hp, Token.nesting] using ih

end

theorem properlyNested_of_nested {ts : List Token} (h : Nested [] ts) :
    ProperlyNested (ts.map Token.nesting) := by
  match ts with
  | [] => exact .nil
  | .opening b :: ts =>
    obtain ⟨inner, outer, rfl, hi, ho⟩ := Nested.exists_closing (show Nested ([] ++ b :: []) ts from h)
    rw [List.map_cons, List.map_append, List.map_cons]
    exact .group b (properlyNested_of_nested hi) (properlyNested_of_nested ho)
  | .closing b :: ts =>
    have ⟨_, he, _⟩ := h
    cases he
  | .word _ :: ts | .string _ :: ts | .constant :: ts | .mark _ :: ts | .terminator :: ts =>
    have h : Nested [] ts := h
    exact .keeps (properlyNested_of_nested h)
termination_by ts.length

-- Where a text is cut, the pieces in front depend on the text in front, and those behind on the text
-- behind.
theorem exists_rest_of_prefix {source : List Char} {before : List Piece}
    (h : before <+: (pieces source).1) :
    ∃ rest, source = before.flatMap Piece.text ++ rest ∧
      pieces source = (before ++ (pieces rest).1, (pieces rest).2) := by
  induction before generalizing source with
  | nil => exact ⟨source, rfl, rfl⟩
  | cons p before ih =>
    match source with
    | [] => simp at h
    | c :: cs =>
      match hf : Piece.first c cs with
      | .error u => simp [pieces_of_error hf] at h
      | .ok (q, rest) =>
        have hp := pieces_of_ok hf
        rw [hp] at h ⊢
        obtain ⟨rfl, hb⟩ := List.cons_prefix_cons.mp h
        obtain ⟨rest', hr, hp'⟩ := ih hb
        refine ⟨rest', ?_, by rw [hp']; rfl⟩
        rw [List.flatMap_cons, List.append_assoc, ← hr, Piece.text_append_of_first hf]

section

variable {source : List Char} {before : List Piece} {c : Char}

theorem exists_text_of_mark {after : List Piece}
    (h : (pieces source).1 = before ++ .mark c :: after) :
    ∃ rest, source = before.flatMap Piece.text ++ c :: rest := by
  have hb : before ++ [.mark c] <+: (pieces source).1 := ⟨after, by simp [h]⟩
  have ⟨rest, hs, _⟩ := exists_rest_of_prefix hb
  exact ⟨rest, by simpa [Piece.text] using hs⟩

theorem tokenize_eq_error {e : SourceError}
    (h : checkNesting 1 [] (pieces source).2 (pieces source).1 = .error e) :
    tokenize source = .error e := by
  simp only [tokenize, h]
  rfl

theorem exists_tokenize_of_properlyNested (hu : (pieces source).2 = none)
    (h : ProperlyNested ((pieces source).1.map Piece.nesting)) :
    ∃ ts, tokenize source = .ok ts := by
  have hc : checkNesting 1 [] none (pieces source).1 = .ok () := by
    rw [← List.append_nil (pieces source).1, checkNesting_of_properlyNested h]
    rfl
  refine ⟨tokens false (pieces source).1, ?_⟩
  simp only [tokenize, hu, hc]
  rfl

theorem tokenize_cases (source : List Char) :
    (∃ before b rest, source = before.flatMap Piece.text ++ b.closer :: rest ∧
      Mismatched (pieces source).1 before b ∧
      tokenize source = .error (.unbalancedBracket (lineBehind 1 before) b.closer)) ∨
    (∃ u, (pieces source).2 = some u ∧
      tokenize source = .error (u.error (lineBehind 1 (pieces source).1))) ∨
    (∃ before b rest, source = before.flatMap Piece.text ++ b.opener :: rest ∧
      LeftOpen (pieces source).1 before b ∧ (pieces source).2 = none ∧
      tokenize source = .error (.unbalancedBracket (lineBehind 1 before) b.opener)) ∨
    ((pieces source).2 = none ∧ ProperlyNested ((pieces source).1.map Piece.nesting) ∧
      ∃ ts, tokenize source = .ok ts) := by
  obtain ⟨st, h⟩ | ⟨before, b, h⟩ := leavesOpen_or_mismatched (pieces source).1
  case inr =>
    have ⟨_, _, hp, _⟩ := h
    have ⟨rest, hs⟩ := exists_text_of_mark hp
    exact .inl ⟨before, b, rest, hs, h, tokenize_eq_error (checkNesting_of_mismatched h)⟩
  case inl =>
    refine .inr ?_
    cases hu : (pieces source).2
    case some u =>
      exact .inl ⟨u, rfl, tokenize_eq_error (hu ▸ checkNesting_of_unclosed h)⟩
    case none =>
      refine .inr ?_
      obtain hn | ⟨before, b, hb⟩ := properlyNested_or_leftOpen h
      case inr =>
        have ⟨_, _, hp, _⟩ := hb
        have ⟨rest, hs⟩ := exists_text_of_mark hp
        have he := tokenize_eq_error (hu ▸ checkNesting_of_leftOpen hb)
        exact .inl ⟨before, b, rest, hs, hb, rfl, he⟩
      case inl => exact .inr ⟨rfl, hn, exists_tokenize_of_properlyNested hu hn⟩

-- A text is accepted if and only if its brackets nest and it does not stop inside of a literal or a
-- comment, and then the brackets of its tokens are those of the text. A bracket is reported if and only
-- if it is the first closer that does not fit, or all closers fit and it is the last opener without one.
theorem tokenize_brackets (source : List Char) :
    (∀ ts, tokenize source = .ok ts →
      ProperlyNested (ts.map Token.nesting) ∧
      (ts.map Token.nesting).filter (· ≠ .keeps) =
        ((pieces source).1.map Piece.nesting).filter (· ≠ .keeps)) ∧
    (∀ line c, tokenize source = .error (.unbalancedBracket line c) ↔
      ∃ before b rest, source = before.flatMap Piece.text ++ c :: rest ∧
        line = lineBehind 1 before ∧
        (c = b.closer ∧ Mismatched (pieces source).1 before b ∨
          c = b.opener ∧ LeftOpen (pieces source).1 before b ∧ (pieces source).2 = none)) ∧
    ((∃ ts, tokenize source = .ok ts) ↔
      (pieces source).2 = none ∧ ProperlyNested ((pieces source).1.map Piece.nesting)) := by
  refine ⟨fun ts h => ?tokens, fun line c => ⟨fun h => ?reported, ?faulty⟩, fun h => ?accepted,
    fun h => exists_tokenize_of_properlyNested h.1 h.2⟩
  case tokens =>
    have ⟨_, ht, hn⟩ := tokenize_eq_ok_iff.mp h
    exact ⟨properlyNested_of_nested hn, ht ▸ filter_nesting_tokens⟩
  case reported =>
    obtain ⟨before, b, rest, hs, hm, he⟩ | ⟨u, _, he⟩ | ⟨before, b, rest, hs, hl, hu, he⟩ |
      ⟨_, _, _, he⟩ := tokenize_cases source
    · cases h.symm.trans he
      exact ⟨before, b, rest, hs, rfl, .inl ⟨rfl, hm⟩⟩
    · cases u <;> cases h.symm.trans he
    · cases h.symm.trans he
      exact ⟨before, b, rest, hs, rfl, .inr ⟨rfl, hl, hu⟩⟩
    · cases h.symm.trans he
  case faulty =>
    rintro ⟨before, b, _, _, rfl, ⟨rfl, hm⟩ | ⟨rfl, hl, hu⟩⟩
    · exact tokenize_eq_error (checkNesting_of_mismatched hm)
    · exact tokenize_eq_error (hu ▸ checkNesting_of_leftOpen hl)
  case accepted =>
    have ⟨ts, h⟩ := h
    obtain ⟨_, _, _, _, _, he⟩ | ⟨_, _, he⟩ | ⟨_, _, _, _, _, _, he⟩ | ⟨hu, hn, _⟩ :=
      tokenize_cases source
    case inr.inr.inr => exact ⟨hu, hn⟩
    all_goals cases h.symm.trans he

end

end ColumnConstants
