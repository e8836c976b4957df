import ColumnConstants.Outcome
import ColumnConstants.Source.Walk

namespace ColumnConstants

-- The brackets of the tokens close the open brackets `st`, the innermost one first, and all those
-- that they open themselves.
def Nested (st : List Bracket) : List Token → Prop
  | [] => st = []
  | .opening b :: ts => Nested (b :: st) ts
  | .closing b :: ts => ∃ st', st = b :: st' ∧ Nested st' ts
  | _ :: ts => Nested st ts

namespace Nested

variable {st : List Bracket} {b : Bracket} {t : Token} {ts us : List Token}

@[simp]
theorem nil_iff : Nested st [] ↔ st = [] :=
  Iff.rfl

@[simp]
theorem opening_iff : Nested st (.opening b :: ts) ↔ Nested (b :: st) ts :=
  Iff.rfl

@[simp]
theorem closing_iff : Nested st (.closing b :: ts) ↔ ∃ st', st = b :: st' ∧ Nested st' ts :=
  Iff.rfl

@[simp]
theorem word_iff {w : String} : Nested st (.word w :: ts) ↔ Nested st ts :=
  Iff.rfl

@[simp]
theorem string_iff {l : StringLiteral} : Nested st (.string l :: ts) ↔ Nested st ts :=
  Iff.rfl

@[simp]
theorem constant_iff : Nested st (.constant :: ts) ↔ Nested st ts :=
  Iff.rfl

@[simp]
theorem mark_iff {c : Char} : Nested st (.mark c :: ts) ↔ Nested st ts :=
  Iff.rfl

@[simp]
theorem terminator_iff : Nested st (.terminator :: ts) ↔ Nested st ts :=
  Iff.rfl

theorem ne_nil (h : Nested (b :: st) ts) : ts ≠ [] := by
  rintro rfl
  cases h

theorem tail (h : Nested st (t :: ts)) : ∃ st', Nested st' ts := by
  cases t
  case opening b => exact ⟨b :: st, h⟩
  case closing =>
    have ⟨st', _, h⟩ := h
    exact ⟨st', h⟩
  all_goals exact ⟨st, h⟩

theorem suffix (h : Nested st ts) (hs : us <:+ ts) : ∃ st', Nested st' us := by
  have ⟨front, hf⟩ := hs
  induction front generalizing st ts with
  | nil =>
    simp only [List.nil_append] at hf
    exact ⟨st, hf ▸ h⟩
  | cons t front ih =>
    subst hf
    have ⟨st', h⟩ := h.tail
    exact ih h (List.suffix_append front us) rfl

theorem skipTerminators (h : Nested st ts) : Nested st (skipTerminators ts) := by
  induction ts with
  | nil => exact h
  | cons t ts ih =>
    by_cases ht : t = .terminator
    case pos =>
      subst ht
      simpa [ColumnConstants.skipTerminators] using ih h
    case neg => simpa [ColumnConstants.skipTerminators, ht] using h

theorem append_iff {pre : List Bracket} (h : Nested pre ts) :
    Nested (pre ++ st) (ts ++ us) ↔ Nested st us := by
  induction ts generalizing pre with
  | nil =>
    rw [nil_iff.mp h]
    rfl
  | cons t ts ih =>
    cases t
    case closing b =>
      obtain ⟨pre, rfl, h⟩ := h
      simp [ih h]
    all_goals exact ih h

theorem append {pre : List Bracket} (h : Nested pre ts) (hu : Nested st us) :
    Nested (pre ++ st) (ts ++ us) :=
  h.append_iff.mpr hu

-- The tokens determine which brackets they close.
theorem unique {st' : List Bracket} (h : Nested st ts) (h' : Nested st' ts) : st = st' := by
  induction ts generalizing st st' with
  | nil => rw [nil_iff.mp h, nil_iff.mp h']
  | cons t ts ih =>
    cases t
    case opening b => exact (List.cons.inj (ih h h')).2
    case closing b =>
      obtain ⟨st, rfl, h⟩ := h
      obtain ⟨st', rfl, h'⟩ := h'
      rw [ih h h']
    all_goals exact ih h h'

theorem of_append (h : Nested st (ts ++ us)) (hu : Nested [] us) : Nested st ts := by
  induction ts generalizing st with
  | nil => exact h.unique hu
  | cons t ts ih =>
    cases t
    case closing b =>
      have ⟨st', he, h⟩ := h
      exact ⟨st', he, ih h⟩
    all_goals exact ih h

-- No end of a block that reaches behind the block nests.
theorem eq_nil_of_suffix (h : Nested [] ts) (hs : us <:+ ts ++ [.closing b]) (hu : Nested [] us) :
    us = [] := by
  cases List.suffix_concat_iff.mp hs
  case inl hn => exact hn
  case inr hs =>
    obtain ⟨vs, rfl, hv⟩ := hs
    have ⟨st, hv⟩ := h.suffix hv
    have hb : Nested (st ++ [b]) (vs ++ [.closing b]) := hv.append ⟨[], rfl, rfl⟩
    simpa using hu.unique hb

theorem exists_closing {pre : List Bracket} (h : Nested (pre ++ b :: st) ts) :
    ∃ inner outer, ts = inner ++ .closing b :: outer ∧ Nested pre inner ∧ Nested st outer := by
  induction ts generalizing pre with
  | nil => simp at h
  | cons t ts ih =>
    cases t
    case opening b' =>
      obtain ⟨inner, outer, rfl, hi, ho⟩ := ih (show Nested (b' :: pre ++ b :: st) ts from h)
      exact ⟨.opening b' :: inner, outer, rfl, hi, ho⟩
    case closing b' =>
      have ⟨st', he, h⟩ := h
      cases pre
      case nil =>
        cases he
        exact ⟨[], ts, rfl, rfl, h⟩
      case cons p pre =>
        cases he
        obtain ⟨inner, outer, rfl, hi, ho⟩ := ih h
        exact ⟨.closing b' :: inner, outer, rfl, ⟨pre, rfl, hi⟩, ho⟩
    all_goals
      obtain ⟨inner, outer, rfl, hi, ho⟩ := ih h
      exact ⟨_ :: inner, outer, rfl, hi, ho⟩

end Nested

theorem nested_flatMap_append {α : Type} {f : α → List Token} {xs : List α} {st : List Bracket}
    {us : List Token} (h : ∀ x vs, Nested st (f x ++ vs) ↔ Nested st vs) :
    Nested st (xs.flatMap f ++ us) ↔ Nested st us := by
  induction xs with
  | nil => rfl
  | cons x xs ih => rw [List.flatMap_cons, List.append_assoc, h, ih]

theorem nested_ofMark_iff {st : List Bracket} {c : Char} {ts : List Token} :
    Nested st (Token.ofMark c :: ts) ↔
      match Nesting.ofChar c with
      | .opens b => Nested (b :: st) ts
      | .closes b => ∃ st', st = b :: st' ∧ Nested st' ts
      | .keeps => Nested st ts := by
  unfold Token.ofMark
  cases Nesting.ofChar c
  case opens | closes => rfl
  case keeps => by_cases h : c = ';' <;> simp [h]

theorem nested_tokens_congr {st : List Bracket} {ps : List Piece} {r₁ r₂ : Bool} :
    Nested st (tokens r₁ ps) ↔ Nested st (tokens r₂ ps) := by
  induction ps generalizing r₁ r₂ with
  | nil => cases r₁ <;> cases r₂ <;> simp [tokens]
  | cons p ps ih =>
    unfold tokens
    split
    case h_1 => rfl
    case h_2 => split <;> split <;> exact ih

theorem nested_tokens_cons_of_token?_eq_none {st : List Bracket} {p : Piece} {ps : List Piece}
    {ready : Bool} (h : p.token? = none) :
    Nested st (tokens ready (p :: ps)) ↔ Nested st (tokens ready ps) := by
  simp only [tokens, h]
  split
  · exact nested_tokens_congr
  · rfl

-- A text that does not stop inside of a literal or a comment is free of faults if and only if its
-- tokens nest.
theorem checkNesting_eq_ok_iff {line : Nat} {opened : List OpenBracket} {ps : List Piece}
    {ready : Bool} :
    checkNesting line opened none ps = .ok () ↔
      Nested (opened.map OpenBracket.bracket) (tokens ready ps) := by
  induction ps generalizing line opened ready with
  | nil => cases opened <;> cases ready <;> simp [checkNesting, tokens]
  | cons p ps ih =>
    cases p
    case mark c =>
      have ht : tokens ready (.mark c :: ps) =
          .ofMark c :: tokens (Token.ofMark c).endsStatement ps := rfl
      simp only [ht, nested_ofMark_iff, checkNesting, Piece.nesting]
      cases Nesting.ofChar c
      case opens b => exact ih
      case closes b =>
        cases opened
        case nil => simp
        case cons o opened =>
          by_cases ho : o.bracket = b
          case pos => simpa [ho] using ih
          case neg => simp [ho]
      case keeps => exact ih
    case lineBreak | blank | lineComment | blockComment =>
      rw [nested_tokens_cons_of_token?_eq_none rfl]
      exact ih
    case word | number | string | rawString | rune => exact ih

theorem unclosed_eq_none_of_checkNesting {line : Nat} {opened : List OpenBracket}
    {unclosed : Option Unclosed} {ps : List Piece}
    (h : checkNesting line opened unclosed ps = .ok ()) : unclosed = none := by
  induction ps generalizing line opened with
  | nil =>
    cases unclosed
    case none => rfl
    case some => simp [checkNesting] at h
  | cons p ps ih =>
    unfold checkNesting at h
    split at h
    case h_1 | h_3 => exact ih h
    case h_2 =>
      split at h
      case h_1 =>
        split at h
        case isTrue => exact ih h
        case isFalse => cases h
      case h_2 => cases h

theorem tokenize_eq_ok_iff {source : List Char} {ts : List Token} :
    tokenize source = .ok ts ↔
      (pieces source).2 = none ∧ tokens false (pieces source).1 = ts ∧ Nested [] ts := by
  unfold tokenize
  constructor
  case mp =>
    intro h
    have ⟨_, hc, ht⟩ := bind_eq_ok.mp h
    have hu := unclosed_eq_none_of_checkNesting hc
    injection ht with ht
    have hn : Nested (List.map OpenBracket.bracket []) (tokens false (pieces source).1) :=
      checkNesting_eq_ok_iff.mp (hu ▸ hc)
    exact ⟨hu, ht, ht ▸ hn⟩
  case mpr =>
    intro ⟨hu, ht, hn⟩
    subst ht
    have hc : checkNesting 1 [] (pieces source).2 (pieces source).1 = .ok () :=
      hu ▸ checkNesting_eq_ok_iff.mpr hn
    exact bind_eq_ok.mpr ⟨(), hc, rfl⟩

theorem nested_of_tokenize {source : List Char} {ts : List Token} (h : tokenize source = .ok ts) :
    Nested [] ts :=
  (tokenize_eq_ok_iff.mp h).2.2

end ColumnConstants
