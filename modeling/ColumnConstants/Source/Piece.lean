import ColumnConstants.Text.Numeric
import ColumnConstants.Text.Blank

namespace ColumnConstants

inductive Piece where
  | lineBreak
  | blank (c : Char)
  | lineComment (text : List Char)
  | blockComment (text : List Char)
  | rawString (text : List Char)
  | string (text : List Char)
  | rune (text : List Char)
  | word (text : List Char)
  | number (text : List Char)
  | mark (c : Char)
  deriving DecidableEq, Repr

inductive Unclosed where
  | comment
  | literal
  deriving DecidableEq, Repr

def startsWord (c : Char) : Bool :=
  isAlphabetic c || c = '_'

def continuesWord (c : Char) : Bool :=
  isAlphanumeric c || c = '_'

def startsNumber (c : Char) : Bool :=
  c.isDigit

def continuesNumber (c : Char) : Bool :=
  continuesWord c || c = '.'

namespace Piece

def text : Piece → List Char
  | lineBreak => ['\n']
  | blank c => [c]
  | lineComment t => '/' :: '/' :: t
  | blockComment t => '/' :: '*' :: t ++ ['*', '/']
  | rawString t => '\x60' :: t ++ ['\x60']
  | string t => '"' :: t ++ ['"']
  | rune t => '\'' :: t ++ ['\'']
  | word t => t
  | number t => t
  | mark c => [c]

def isGap : Piece → Bool
  | lineBreak | blank _ | lineComment _ | blockComment _ => true
  | _ => false

def breaksLine (p : Piece) : Bool :=
  p.isGap && '\n' ∈ p.text

-- How many lines further the text behind the piece is.
-- A line break inside a string or rune literal can only stand behind a backslash. It is then part
-- of an escape and starts no new line.
def lines : Piece → Nat
  | string _ | rune _ => 0
  | p => p.text.count '\n'

def closeComment : List Char → Option (List Char × List Char)
  | '*' :: '/' :: rest => some ([], rest)
  | c :: rest => (closeComment rest).map fun (t, rest) => (c :: t, rest)
  | [] => none

def closeRaw : List Char → Option (List Char × List Char)
  | '\x60' :: rest => some ([], rest)
  | c :: rest => (closeRaw rest).map fun (t, rest) => (c :: t, rest)
  | [] => none

-- The text of a literal up to its closing `quote` on the same line, and what follows that.
-- The character behind a backslash is taken as it comes, whether it is a quote, a backslash or even
-- a line break. A line break that no backslash precedes ends the search.
def closeQuote (quote : Char) : List Char → Option (List Char × List Char)
  | '\\' :: c :: rest => (closeQuote quote rest).map fun (t, rest) => ('\\' :: c :: t, rest)
  | '\\' :: [] => none
  | '\n' :: _ => none
  | c :: rest =>
    if c = quote then some ([], rest)
    else (closeQuote quote rest).map fun (t, rest) => (c :: t, rest)
  | [] => none

def closing (unclosed : Unclosed) (make : List Char → Piece) :
    Option (List Char × List Char) → Except Unclosed (Piece × List Char)
  | some (t, rest) => .ok (make t, rest)
  | none => .error unclosed

def first (c : Char) (cs : List Char) : Except Unclosed (Piece × List Char) :=
  if c = '\n' then .ok (lineBreak, cs)
  else if isBlank c then .ok (blank c, cs)
  else if c = '/' ∧ cs.head? = some '/' then
    .ok (lineComment (cs.tail.takeWhile (· ≠ '\n')), cs.tail.dropWhile (· ≠ '\n'))
  else if c = '/' ∧ cs.head? = some '*' then closing .comment blockComment (closeComment cs.tail)
  else if c = '\x60' then closing .literal rawString (closeRaw cs)
  else if c = '"' then closing .literal string (closeQuote '"' cs)
  else if c = '\'' then closing .literal rune (closeQuote '\'' cs)
  else if startsWord c then
    .ok (word (c :: cs.takeWhile continuesWord), cs.dropWhile continuesWord)
  else if startsNumber c then
    .ok (number (c :: cs.takeWhile continuesNumber), cs.dropWhile continuesNumber)
  else .ok (mark c, cs)

theorem closeComment_eq_some {cs t rest : List Char} (h : closeComment cs = some (t, rest)) :
    cs = t ++ '*' :: '/' :: rest := by
  fun_induction closeComment cs generalizing t with
  | case1 => simp_all
  | case2 c cs _ ih =>
    have ⟨⟨u, r⟩, hu, he⟩ := Option.map_eq_some_iff.mp h
    cases he
    simp [ih hu]
  | case3 => simp at h

theorem closeRaw_eq_some {cs t rest : List Char} (h : closeRaw cs = some (t, rest)) :
    cs = t ++ '\x60' :: rest := by
  fun_induction closeRaw cs generalizing t with
  | case1 => simp_all
  | case2 c cs _ ih =>
    have ⟨⟨u, r⟩, hu, he⟩ := Option.map_eq_some_iff.mp h
    cases he
    simp [ih hu]
  | case3 => simp at h

theorem closeQuote_eq_some {quote : Char} {cs t rest : List Char}
    (h : closeQuote quote cs = some (t, rest)) : cs = t ++ quote :: rest := by
  fun_induction closeQuote quote cs generalizing t with
  | case1 c cs ih =>
    have ⟨⟨u, r⟩, hu, he⟩ := Option.map_eq_some_iff.mp h
    cases he
    simp [ih hu]
  | case2 => simp at h
  | case3 => simp at h
  | case4 => simp_all
  | case5 c cs _ _ _ _ ih =>
    have ⟨⟨u, r⟩, hu, he⟩ := Option.map_eq_some_iff.mp h
    cases he
    simp [ih hu]
  | case6 => simp at h

theorem closing_eq_ok {unclosed : Unclosed} {make : List Char → Piece}
    {o : Option (List Char × List Char)} {p : Piece} {rest : List Char}
    (h : closing unclosed make o = .ok (p, rest)) : ∃ t, o = some (t, rest) ∧ p = make t := by
  match o with
  | some (t, r) =>
    cases h
    exact ⟨t, rfl, rfl⟩
  | none => cases h

theorem text_append_of_first {c : Char} {cs rest : List Char} {p : Piece}
    (h : first c cs = .ok (p, rest)) : p.text ++ rest = c :: cs := by
  unfold first at h
  split at h
  case isTrue hc => cases h; simp [text, hc]
  split at h
  case isTrue => cases h; simp [text]
  split at h
  case isTrue hc =>
    have ⟨cs, hcs⟩ := List.head?_eq_some_iff.mp hc.2
    cases h
    simp [text, hc.1, hcs]
  split at h
  case isTrue hc =>
    have ⟨cs, hcs⟩ := List.head?_eq_some_iff.mp hc.2
    have ⟨t, ht, hp⟩ := closing_eq_ok h
    rw [hcs, List.tail_cons] at ht
    simp [text, hp, hc.1, hcs, closeComment_eq_some ht]
  split at h
  case isTrue hc =>
    have ⟨t, ht, hp⟩ := closing_eq_ok h
    simp [text, hp, hc, closeRaw_eq_some ht]
  split at h
  case isTrue hc =>
    have ⟨t, ht, hp⟩ := closing_eq_ok h
    simp [text, hp, hc, closeQuote_eq_some ht]
  split at h
  case isTrue hc =>
    have ⟨t, ht, hp⟩ := closing_eq_ok h
    simp [text, hp, hc, closeQuote_eq_some ht]
  split at h
  case isTrue => cases h; simp [text]
  split at h <;> cases h <;> simp [text]

theorem text_ne_nil_of_first {c : Char} {cs rest : List Char} {p : Piece}
    (h : first c cs = .ok (p, rest)) : p.text ≠ [] := by
  intro hp
  unfold first at h
  repeat' split at h
  all_goals first
    | cases h; simp [text] at hp
    | have ⟨_, _, hm⟩ := closing_eq_ok h
      simp [hm, text] at hp

theorem length_of_first {c : Char} {cs rest : List Char} {p : Piece}
    (h : first c cs = .ok (p, rest)) : rest.length < (c :: cs).length := by
  rw [← text_append_of_first h, List.length_append]
  have := List.length_pos_iff.mpr (text_ne_nil_of_first h)
  omega

end Piece

-- The pieces of a text, and what the text ends inside of, if it does.
def pieces : List Char → List Piece × Option Unclosed
  | [] => ([], none)
  | c :: cs =>
    match _ : Piece.first c cs with
    | .error unclosed => ([], some unclosed)
    | .ok (p, rest) =>
      let (ps, unclosed) := pieces rest
      (p :: ps, unclosed)
termination_by cs => cs.length
decreasing_by exact Piece.length_of_first (by assumption)

@[simp]
theorem pieces_nil : pieces [] = ([], none) := by
  rw [pieces]

theorem pieces_of_error {c : Char} {cs : List Char} {unclosed : Unclosed}
    (h : Piece.first c cs = .error unclosed) : pieces (c :: cs) = ([], some unclosed) := by
  rw [pieces]
  split <;> simp_all

theorem pieces_of_ok {c : Char} {cs rest : List Char} {p : Piece}
    (h : Piece.first c cs = .ok (p, rest)) :
    pieces (c :: cs) = (p :: (pieces rest).1, (pieces rest).2) := by
  rw [pieces]
  split <;> simp_all

-- Nothing is lost on the way: a text that is cut to its end is the text of its pieces.
theorem text_pieces {cs : List Char} (h : (pieces cs).2 = none) :
    (pieces cs).1.flatMap Piece.text = cs := by
  fun_induction pieces cs with
  | case1 => rfl
  | case2 => simp at h
  | case3 c cs p rest hp ps unclosed hps ih =>
    rw [hps] at ih
    simp_all [Piece.text_append_of_first hp]

end ColumnConstants
