import ColumnConstants.Tag.Style
import Mathlib.Data.List.Basic

namespace ColumnConstants

namespace Tag

def isKeyChar (c : Char) : Bool :=
  !(isBlank c || c = ':' || c = '"' || c = '\x60')

structure Pair where
  key      : String
  value    : String
  keyed    : key ≠ ""
  plain    : key.toList.all isKeyChar = true
  unquoted : '"' ∉ value.toList

namespace Pair

theorem plain_of_mem (pair : Pair) {c : Char} (h : c ∈ pair.key.toList) :
    isBlank c = false ∧ c ≠ ':' ∧ c ≠ '"' ∧ c ≠ '\x60' := by
  have hc := List.all_eq_true.mp pair.plain c h
  simpa [isKeyChar, not_or, and_assoc] using hc

def text (pair : Pair) : List Char :=
  pair.key.toList ++ ':' :: '"' :: (pair.value.toList ++ ['"'])

def following (pairs : List Pair) : List Char :=
  pairs.flatMap fun pair => ' ' :: pair.text

def tag (enclosed : Bool) (first : Pair) (more : List Pair) : List Char :=
  let pairs := first.text ++ following more
  if enclosed then '\x60' :: (pairs ++ ['\x60']) else pairs

def Sets (pair : Pair) (column : String) : Prop :=
  column ≠ "" ∧ ∃ before setting after,
    splitAtEach ';' pair.value.toList = before ++ setting :: after ∧
    setting.dropWhile isBlank = columnStart ++ column.toList ∧
    ∀ other ∈ before, ¬ columnStart <+: other.dropWhile isBlank

-- Whether the closing quote of the pair looks like the opening quote of a segment.
def Misleads (pair : Pair) : Prop :=
  ∃ front blank, isBlank blank = true ∧ pair.value.toList = front ++ blank :: "gorm:".toList

-- Whether the first of the pairs that has the key of gorm names the column.
def Named (pairs : List Pair) (column : String) : Prop :=
  ∃ pair, pairs.find? (·.key = "gorm") = some pair ∧ pair.Sets column

-- Whether one of the pairs in front of the segment of gorm looks as if it opened the segment.
def Misled (pairs : List Pair) : Prop :=
  ∃ pair ∈ pairs.takeWhile (·.key ≠ "gorm"), pair.Misleads

end Pair

def EndsInLabel (mayOpen : Bool) (front : List Char) : Prop :=
  (mayOpen = true ∧ front = "gorm:".toList) ∨
    ∃ before blank, isBlank blank = true ∧ front = before ++ blank :: "gorm:".toList

section

variable {mayOpen : Bool} {front rest : List Char}

theorem after?_segmentStart (hq : '"' ∉ front) (rest found : List Char) :
    after? segmentStart (front ++ '"' :: rest) = some found ↔
      front = "gorm:".toList ∧ found = rest := by
  have hs : segmentStart ++ found = "gorm:".toList ++ '"' :: found := rfl
  rw [after?_eq_some_iff, hs]
  constructor
  case mp =>
    intro h
    have hf := upTo?_append hq rest
    rw [h, upTo?_append (by decide), Option.some.injEq] at hf
    subst hf
    simpa using h.symm
  case mpr =>
    rintro ⟨rfl, rfl⟩
    rfl

theorem endsInLabel_cons_iff {c : Char} {cs : List Char} :
    EndsInLabel mayOpen (c :: cs) ↔
      (mayOpen = true ∧ c :: cs = "gorm:".toList) ∨ EndsInLabel (isBlank c) cs := by
  constructor
  case mp =>
    intro h
    cases h
    case inl h => exact Or.inl h
    case inr h =>
      have ⟨before, blank, hb, he⟩ := h
      apply Or.inr
      cases before with
      | nil =>
        have ⟨hc, he⟩ : c = blank ∧ cs = "gorm:".toList := by simpa using he
        exact Or.inl ⟨hc ▸ hb, he⟩
      | cons d before =>
        have ⟨_, he⟩ : c = d ∧ cs = before ++ blank :: "gorm:".toList := by simpa using he
        exact Or.inr ⟨before, blank, hb, he⟩
  case mpr =>
    rintro (h | ⟨hb, he⟩ | ⟨before, blank, hb, he⟩)
    · exact Or.inl h
    · exact Or.inr ⟨[], c, hb, by rw [he]; rfl⟩
    · exact Or.inr ⟨c :: before, blank, hb, by rw [he]; rfl⟩

theorem afterSegmentStart?_cons {c : Char} {cs : List Char} (hq : '"' ∉ c :: cs) :
    afterSegmentStart? mayOpen (c :: cs ++ '"' :: rest) =
      if mayOpen = true ∧ c :: cs = "gorm:".toList then some rest
      else afterSegmentStart? (isBlank c) (cs ++ '"' :: rest) := by
  cases mayOpen
  case false => simp [afterSegmentStart?]
  case true =>
    have hs := after?_segmentStart hq rest
    rw [List.cons_append] at hs
    split
    case isTrue h => simp [afterSegmentStart?, (hs rest).mpr ⟨h.2, rfl⟩]
    case isFalse h =>
      have hn : after? segmentStart (c :: (cs ++ '"' :: rest)) = none := by
        apply Option.eq_none_iff_forall_ne_some.mpr
        intro found hf
        exact h ⟨rfl, ((hs found).mp hf).1⟩
      simp [afterSegmentStart?, hn]

theorem afterSegmentStart?_of_endsInLabel (hq : '"' ∉ front) (h : EndsInLabel mayOpen front) :
    afterSegmentStart? mayOpen (front ++ '"' :: rest) = some rest := by
  induction front generalizing mayOpen with
  | nil => simp [EndsInLabel] at h
  | cons c cs ih =>
    rw [afterSegmentStart?_cons hq]
    split
    case isTrue => rfl
    case isFalse hn =>
      apply ih (List.not_mem_of_not_mem_cons hq)
      exact (endsInLabel_cons_iff.mp h).resolve_left hn

theorem afterSegmentStart?_of_not_endsInLabel (hq : '"' ∉ front) (h : ¬ EndsInLabel mayOpen front) :
    afterSegmentStart? mayOpen (front ++ '"' :: rest) = afterSegmentStart? false rest := by
  induction front generalizing mayOpen with
  | nil =>
    cases mayOpen
    all_goals rfl
  | cons c cs ih =>
    have ⟨hn, he⟩ := not_or.mp (mt endsInLabel_cons_iff.mpr h)
    rw [afterSegmentStart?_cons hq, if_neg hn]
    exact ih (List.not_mem_of_not_mem_cons hq) he

end

namespace Pair

variable (pair : Pair)

theorem endsInLabel_key_iff : EndsInLabel true (pair.key.toList ++ [':']) ↔ pair.key = "gorm" := by
  have hl : "gorm:".toList = "gorm".toList ++ [':'] := rfl
  constructor
  case mp =>
    intro h
    cases h
    case inl h => exact String.toList_injective (List.append_cancel_right (h.2.trans hl))
    case inr h =>
      -- No white space is in the key.
      have ⟨before, blank, hb, he⟩ := h
      have hm : blank ∈ pair.key.toList ++ [':'] := he ▸ List.mem_append_cons_self
      cases List.mem_append.mp hm
      case inl hm => simp [(pair.plain_of_mem hm).1] at hb
      case inr hm =>
        cases List.mem_singleton.mp hm
        exact absurd hb (by decide)
  case mpr =>
    intro h
    exact Or.inl ⟨rfl, by rw [h, hl]⟩

theorem endsInLabel_value_iff : EndsInLabel false pair.value.toList ↔ pair.Misleads := by
  simp [EndsInLabel, Misleads]

section

variable {pair} {rest : List Char}

theorem text_append (pair : Pair) (rest : List Char) :
    pair.text ++ rest =
      (pair.key.toList ++ [':']) ++ '"' :: (pair.value.toList ++ '"' :: rest) := by
  simp [text]

theorem quote_not_mem_label (pair : Pair) : '"' ∉ pair.key.toList ++ [':'] := by
  intro hm
  cases List.mem_append.mp hm
  case inl hm => exact (pair.plain_of_mem hm).2.2.1 rfl
  case inr hm => exact absurd (List.mem_singleton.mp hm) (by decide)

theorem afterSegmentStart?_text_of_gorm (h : pair.key = "gorm") :
    afterSegmentStart? true (pair.text ++ rest) = some (pair.value.toList ++ '"' :: rest) := by
  rw [text_append]
  apply afterSegmentStart?_of_endsInLabel pair.quote_not_mem_label
  exact pair.endsInLabel_key_iff.mpr h

theorem afterSegmentStart?_text_of_ne_gorm (h : pair.key ≠ "gorm") :
    afterSegmentStart? true (pair.text ++ rest) =
      afterSegmentStart? false (pair.value.toList ++ '"' :: rest) := by
  rw [text_append]
  apply afterSegmentStart?_of_not_endsInLabel pair.quote_not_mem_label
  exact mt pair.endsInLabel_key_iff.mp h

theorem afterSegmentStart?_text_of_misleads (h : pair.key ≠ "gorm") (hm : pair.Misleads) :
    afterSegmentStart? true (pair.text ++ rest) = some rest := by
  rw [afterSegmentStart?_text_of_ne_gorm h]
  apply afterSegmentStart?_of_endsInLabel pair.unquoted
  exact pair.endsInLabel_value_iff.mpr hm

theorem afterSegmentStart?_text_of_not_misleads (h : pair.key ≠ "gorm") (hm : ¬ pair.Misleads) :
    afterSegmentStart? true (pair.text ++ rest) = afterSegmentStart? false rest := by
  rw [afterSegmentStart?_text_of_ne_gorm h]
  apply afterSegmentStart?_of_not_endsInLabel pair.unquoted
  exact mt pair.endsInLabel_value_iff.mp hm

end

def columnBehind? (found : Option (List Char)) : Option (List Char) :=
  ((found.bind (upTo? '"')).bind segmentColumn?).filter (· ≠ [])

theorem segmentColumn?_eq_some_iff {segment column : List Char} :
    segmentColumn? segment = some column ↔
      ∃ before setting after, splitAtEach ';' segment = before ++ setting :: after ∧
        setting.dropWhile isBlank = columnStart ++ column ∧
        ∀ other ∈ before, ¬ columnStart <+: other.dropWhile isBlank := by
  unfold segmentColumn? settingColumn?
  simp only [List.findSome?_eq_some_iff, after?_eq_some_iff, after?_eq_none_iff]

theorem columnBehind?_value (rest : List Char) (column : String) :
    columnBehind? (some (pair.value.toList ++ '"' :: rest)) = some column.toList ↔
      pair.Sets column := by
  have hu := upTo?_append pair.unquoted rest
  simp [columnBehind?, hu, Option.filter_eq_some_iff, segmentColumn?_eq_some_iff, Sets, and_comm]

theorem eq_nil_of_segmentColumn? {front column : List Char} (hc : ':' ∉ front)
    (h : segmentColumn? (front ++ [':']) = some column) : column = [] := by
  have ⟨before, setting, after, hs, hd, _⟩ := segmentColumn?_eq_some_iff.mp h
  have hi : setting <:+: front ++ [':'] := by
    apply infix_of_mem_splitAtEach
    exact hs ▸ List.mem_append_cons_self
  have hd : columnStart ++ column <:+ setting := hd ▸ List.dropWhile_suffix isBlank
  have ⟨s, t, he⟩ := hd.isInfix.trans hi
  have he : front ++ ':' :: [] = (s ++ "column".toList) ++ ':' :: (column ++ t) := by
    simpa [columnStart] using he.symm
  have ⟨_, _, hn⟩ := (List.append_cons_inj_of_notMem hc List.not_mem_nil).mp he
  exact (List.append_eq_nil_iff.mp hn.symm).1

-- Between a closing quote and the next opening one there is nothing but a blank, a key and a colon.
-- Even if that sets a column, the column is empty.
theorem columnBehind?_following (pairs : List Pair) :
    columnBehind? (some (following pairs)) = none := by
  cases pairs with
  | nil => rfl
  | cons pair more =>
    have hf : following (pair :: more) =
        (' ' :: pair.key.toList ++ [':']) ++
          '"' :: (pair.value.toList ++ '"' :: following more) := by
      simp [following, text]
    have hq : '"' ∉ ' ' :: pair.key.toList ++ [':'] := by
      simpa using pair.quote_not_mem_label
    have hk : ':' ∉ ' ' :: pair.key.toList := by
      intro hm
      cases List.mem_cons.mp hm
      case inl he => exact absurd he (by decide)
      case inr hm => exact (pair.plain_of_mem hm).2.1 rfl
    simp only [columnBehind?, hf, upTo?_append hq, Option.bind_some]
    apply Option.filter_eq_none_iff.mpr
    intro column h
    simp [eq_nil_of_segmentColumn? hk h]

section

variable {first : Pair} {more : List Pair} {column : String}

theorem named_cons_of_gorm (h : first.key = "gorm") :
    Named (first :: more) column ↔ first.Sets column := by
  simp [Named, h]

theorem named_cons_of_ne_gorm (h : first.key ≠ "gorm") :
    Named (first :: more) column ↔ Named more column := by
  simp [Named, h]

theorem not_misled_of_gorm (h : first.key = "gorm") : ¬ Misled (first :: more) := by
  simp [Misled, h]

theorem misled_cons_of_ne_gorm (h : first.key ≠ "gorm") :
    Misled (first :: more) ↔ first.Misleads ∨ Misled more := by
  simp [Misled, h]

-- The start of the first pair is as good as a start behind a blank.
theorem afterSegmentStart?_following_cons :
    afterSegmentStart? false (following (first :: more)) =
      afterSegmentStart? true (first.text ++ following more) := by
  simp [following, afterSegmentStart?, show isBlank ' ' = true from by decide]

end

theorem columnBehind?_pairs (pairs : List Pair) (column : String) :
    columnBehind? (afterSegmentStart? false (following pairs)) = some column.toList ↔
      Named pairs column ∧ ¬ Misled pairs := by
  induction pairs with
  | nil => simp [following, afterSegmentStart?, columnBehind?, Named]
  | cons pair more ih =>
    rw [afterSegmentStart?_following_cons]
    by_cases hk : pair.key = "gorm"
    case pos =>
      rw [afterSegmentStart?_text_of_gorm hk, columnBehind?_value, named_cons_of_gorm hk]
      exact (and_iff_left (not_misled_of_gorm hk)).symm
    case neg =>
      rw [named_cons_of_ne_gorm hk, misled_cons_of_ne_gorm hk]
      by_cases hm : pair.Misleads
      case pos =>
        rw [afterSegmentStart?_text_of_misleads hk hm, columnBehind?_following]
        simp [hm]
      case neg =>
        rw [afterSegmentStart?_text_of_not_misleads hk hm, ih]
        simp [hm]

theorem head?_text (pair : Pair) (rest : List Char) :
    (pair.text ++ rest).head? ≠ some '\x60' := by
  cases hk : pair.key.toList with
  | nil => exact absurd (String.toList_eq_nil_iff.mp hk) pair.keyed
  | cons c cs =>
    have hc := (pair.plain_of_mem (hk ▸ List.mem_cons_self)).2.2.2
    simpa [text, hk] using hc

theorem getLast?_pairs (first : Pair) (more : List Pair) :
    (first.text ++ following more).getLast? = some '"' := by
  induction more generalizing first with
  | nil => simp [text, following, List.getLast?_cons]
  | cons second more ih =>
    have hf : following (second :: more) = ' ' :: (second.text ++ following more) := rfl
    simp [List.getLast?_append, hf, List.getLast?_cons, ih]

theorem stripDelimiters_tag (enclosed : Bool) (first : Pair) (more : List Pair) :
    stripDelimiters (tag enclosed first more) = first.text ++ following more := by
  cases enclosed
  case false =>
    apply stripDelimiters_bare (first.head?_text _)
    rw [getLast?_pairs]
    decide
  case true => exact stripDelimiters_enclosed _

theorem firstPairColumn?_tag (enclosed : Bool) (first : Pair) (more : List Pair) :
    firstPairColumn? (tag enclosed first more) = (some first.value.toList).filter (· ≠ []) := by
  have hk : ∀ c ∈ first.key.toList, decide (c ≠ ':') = true := by
    intro c hm
    simpa using (first.plain_of_mem hm).2.1
  have hd : (first.text ++ following more).dropWhile (· ≠ ':') =
      ':' :: '"' :: (first.value.toList ++ '"' :: following more) := by
    rw [text_append, List.append_assoc, List.dropWhile_append_of_pos hk]
    simp
  rw [firstPairColumn?, stripDelimiters_tag, hd]
  simp only [upTo?_append first.unquoted]

theorem gormColumn?_tag (enclosed : Bool) (first : Pair) (more : List Pair) :
    gormColumn? (tag enclosed first more) =
      columnBehind? (afterSegmentStart? false (following (first :: more))) := by
  rw [afterSegmentStart?_following_cons, ← stripDelimiters_tag enclosed]
  rfl

end Pair

end Tag

namespace Style

open Tag

-- The columns that the two styles take from the pairs of a tag. The first pair gives its value, and
-- the gorm style gives what the pair with its key sets, unless the value of a pair in front of that
-- one ends like the start of a segment; then it gives nothing.
theorem column_of_pairs (enclosed : Bool) (first : Pair) (more : List Pair) (column : String) :
    let tag := String.ofList (Pair.tag enclosed first more)
    (firstPair.column? tag = some column ↔ column = first.value ∧ column ≠ "") ∧
    (gorm.column? tag = some column ↔
      Pair.Named (first :: more) column ∧ ¬ Pair.Misled (first :: more)) := by
  have ofList_iff (found : Option (List Char)) :
      found.map String.ofList = some column ↔ found = some column.toList := by
    have hc : some column = (some column.toList).map String.ofList := by simp
    rw [hc, Option.map_inj_right fun _ _ => String.ofList_injective]
  constructor
  case left =>
    simp only [column?, String.toList_ofList, ofList_iff, Pair.firstPairColumn?_tag,
      Option.filter_eq_some_iff, Option.some.injEq, String.toList_inj]
    exact and_congr eq_comm (by simp)
  case right =>
    simp only [column?, String.toList_ofList, ofList_iff, Pair.gormColumn?_tag]
    exact Pair.columnBehind?_pairs (first :: more) column

example :
    let tag := "json:\"gorm:a; column:b gorm\" gorm:\"size:9; column:c\" gorm:\"column:d\""
    firstPair.column? tag = some "gorm:a; column:b gorm" ∧ gorm.column? tag = some "c" := by
  decide

-- The pair with the key of gorm sets a column, but the quote behind the first value passes for the
-- opening one of the segment.
theorem column_of_misled_pairs :
    let json : Pair := ⟨"json", "see gorm:", by decide, by decide, by decide⟩
    let setting : Pair := ⟨"gorm", "column:a", by decide, by decide, by decide⟩
    let tag := "`json:\"see gorm:\" gorm:\"column:a\"`"
    tag = String.ofList (Pair.tag true json [setting]) ∧
    Pair.Named [json, setting] "a" ∧ gorm.column? tag = none := by
  intro json setting tag
  have sets : setting.Sets "a" :=
    ⟨by decide, [], "column:a".toList, [], by decide, by decide, nofun⟩
  exact ⟨by decide, ⟨setting, rfl, sets⟩, by decide⟩

end Style

end ColumnConstants
