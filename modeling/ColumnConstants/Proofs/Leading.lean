import Mathlib
import ColumnConstants.Proofs.Matching
import ColumnConstants.Tag.Style

namespace ColumnConstants

namespace Tag

-- A text that is taken apart at its first pair. Any character may stand for the opening quote.
@[ext]
structure LeadingPair (text : List Char) where
  key      : List Char
  opening  : Char
  value    : List Char
  rest     : List Char
  split    : text = key ++ ':' :: opening :: (value ++ '"' :: rest)
  keyed    : ':' ∉ key
  filled   : value ≠ []
  unquoted : '"' ∉ value

inductive Unpaired : List Char → Prop where
  | unkeyed {text : List Char} (h : ':' ∉ text) : Unpaired text
  | unopened {key : List Char} (keyed : ':' ∉ key) : Unpaired (key ++ [':'])
  | unclosed {key : List Char} (opening : Char) {rest : List Char} (keyed : ':' ∉ key)
      (h : '"' ∉ rest) : Unpaired (key ++ ':' :: opening :: rest)
  | unfilled {key : List Char} (opening : Char) (rest : List Char) (keyed : ':' ∉ key) :
      Unpaired (key ++ ':' :: opening :: '"' :: rest)

section

variable {tag text key rest : List Char}

theorem eq_of_parted {stop : Char} {front back front' back' : List Char} (h : stop ∉ front)
    (h' : stop ∉ front') (he : front ++ stop :: back = front' ++ stop :: back') :
    front = front' ∧ back = back' := by
  have hf := upTo?_append h back
  rw [he, upTo?_append h', Option.some.injEq] at hf
  subst hf
  simpa using he

theorem LeadingPair.unique (pair other : LeadingPair text) : pair = other := by
  have ⟨hk, hr⟩ := eq_of_parted pair.keyed other.keyed (pair.split.symm.trans other.split)
  have ⟨ho, hr⟩ := List.cons.inj hr
  have ⟨hv, hr⟩ := eq_of_parted pair.unquoted other.unquoted hr
  exact LeadingPair.ext hk ho hv hr

theorem leadingPair_or_unpaired (text : List Char) : Nonempty (LeadingPair text) ∨ Unpaired text := by
  by_cases hc : ':' ∈ text
  case neg => exact .inr (.unkeyed hc)
  case pos =>
    obtain ⟨key, rest, rfl, hk⟩ := List.eq_append_cons_of_mem hc
    match rest with
    | [] => exact .inr (.unopened hk)
    | opening :: rest =>
      by_cases hq : '"' ∈ rest
      case neg => exact .inr (.unclosed opening hk hq)
      case pos =>
        obtain ⟨value, rest, rfl, hv⟩ := List.eq_append_cons_of_mem hq
        match value with
        | [] => exact .inr (.unfilled opening rest hk)
        | c :: value =>
          exact .inl ⟨key, opening, c :: value, rest, rfl, hk, List.cons_ne_nil c value, hv⟩

theorem dropWhile_colon (h : ':' ∉ key) :
    (key ++ ':' :: rest).dropWhile (· ≠ ':') = ':' :: rest := by
  have hk : ∀ c ∈ key, decide (c ≠ ':') = true := by
    intro c hc
    simpa using ne_of_mem_of_not_mem hc h
  rw [List.dropWhile_append_of_pos hk]
  simp

theorem dropWhile_of_not_mem (h : ':' ∉ text) : text.dropWhile (· ≠ ':') = [] := by
  apply List.dropWhile_eq_nil_iff.mpr
  intro c hc
  simpa using ne_of_mem_of_not_mem hc h

theorem firstPairColumn?_of_leadingPair (pair : LeadingPair (stripDelimiters tag)) :
    firstPairColumn? tag = some pair.value := by
  have hd := (congrArg (List.dropWhile (· ≠ ':')) pair.split).trans (dropWhile_colon pair.keyed)
  have hu := upTo?_append pair.unquoted pair.rest
  simp only [firstPairColumn?, hd, hu]
  simpa using pair.filled

theorem firstPairColumn?_of_unpaired (h : Unpaired (stripDelimiters tag)) :
    firstPairColumn? tag = none := by
  unfold firstPairColumn?
  generalize stripDelimiters tag = text at h
  cases h with
  | unkeyed h => simp only [dropWhile_of_not_mem h]
  | unopened hk => simp only [dropWhile_colon hk]
  | unclosed opening hk hq => simp only [dropWhile_colon hk, upTo?, hq, if_false, Option.filter_none]
  | unfilled opening rest hk =>
    have hu : upTo? '"' ('"' :: rest) = some [] := upTo?_append List.not_mem_nil rest
    simp only [dropWhile_colon hk, hu]
    simp

theorem firstPairColumn?_eq_some_iff {column : List Char} :
    firstPairColumn? tag = some column ↔
      ∃ pair : LeadingPair (stripDelimiters tag), pair.value = column := by
  constructor
  case mp =>
    intro h
    obtain ⟨⟨pair⟩⟩ | hu := leadingPair_or_unpaired (stripDelimiters tag)
    · exact ⟨pair, Option.some.inj ((firstPairColumn?_of_leadingPair pair).symm.trans h)⟩
    · cases (firstPairColumn?_of_unpaired hu).symm.trans h
  case mpr =>
    rintro ⟨pair, rfl⟩
    exact firstPairColumn?_of_leadingPair pair

theorem firstPairColumn?_eq_none_iff :
    firstPairColumn? tag = none ↔ Unpaired (stripDelimiters tag) := by
  constructor
  case mp =>
    intro h
    obtain ⟨⟨pair⟩⟩ | hu := leadingPair_or_unpaired (stripDelimiters tag)
    · cases (firstPairColumn?_of_leadingPair pair).symm.trans h
    · exact hu
  case mpr => exact firstPairColumn?_of_unpaired

theorem firstPairColumn?_eq_find? (tag : List Char) :
    firstPairColumn? tag = (firstPairPattern.find? (stripDelimiters tag)).filter (· ≠ []) := by
  have ho := (Pattern.yields_group_stop '"').one_seq fun _ => true
  have ha : (Pattern.seq (.literal ":".toList) (.seq (.one fun _ => true)
      (.seq (.group (.many (· ≠ '"'))) (.one (· = '"'))))).Avoids (· ≠ ':') :=
    Pattern.avoids_literal_seq (by decide)
  have hc := (ho.literal_seq ":".toList).many_seq ha
  rw [firstPairPattern, hc.find?_start, firstPairColumn?]
  generalize stripDelimiters tag = text
  by_cases hc : ':' ∈ text
  case pos =>
    obtain ⟨key, rest, rfl, hk⟩ := List.eq_append_cons_of_mem hc
    rw [dropWhile_colon hk]
    cases rest <;> simp [after?]
  case neg =>
    rw [dropWhile_of_not_mem hc]
    simp [after?]

end

end Tag

namespace Style

open Tag

-- The default style reads the first pair of a text, whatever the text is, and there is one way at
-- most to take a text apart at it. If that pair is not complete, or has no value, no other pair
-- counts. This is what the search by the pattern yields.
theorem column_of_first_pair (tag column : String) :
    let text := stripDelimiters tag.toList
    (firstPair.column? tag = some column ↔
      ∃ pair : LeadingPair text, pair.value = column.toList) ∧
    (∀ pair other : LeadingPair text, pair = other) ∧
    (firstPair.column? tag = none ↔ Unpaired text) ∧
    firstPair.column? tag =
      ((firstPairPattern.find? text).filter (· ≠ [])).map String.ofList := by
  intro text
  have hf : firstPair.column? tag = (firstPairColumn? tag.toList).map String.ofList := rfl
  refine ⟨?value, LeadingPair.unique, ?none, ?pattern⟩
  case value =>
    have hc : some column = (some column.toList).map String.ofList := by simp
    rw [hf, hc, Option.map_inj_right fun _ _ => String.ofList_injective]
    exact firstPairColumn?_eq_some_iff
  case none =>
    rw [hf, Option.map_eq_none_iff]
    exact firstPairColumn?_eq_none_iff
  case pattern => rw [hf, firstPairColumn?_eq_find?]

example : firstPair.column? "`a:\"\" b:\"c\"`" = none ∧ firstPair.column? "a::b\"" = some "b" := by
  decide

end Style

end ColumnConstants
