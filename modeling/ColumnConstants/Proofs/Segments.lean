import Mathlib
import ColumnConstants.Proofs.Matching
import ColumnConstants.Proofs.Pairs

namespace ColumnConstants

namespace Tag

section

variable {mayOpen : Bool} {cs rest : List Char}

theorem afterSegmentStart?_true (cs : List Char) :
    afterSegmentStart? true cs = (after? segmentStart cs).or (afterSegmentStart? false cs) := by
  cases cs with
  | nil => rfl
  | cons c cs => cases ha : after? segmentStart (c :: cs) <;> simp [afterSegmentStart?, ha]

theorem exists_eq_of_afterSegmentStart? (h : afterSegmentStart? mayOpen cs = some rest) :
    ∃ front, cs = front ++ segmentStart ++ rest := by
  fun_induction afterSegmentStart? mayOpen cs with
  | case1 => cases h
  | case2 mayOpen c cs found hf =>
    cases h
    cases mayOpen
    case false => cases hf
    case true => exact ⟨[], after?_eq_some_iff.mp hf⟩
  | case3 mayOpen c cs _ ih =>
    have ⟨front, he⟩ := ih h
    exact ⟨c :: front, by rw [he]; rfl⟩

-- What opens the last segment of a text has the last quotes of the text, so no segment behind it is
-- closed.
theorem upTo?_afterSegmentStart?_of_not_mem (hs : after? segmentStart cs = some rest)
    (hq : '"' ∉ rest) : (afterSegmentStart? false cs).bind (upTo? '"') = none := by
  apply Option.bind_eq_none_iff.mpr
  intro found hf
  have ⟨front, he⟩ := exists_eq_of_afterSegmentStart? hf
  have hc := congrArg (List.count '"') (he.symm.trans (after?_eq_some_iff.mp hs))
  have hs : segmentStart.count '"' = 1 := by decide
  have hq : rest.count '"' = 0 := List.count_eq_zero.mpr hq
  have hn : found.count '"' = 0 := by
    simp only [List.count_append, hs, hq] at hc
    omega
  rw [upTo?, if_neg (List.count_eq_zero.mp hn)]

theorem or_afterSegmentStart? (cs : List Char) :
    ((after? segmentStart cs).bind (upTo? '"')).or
        ((afterSegmentStart? false cs).bind (upTo? '"')) =
      (afterSegmentStart? true cs).bind (upTo? '"') := by
  rw [afterSegmentStart?_true]
  cases hs : after? segmentStart cs
  case none => rfl
  case some rest =>
    by_cases hq : '"' ∈ rest
    case pos => simp [upTo?, hq]
    case neg => simp [upTo?_afterSegmentStart?_of_not_mem hs hq, upTo?, hq]

theorem behind?_segment (cs : List Char) :
    Pattern.behind? isBlank (fun cs => (after? segmentStart cs).bind (upTo? '"')) cs =
      (afterSegmentStart? false cs).bind (upTo? '"') := by
  induction cs with
  | nil => rfl
  | cons c cs ih =>
    have ha : afterSegmentStart? false (c :: cs) = afterSegmentStart? (isBlank c) cs := rfl
    rw [Pattern.behind?, ih, ha]
    cases isBlank c
    case false => rfl
    case true => exact or_afterSegmentStart? cs

theorem find?_segmentPattern (text : List Char) :
    segmentPattern.find? text = (afterSegmentStart? true text).bind (upTo? '"') := by
  have hy := (Pattern.yields_group_stop '"').literal_seq segmentStart
  have hf : segmentPattern.find? text = _ := hy.find? isBlank text
  rw [hf, behind?_segment, or_afterSegmentStart?]

end

section

variable {p q : Char → Bool}

theorem dropWhile_takeWhile (h : ∀ c, q c = true → p c = true) (cs : List Char) :
    (cs.takeWhile p).dropWhile q = (cs.dropWhile q).takeWhile p := by
  induction cs with
  | nil => rfl
  | cons c cs ih =>
    cases hq : q c
    case false => cases hp : p c <;> simp [hq, hp]
    case true => simp [hq, h c hq, ih]

theorem after?_takeWhile {start : List Char} (h : ∀ c ∈ start, p c = true) (cs : List Char) :
    after? start (cs.takeWhile p) = (after? start cs).map (List.takeWhile p) := by
  induction start generalizing cs with
  | nil => rfl
  | cons s start ih =>
    have ⟨hs, h⟩ := List.forall_mem_cons.mp h
    cases cs with
    | nil => rfl
    | cons c cs =>
      by_cases hc : s = c
      case pos => simp [← hc, hs, after?, ih h]
      case neg => cases hp : p c <;> simp [hp, after?, hc]

end

theorem settingColumn?_takeWhile (cs : List Char) :
    settingColumn? (cs.takeWhile (· ≠ ';')) =
      (after? columnStart (cs.dropWhile isBlank)).bind fun rest =>
        some (rest.takeWhile (· ≠ ';')) := by
  have hb (c : Char) (h : isBlank c = true) : decide (c ≠ ';') = true := by
    apply decide_eq_true
    rintro rfl
    exact absurd h (by decide)
  have hc : ∀ c ∈ columnStart, decide (c ≠ ';') = true := by simp [columnStart]
  rw [settingColumn?, dropWhile_takeWhile hb, after?_takeWhile hc]
  exact Option.map_eq_bind

theorem segmentColumn?_eq (cs : List Char) :
    segmentColumn? cs =
      (settingColumn? (cs.takeWhile (· ≠ ';'))).or
        ((splitAtEach ';' cs).tail.findSome? settingColumn?) := by
  obtain ⟨part, parts, hs⟩ := List.exists_cons_of_ne_nil (splitAtEach_ne_nil ';' cs)
  have hh := head?_splitAtEach ';' cs
  rw [hs] at hh
  cases hh
  rw [segmentColumn?, hs, List.findSome?_cons]
  cases settingColumn? (cs.takeWhile (· ≠ ';')) <;> rfl

theorem behind?_setting (cs : List Char) :
    Pattern.behind? (· = ';') (fun cs => settingColumn? (cs.takeWhile (· ≠ ';'))) cs =
      (splitAtEach ';' cs).tail.findSome? settingColumn? := by
  induction cs with
  | nil => rfl
  | cons c cs ih =>
    rw [Pattern.behind?, ih]
    by_cases hc : c = ';'
    case pos =>
      have hs : splitAtEach ';' (c :: cs) = [] :: splitAtEach ';' cs := if_pos hc
      rw [hs, List.tail_cons, if_pos (decide_eq_true hc)]
      exact (segmentColumn?_eq cs).symm
    case neg =>
      obtain ⟨part, parts, hs⟩ := List.exists_cons_of_ne_nil (splitAtEach_ne_nil ';' cs)
      simp [splitAtEach, hc, hs]

theorem find?_columnPattern (segment : List Char) :
    columnPattern.find? segment = segmentColumn? segment := by
  have ha : (Pattern.seq (.literal columnStart) (.group (.many (· ≠ ';')))).Avoids isBlank :=
    Pattern.avoids_literal_seq (by decide)
  have hy := (Pattern.yields_group_many.literal_seq columnStart).many_seq ha
  have hf : columnPattern.find? segment = _ := hy.find? (· = ';') segment
  simp only [← settingColumn?_takeWhile] at hf
  rw [hf, behind?_setting, ← segmentColumn?_eq]

theorem gormColumn?_eq_find? (tag : List Char) :
    gormColumn? tag =
      ((segmentPattern.find? (stripDelimiters tag)).bind columnPattern.find?).filter (· ≠ []) := by
  have hc : columnPattern.find? = segmentColumn? := funext find?_columnPattern
  rw [find?_segmentPattern, hc]
  rfl

-- Whether the opening of a segment stands at a place, which is the start of the text or behind
-- white space. The start counts if `mayOpen`.
def Opens (mayOpen : Bool) (text : List Char) (place : Nat) : Prop :=
  "gorm:\"".toList <+: text.drop place ∧
    if place = 0 then mayOpen = true else text[place - 1]?.any isBlank = true

def OpensFirst (mayOpen : Bool) (text : List Char) (place : Nat) : Prop :=
  Opens mayOpen text place ∧ ∀ earlier < place, ¬Opens mayOpen text earlier

-- Whether the text between the quotes of a segment names the column: the first of its parts to
-- begin with the label, white space aside, goes on with the column.
def Names (segment column : List Char) : Prop :=
  column ≠ [] ∧ ∃ before setting after,
    segment.splitOn ';' = before ++ setting :: after ∧
    setting.dropWhile isBlank = "column:".toList ++ column ∧
    ∀ other ∈ before, ¬"column:".toList <+: other.dropWhile isBlank

section

variable {mayOpen : Bool} {c : Char} {cs rest : List Char} {place : Nat}

theorem opens_zero : Opens mayOpen cs 0 ↔ mayOpen = true ∧ segmentStart <+: cs := by
  simp [Opens, and_comm, segmentStart]

theorem opens_succ_cons : Opens mayOpen (c :: cs) (place + 1) ↔ Opens (isBlank c) cs place := by
  cases place <;> simp [Opens]

theorem opensFirst_zero : OpensFirst mayOpen cs 0 ↔ Opens mayOpen cs 0 := by
  simp [OpensFirst]

theorem opensFirst_succ_cons :
    OpensFirst mayOpen (c :: cs) (place + 1) ↔
      ¬Opens mayOpen (c :: cs) 0 ∧ OpensFirst (isBlank c) cs place := by
  simp only [OpensFirst, opens_succ_cons, Nat.forall_lt_succ_left]
  exact and_left_comm

theorem OpensFirst.unique {other : Nat} (h : OpensFirst mayOpen cs place)
    (ho : OpensFirst mayOpen cs other) : place = other := by
  apply Nat.le_antisymm
  · exact Nat.le_of_not_lt fun hl => h.2 other hl ho.1
  · exact Nat.le_of_not_lt fun hl => ho.2 place hl h.1

theorem afterSegmentStart?_cons_of_opens (h : Opens mayOpen (c :: cs) 0) :
    afterSegmentStart? mayOpen (c :: cs) = some rest ↔ c :: cs = segmentStart ++ rest := by
  have ⟨ho, found, hf⟩ := opens_zero.mp h
  have ha : after? segmentStart (c :: cs) = some found := after?_eq_some_iff.mpr hf.symm
  rw [ho, afterSegmentStart?_true, ha, ← after?_eq_some_iff, ha]
  rfl

theorem afterSegmentStart?_cons_of_not_opens (h : ¬Opens mayOpen (c :: cs) 0) :
    afterSegmentStart? mayOpen (c :: cs) = afterSegmentStart? (isBlank c) cs := by
  cases mayOpen
  case false => rfl
  case true =>
    have hp : ¬segmentStart <+: c :: cs := fun hp => h (opens_zero.mpr ⟨rfl, hp⟩)
    rw [afterSegmentStart?_true, after?_eq_none_iff.mpr hp]
    rfl

-- The search goes on up to the first place at which a segment opens.
theorem afterSegmentStart?_eq_some_iff :
    afterSegmentStart? mayOpen cs = some rest ↔
      ∃ place, OpensFirst mayOpen cs place ∧ cs.drop place = segmentStart ++ rest := by
  induction cs generalizing mayOpen with
  | nil => simp [afterSegmentStart?, segmentStart]
  | cons c cs ih =>
    by_cases ho : Opens mayOpen (c :: cs) 0
    case pos =>
      rw [afterSegmentStart?_cons_of_opens ho]
      constructor
      case mp => exact fun he => ⟨0, opensFirst_zero.mpr ho, he⟩
      case mpr =>
        rintro ⟨place, hf, he⟩
        rwa [hf.unique (opensFirst_zero.mpr ho)] at he
    case neg =>
      rw [afterSegmentStart?_cons_of_not_opens ho, ih]
      constructor
      case mp =>
        rintro ⟨place, hf, he⟩
        exact ⟨place + 1, opensFirst_succ_cons.mpr ⟨ho, hf⟩, he⟩
      case mpr =>
        rintro ⟨place, hf, he⟩
        cases place
        case zero => exact absurd (opensFirst_zero.mp hf) ho
        case succ place => exact ⟨place, (opensFirst_succ_cons.mp hf).2, he⟩

theorem splitAtEach_eq_splitOn (separator : Char) (cs : List Char) :
    splitAtEach separator cs = cs.splitOn separator := by
  induction cs with
  | nil => simp [splitAtEach]
  | cons c cs ih =>
    have hs : (c :: cs).splitOn separator = _ := List.splitOnP_cons_eq_if_modifyHead c cs
    rw [hs, splitAtEach, ih]
    by_cases hc : c = separator
    case pos => simp [hc, List.splitOn]
    case neg =>
      obtain ⟨part, parts, hp⟩ := List.exists_cons_of_ne_nil (splitAtEach_ne_nil separator cs)
      have hp : cs.splitOnP (· == separator) = part :: parts := ih.symm.trans hp
      simp [hc, hp, List.splitOn]

theorem names_iff {segment column : List Char} :
    Names segment column ↔ segmentColumn? segment = some column ∧ column ≠ [] := by
  rw [Pair.segmentColumn?_eq_some_iff, splitAtEach_eq_splitOn, and_comm]
  rfl

def Reads (text : List Char) (place : Nat) (column : List Char) : Prop :=
  ∃ segment rest, text.drop place = "gorm:\"".toList ++ segment ++ '"' :: rest ∧
    '"' ∉ segment ∧ Names segment column

theorem gormColumn?_eq_some_iff {tag column : List Char} :
    gormColumn? tag = some column ↔
      ∃ place, OpensFirst true (stripDelimiters tag) place ∧
        Reads (stripDelimiters tag) place column := by
  constructor
  case mp =>
    intro h
    obtain ⟨hc, hn⟩ := Option.filter_eq_some_iff.mp h
    obtain ⟨segment, hu, hs⟩ := Option.bind_eq_some_iff.mp hc
    obtain ⟨rest, ha, hu⟩ := Option.bind_eq_some_iff.mp hu
    have ⟨place, ho, hd⟩ := afterSegmentStart?_eq_some_iff.mp ha
    have ⟨behind, hr, hq⟩ := upTo?_eq_some_iff.mp hu
    refine ⟨place, ho, segment, behind, ?_, hq, names_iff.mpr ⟨hs, by simpa using hn⟩⟩
    rw [hd, hr, List.append_assoc]
    rfl
  case mpr =>
    intro ⟨place, ho, segment, behind, hd, hq, hn⟩
    rw [List.append_assoc] at hd
    have ha := afterSegmentStart?_eq_some_iff.mpr ⟨place, ho, hd⟩
    have ⟨hs, hn⟩ := names_iff.mp hn
    simp [gormColumn?, ha, upTo?_append hq, hs, hn]

end

end Tag

namespace Style

open Tag

-- The gorm style reads the first segment of a text to open, whatever the text is. If that segment
-- is not closed, or names no column or an empty one, no other segment counts. This is what the
-- search by the two patterns yields.
theorem column_of_first_segment (tag column : String) :
    let text := stripDelimiters tag.toList
    (gorm.column? tag = some column ↔
      ∃ place, OpensFirst true text place ∧ Reads text place column.toList) ∧
    (∀ place, OpensFirst true text place → (¬∃ other, Reads text place other) →
      gorm.column? tag = none) ∧
    gorm.column? tag =
      (((segmentPattern.find? text).bind columnPattern.find?).filter (· ≠ [])).map
        String.ofList := by
  intro text
  have hg : gorm.column? tag = (gormColumn? tag.toList).map String.ofList := rfl
  refine ⟨?reads, fun place ho hr => ?none, ?patterns⟩
  case reads =>
    have hc : some column = (some column.toList).map String.ofList := by simp
    rw [hg, hc, Option.map_inj_right fun _ _ => String.ofList_injective]
    exact gormColumn?_eq_some_iff
  case none =>
    rw [hg, Option.map_eq_none_iff]
    apply Option.eq_none_iff_forall_ne_some.mpr
    intro found hf
    have ⟨first, hp, hf⟩ := gormColumn?_eq_some_iff.mp hf
    exact hr ⟨found, ho.unique hp ▸ hf⟩
  case patterns => rw [hg, gormColumn?_eq_find?]

theorem column_of_first_segment_unnamed :
    let tag := "x:\"\" gorm:\"size:9\" gorm:\"column:a\""
    stripDelimiters tag.toList = tag.toList ∧ OpensFirst true tag.toList 5 ∧
    (¬∃ other, Reads tag.toList 5 other) ∧ gorm.column? tag = none := by
  intro tag
  have ht : stripDelimiters tag.toList = tag.toList := by decide
  have ho : OpensFirst true tag.toList 5 := by
    unfold OpensFirst Opens
    decide
  have hr : ¬∃ other, Reads tag.toList 5 other := by
    intro ⟨other, segment, rest, hd, hq, hn⟩
    have hd : tag.toList.drop 11 = segment ++ '"' :: rest := by
      simpa using congrArg (List.drop 6) hd
    have hs : upTo? '"' (tag.toList.drop 11) = some "size:9".toList := by decide
    rw [hd, upTo?_append hq, Option.some.injEq] at hs
    have hc : segmentColumn? "size:9".toList = none := by decide
    subst hs
    cases hc.symm.trans (names_iff.mp hn).1
  obtain ⟨_, hn, _⟩ := column_of_first_segment tag "a"
  rw [ht] at hn
  exact ⟨ht, ho, hr, hn 5 ho hr⟩

end Style

end ColumnConstants
