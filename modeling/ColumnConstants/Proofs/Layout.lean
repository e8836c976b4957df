import Mathlib
import ColumnConstants.Proofs.Acceptance
import ColumnConstants.Proofs.Boundary

namespace ColumnConstants

def shortGap (run : List Piece) : Piece :=
  if '\n' ∈ run.flatMap Piece.text then .lineBreak else .blank ' '

def condense : List Piece → List Piece
  | [] => []
  | p :: ps =>
    if p.isGap then shortGap (p :: ps.takeWhile Piece.isGap) :: condense (ps.dropWhile Piece.isGap)
    else p :: condense ps
termination_by ps => ps.length
decreasing_by
  · have hs : ps.dropWhile Piece.isGap <:+ ps := List.dropWhile_suffix _
    have := hs.length_le
    simp only [List.length_cons]
    omega
  · simp

-- The text with a line break in place of each run of white space and comments that contains one, and
-- a blank in place of every other such run.
def condensed (source : List Char) : List Char :=
  (condense (pieces source).1).flatMap Piece.text

section

variable {ready : Bool} {p : Piece} {ps run : List Piece}

theorem token?_eq_none_of_isGap (h : p.isGap = true) : p.token? = none := by
  cases p <;> simp_all [Piece.isGap, Piece.token?]

-- A run of gaps implies one terminator at most, whatever gaps it consists of.
theorem emitted_gaps (ready : Bool) (h : ∀ p ∈ run, p.isGap = true) :
    emitted ready run = (if ready && '\n' ∈ run.flatMap Piece.text then [.terminator] else []) ∧
      readyBehind ready run = (ready && '\n' ∉ run.flatMap Piece.text) := by
  induction run generalizing ready with
  | nil => simp
  | cons p run ih =>
    have hp := h p List.mem_cons_self
    have ht := token?_eq_none_of_isGap hp
    have ⟨he, hr⟩ := ih (p.readyBehind ready) fun q hq => h q (List.mem_cons_of_mem p hq)
    rw [emitted_cons, readyBehind_cons, he, hr]
    by_cases hn : '\n' ∈ p.text <;> cases ready <;>
      simp [Piece.emitted, Piece.readyBehind, Piece.breaksLine, ht, hp, hn]

theorem emitted_shortGap (ready : Bool) (run : List Piece) :
    (shortGap run).emitted ready =
        (if ready && '\n' ∈ run.flatMap Piece.text then [.terminator] else []) ∧
      (shortGap run).readyBehind ready = (ready && '\n' ∉ run.flatMap Piece.text) := by
  unfold shortGap
  split
  case isTrue h => simp [h]
  case isFalse h => simp [h]

theorem isGap_of_mem_run (ps : List Piece) (h : p.isGap = true) :
    ∀ q ∈ p :: ps.takeWhile Piece.isGap, q.isGap = true := by
  intro q hq
  cases hq
  case head => exact h
  case tail hq => exact List.all_eq_true.mp List.all_takeWhile q hq

theorem emitted_condense (ready : Bool) (ps : List Piece) :
    emitted ready (condense ps) = emitted ready ps ∧
      readyBehind ready (condense ps) = readyBehind ready ps := by
  fun_induction condense ps generalizing ready with
  | case1 => exact ⟨rfl, rfl⟩
  | case2 p ps hp ih =>
    have hs : p :: ps = (p :: ps.takeWhile Piece.isGap) ++ ps.dropWhile Piece.isGap := by simp
    have hg := isGap_of_mem_run ps hp
    rw [hs]
    generalize p :: ps.takeWhile Piece.isGap = run at hg ⊢
    have ⟨he, hr⟩ := emitted_gaps ready hg
    have ⟨hc, hcr⟩ := emitted_shortGap ready run
    simp [he, hr, hc, hcr, ih]
  | case3 p ps _ ih => simp [ih]

theorem tokens_condense : tokens ready (condense ps) = tokens ready ps := by
  have ⟨he, hr⟩ := emitted_condense ready ps
  rw [tokens_eq, tokens_eq, he, hr]

theorem whole_shortGap (run : List Piece) : (shortGap run).Whole := by
  unfold shortGap
  split
  case isTrue => trivial
  case isFalse => exact ⟨by decide, by decide⟩

@[simp]
theorem takesIn_shortGap {run : List Piece} {c : Char} : (shortGap run).takesIn c = false := by
  unfold shortGap
  split <;> rfl

theorem head?_text_shortGap {rest : List Char} :
    ∀ d ∈ ((shortGap run).text ++ rest).head?, d = '\n' ∨ d = ' ' := by
  unfold shortGap
  split <;> simp [Piece.text]

theorem takesIn_of_lexeme (h : p.isGap = false) :
    p.takesIn '\n' = false ∧ p.takesIn ' ' = false := by
  have hw : continuesWord '\n' = false ∧ continuesWord ' ' = false := by decide
  have hn : continuesNumber '\n' = false ∧ continuesNumber ' ' = false := by decide
  cases p <;> simp_all [Piece.isGap, Piece.takesIn, Piece.goesOn]

theorem head?_text_condense (h : Apart ps []) :
    ∀ d ∈ ((condense ps).flatMap Piece.text).head?,
      d = '\n' ∨ d = ' ' ∨ d ∈ (ps.flatMap Piece.text).head? := by
  intro d hd
  cases ps
  case nil => simp [condense] at hd
  case cons p ps =>
    by_cases hp : p.isGap
    case pos =>
      simp only [condense, hp, if_true, List.flatMap_cons] at hd
      exact (head?_text_shortGap d hd).imp_right .inl
    case neg =>
      have ⟨c, cs, hc⟩ := List.exists_cons_of_ne_nil h.1.text_ne_nil
      have hd : c = d := by simpa [condense, hp, hc] using hd
      simp [hc, hd]

theorem apart_condense (h : Apart ps []) : Apart (condense ps) [] := by
  fun_induction condense ps with
  | case1 => exact apart_nil
  | case2 p ps hp ih =>
    rw [← List.takeWhile_append_dropWhile (p := Piece.isGap) (l := ps)] at h
    exact ⟨(whole_shortGap _).fits (by simp), ih (apart_append.mp h.2).2⟩
  | case3 p ps hp ih =>
    have ⟨hw, hr⟩ := Piece.fits_iff.mp h.1
    have hg := takesIn_of_lexeme (Bool.eq_false_iff.mpr hp)
    refine ⟨hw.fits fun d hd => ?_, ih h.2⟩
    rw [List.append_nil] at hd hr
    obtain rfl | rfl | hd := head?_text_condense h.2 d hd
    · exact hg.1
    · exact hg.2
    · exact hr d hd

theorem pieces_condensed {source : List Char} (h : (pieces source).2 = none) :
    pieces (condensed source) = (condense (pieces source).1, none) := by
  have hp := pieces_of_apart (apart_condense (apart_pieces h))
  rwa [List.append_nil, pieces_nil, List.append_nil] at hp

end

-- Without the superfluous gaps, a text has the same tokens, and it is read as the same file. The same
-- is true of all texts that differ in nothing but gaps.
theorem tokenize_condensed {source : List Char} {ts : List Token} (h : tokenize source = .ok ts) :
    tokenize (condensed source) = .ok ts ∧
    SourceFile.ofText (condensed source) = SourceFile.ofText source ∧
    ∀ other, (pieces other).2 = none → condensed other = condensed source →
      tokenize other = .ok ts ∧ SourceFile.ofText other = SourceFile.ofText source := by
  have ⟨hu, ht, hn⟩ := tokenize_eq_ok_iff.mp h
  have hp := pieces_condensed hu
  have hc : tokenize (condensed source) = .ok ts := by
    refine tokenize_eq_ok_iff.mpr ⟨by rw [hp], ?_, hn⟩
    rw [hp, tokens_condense, ht]
  have hf {other : List Char} (ho : tokenize other = .ok ts) :
      SourceFile.ofText other = SourceFile.ofText source :=
    (SourceFile.ofText_of_tokenize ho).trans (SourceFile.ofText_of_tokenize h).symm
  refine ⟨hc, hf hc, fun other hu' he => ?_⟩
  have hp' := pieces_condensed hu'
  have he : condense (pieces other).1 = condense (pieces source).1 := by
    rw [he, hp] at hp'
    exact (congrArg Prod.fst hp').symm
  have ho : tokenize other = .ok ts := by
    refine tokenize_eq_ok_iff.mpr ⟨hu', ?_, hn⟩
    rw [← ht, ← tokens_condense, he, tokens_condense]
  exact ⟨ho, hf ho⟩

set_option maxRecDepth 4096 in
theorem tokenize_condensed_comments :
    tokenize "/* a */package p // b\r\n\n\tvar/* c\n */s = \"//\"//".toList =
      .ok [.word "package", .word "p", .terminator, .word "var", .terminator, .word "s", .mark '=',
        .string (.interpreted "//".toList), .terminator] ∧
    condensed "/* a */package p // b\r\n\n\tvar/* c\n */s = \"//\"//".toList =
      " package p\nvar\ns = \"//\" ".toList ∧
    tokenize " package p\nvar\ns = \"//\" ".toList =
      .ok [.word "package", .word "p", .terminator, .word "var", .terminator, .word "s", .mark '=',
        .string (.interpreted "//".toList), .terminator] ∧
    SourceFile.ofText " package p\nvar\ns = \"//\" ".toList =
      SourceFile.ofText "/* a */package p // b\r\n\n\tvar/* c\n */s = \"//\"//".toList := by
  have h : tokenize "/* a */package p // b\r\n\n\tvar/* c\n */s = \"//\"//".toList =
      .ok [.word "package", .word "p", .terminator, .word "var", .terminator, .word "s", .mark '=',
        .string (.interpreted "//".toList), .terminator] := by cbv
  have hc : condensed "/* a */package p // b\r\n\n\tvar/* c\n */s = \"//\"//".toList =
      " package p\nvar\ns = \"//\" ".toList := by cbv
  obtain ⟨ht, hf, _⟩ := tokenize_condensed h
  rw [hc] at ht hf
  exact ⟨h, hc, ht, hf⟩

end ColumnConstants
