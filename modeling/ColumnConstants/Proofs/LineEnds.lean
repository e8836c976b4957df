import Mathlib
import ColumnConstants.Proofs.Nested
import ColumnConstants.Source.Lexeme
import ColumnConstants.Source.Scan

namespace ColumnConstants

namespace Lexeme

def IsOperator (op : List Char) : Prop :=
  op.length = 1 ∨ op ∈ longOperators

theorem length_of_mem_longOperators {op : List Char} (h : op ∈ longOperators) : 1 < op.length := by
  revert h op
  decide

theorem IsOperator.length_pos {op : List Char} (h : IsOperator op) : 0 < op.length := by
  cases h with
  | inl h => omega
  | inr h => exact Nat.zero_lt_of_lt (length_of_mem_longOperators h)

theorem isOperator_firstOperator (c : Char) (cs : List Char) : IsOperator (firstOperator c cs) := by
  unfold firstOperator
  cases hf : longOperators.find? (·.isPrefixOf (c :: cs))
  case none => exact .inl rfl
  case some op => exact .inr (List.mem_of_find?_eq_some hf)

theorem firstOperator_prefix_cons (c : Char) (cs : List Char) : firstOperator c cs <+: c :: cs := by
  unfold firstOperator
  cases hf : longOperators.find? (·.isPrefixOf (c :: cs))
  case none => exact ⟨cs, rfl⟩
  case some op =>
    have hp := List.find?_some hf
    exact List.isPrefixOf_iff_prefix.mp hp

theorem exists_cutOperators_eq_cons {marks : List Char} (h : marks ≠ []) :
    ∃ op rest, marks = op ++ rest ∧ cutOperators marks = op :: cutOperators rest ∧
      IsOperator op := by
  obtain ⟨c, cs, rfl⟩ := List.exists_cons_of_ne_nil h
  have ho := isOperator_firstOperator c cs
  have hd : firstOperator c cs ++ cs.drop ((firstOperator c cs).length - 1) = c :: cs := by
    rw [← List.drop_succ_cons, Nat.sub_one_add_one ho.length_pos.ne']
    exact List.prefix_iff_eq_append.mp (firstOperator_prefix_cons c cs)
  exact ⟨_, _, hd.symm, by rw [cutOperators], ho⟩

theorem exists_getLast?_cutOperators {marks : List Char} {c : Char}
    (h : marks.getLast? = some c) :
    ∃ op, (cutOperators marks).getLast? = some op ∧ op.getLast? = some c ∧ IsOperator op := by
  have hn : marks ≠ [] := by
    rintro rfl
    cases h
  obtain ⟨op, rest, hm, hc, ho⟩ := exists_cutOperators_eq_cons hn
  rw [hm, List.getLast?_append] at h
  cases hr : rest.getLast?
  case none =>
    have hn : cutOperators rest = [] := by
      rw [List.getLast?_eq_none_iff.mp hr, cutOperators]
    rw [hr] at h
    exact ⟨op, by rw [hc, hn]; rfl, h, ho⟩
  case some last =>
    rw [hr] at h
    cases h
    have : rest.length < marks.length := by
      have := ho.length_pos
      rw [hm, List.length_append]
      omega
    obtain ⟨last, hl, ho⟩ := exists_getLast?_cutOperators hr
    exact ⟨last, by rw [hc, List.getLast?_cons, hl]; rfl, ho⟩
termination_by marks.length

-- Whether a property of lexemes and one of tokens tell the same at the end of a line.
structure Agrees (f : Lexeme → Bool) (g : Token → Bool) : Prop where
  piece {p : Piece} (h : ∀ c, p ≠ .mark c) : p.lexeme?.map f = p.token?.map g
  mark (c : Char) : f (.operator [c]) = g (.ofMark c)
  long {op : List Char} {c : Char} (hm : op ∈ longOperators) (hc : op.getLast? = some c) :
    f (.operator op) = g (.ofMark c)

namespace Agrees

variable {f : Lexeme → Bool} {g : Token → Bool}

theorem getLast?_cutOperators (h : Agrees f g) (marks : List Char) :
    ((cutOperators marks).map operator).getLast?.map f =
      (marks.map Token.ofMark).getLast?.map g := by
  rw [List.getLast?_map, List.getLast?_map, Option.map_map, Option.map_map]
  cases hm : marks.getLast?
  case none => rw [List.getLast?_eq_none_iff.mp hm, cutOperators]; rfl
  case some c =>
    obtain ⟨op, hc, hl, ho⟩ := exists_getLast?_cutOperators hm
    rw [hc]
    apply congrArg some
    cases ho with
    | inl ho =>
      obtain ⟨d, hd⟩ := List.length_eq_one_iff.mp ho
      rw [hd] at hl ⊢
      cases hl
      exact h.mark d
    | inr ho => exact h.long ho hl

theorem getLast?_lexemesBehind (h : Agrees f g) (marks : List Char) (ps : List Piece) :
    (lexemesBehind marks ps).getLast?.map f =
      (marks.map Token.ofMark ++ ps.filterMap Piece.token?).getLast?.map g := by
  fun_induction lexemesBehind marks ps with
  | case1 marks => simpa using h.getLast?_cutOperators marks
  | case2 marks c ps ih => simpa [Piece.token?] using ih
  | case3 marks p ps hp ih =>
    have ht : (p :: ps).filterMap Piece.token? = p.token?.toList ++ ps.filterMap Piece.token? := by
      cases hp : p.token? <;> simp [hp]
    have hl (α : Type) (o : Option α) : o.toList.getLast? = o := by cases o <;> rfl
    have hp := h.piece hp
    have hm := h.getLast?_cutOperators marks
    simp only [List.map_nil, List.nil_append] at ih
    simp only [ht, List.getLast?_append, Option.map_or, hl, ih, hp, hm]

theorem getLast?_lexemes (h : Agrees f g) (line : List Piece) :
    (lexemes line).getLast?.map f = (line.filterMap Piece.token?).getLast?.map g :=
  h.getLast?_lexemesBehind [] line

end Agrees

theorem endsStatement_ofMark (c : Char) :
    (Token.ofMark c).endsStatement = decide ([c] ∈ closers) := by
  unfold Token.ofMark Nesting.ofChar Bracket.opening? Bracket.closing?
  split_ifs <;> simp_all [closers, Token.endsStatement]

theorem ofMark_eq_terminator_iff {c : Char} : Token.ofMark c = .terminator ↔ c = ';' := by
  unfold Token.ofMark Nesting.ofChar Bracket.opening? Bracket.closing?
  split_ifs <;> simp_all

theorem getLast?_of_mem_longOperators :
    ∀ op ∈ longOperators, ∀ c ∈ op.getLast?, [c] ∉ closers ∧ c ≠ ';' := by
  simp [longOperators, closers]

theorem not_mem_closers_of_mem_longOperators {op : List Char} (h : op ∈ longOperators) :
    op ∉ closers := by
  have hl := length_of_mem_longOperators h
  have hc : ∀ op ∈ closers, op.length = 1 := by decide
  exact fun hm => absurd (hc op hm) hl.ne'

theorem agrees_endsStatement : Agrees impliesTerminator Token.endsStatement where
  piece {p} h := by
    cases p
    case mark c => exact absurd rfl (h c)
    all_goals rfl
  mark c := (endsStatement_ofMark c).symm
  long {op c} hm hc := by
    have ho := not_mem_closers_of_mem_longOperators hm
    have ⟨hn, _⟩ := getLast?_of_mem_longOperators op hm c hc
    simp [endsStatement_ofMark, impliesTerminator, ho, hn]

theorem agrees_terminator :
    Agrees (fun ℓ => ℓ = .operator [';']) (fun t => t = .terminator) where
  piece {p} h := by
    cases p
    case mark c => exact absurd rfl (h c)
    all_goals rfl
  mark c := by simp [ofMark_eq_terminator_iff]
  long {op c} hm hc := by
    have ho : op ≠ [';'] := by
      rintro rfl
      exact absurd (length_of_mem_longOperators hm) (by decide)
    have ⟨_, hn⟩ := getLast?_of_mem_longOperators op hm c hc
    simp [ofMark_eq_terminator_iff, ho, hn]

end Lexeme

-- The tokens of a line with the terminator that its last token implies. A line without tokens has
-- it if a terminator is due already.
def closedLine (ready : Bool) (line : List Piece) : List Token :=
  let ts := line.filterMap Piece.token?
  ts ++ if (ts.getLast?.map Token.endsStatement).getD ready then [.terminator] else []

section

variable {ready : Bool} {p : Piece} {t : Token} {ps line : List Piece} {lines : List (List Piece)}

theorem closedLine_cons_of_some (h : p.token? = some t) :
    closedLine ready (p :: line) = t :: closedLine t.endsStatement line := by
  simp only [closedLine, List.filterMap_cons, h, List.getLast?_cons]
  cases (line.filterMap Piece.token?).getLast? <;> rfl

theorem closedLine_cons_of_none (h : p.token? = none) :
    closedLine ready (p :: line) = closedLine ready line := by
  simp [closedLine, h]

theorem token?_of_breaksLine (h : p.breaksLine = true) : p.token? = none := by
  cases p <;> first | rfl | cases h

theorem linesOf_cons :
    linesOf (p :: ps) =
      if p.breaksLine then [] :: linesOf ps else (linesOf ps).modifyHead (p :: ·) :=
  List.splitOnP_cons_eq_if_modifyHead p ps

theorem exists_linesOf_eq_cons (ps : List Piece) : ∃ line lines, linesOf ps = line :: lines :=
  List.exists_cons_of_ne_nil (List.splitOnP_ne_nil Piece.breaksLine ps)

theorem tokens_eq_closedLine_append (h : linesOf ps = line :: lines) :
    tokens ready ps = closedLine ready line ++ lines.flatMap (closedLine false) := by
  induction ps generalizing ready line lines with
  | nil =>
    have h : [[]] = line :: lines := h
    cases h
    cases ready <;> rfl
  | cons p ps ih =>
    have ⟨line', lines', hl⟩ := exists_linesOf_eq_cons ps
    rw [linesOf_cons, hl] at h
    cases hb : p.breaksLine
    case true =>
      have ht := token?_of_breaksLine hb
      simp only [hb, if_true] at h
      cases h
      cases ready <;> simp [tokens, ht, hb, ih hl, closedLine]
    case false =>
      simp only [hb] at h
      cases h
      cases ht : p.token?
      case none => simp [tokens, ht, hb, ih hl, closedLine_cons_of_none ht]
      case some t => simp [tokens, ht, ih hl, closedLine_cons_of_some ht]

theorem closedLine_eq_lineTokens (line : List Piece) :
    closedLine false line = lineTokens Lexeme.impliesTerminator line := by
  have ha := Lexeme.agrees_endsStatement.getLast?_lexemes line
  simp only [closedLine, lineTokens, ← ha]
  cases (lexemes line).getLast? <;> rfl

theorem tokens_eq_tokensBy (ps : List Piece) :
    tokens false ps = tokensBy Lexeme.impliesTerminator ps := by
  have ⟨line, lines, hl⟩ := exists_linesOf_eq_cons ps
  have hc : closedLine false = lineTokens Lexeme.impliesTerminator :=
    funext closedLine_eq_lineTokens
  rw [tokens_eq_closedLine_append hl, tokensBy, hl, hc, List.flatMap_cons]

end

section

variable {r r₁ r₂ : Lexeme → Bool} {line : List Piece} {lines : List (List Piece)}

theorem lineTokens_of_terminators (hr : r (.operator [';']) = false)
    (h : ∀ t ∈ line.filterMap Piece.token?, t = .terminator) :
    lineTokens r line = line.filterMap Piece.token? := by
  have ha := Lexeme.agrees_terminator.getLast?_lexemes line
  have hn : (lexemes line).getLast?.any r = false := by
    cases hl : (lexemes line).getLast?
    case none => rfl
    case some ℓ =>
      cases ht : (line.filterMap Piece.token?).getLast?
      case none => simp [hl, ht] at ha
      case some t =>
        have hs : t = .terminator := h t (List.mem_of_getLast? ht)
        have hℓ : ℓ = .operator [';'] := by simpa [hl, ht, hs] using ha
        simp [hℓ, hr]
  simp [lineTokens, hn]

-- The terminators in front of all other tokens are semicolons of the text, so a rule has no part in
-- them.
theorem takeWhile_flatMap_lineTokens (h₁ : r₁ (.operator [';']) = false)
    (h₂ : r₂ (.operator [';']) = false) (lines : List (List Piece)) :
    (lines.flatMap (lineTokens r₁)).takeWhile (· = .terminator) =
      (lines.flatMap (lineTokens r₂)).takeWhile (· = .terminator) := by
  induction lines with
  | nil => rfl
  | cons line lines ih =>
    rw [List.flatMap_cons, List.flatMap_cons]
    by_cases h : ∀ t ∈ line.filterMap Piece.token?, t = .terminator
    case pos =>
      rw [lineTokens_of_terminators h₁ h, lineTokens_of_terminators h₂ h]
      have hd : ∀ t ∈ line.filterMap Piece.token?, decide (t = Token.terminator) = true := by
        simpa using h
      rw [List.takeWhile_append_of_pos hd, List.takeWhile_append_of_pos hd, ih]
    case neg =>
      have hn : ((line.filterMap Piece.token?).takeWhile (· = .terminator)).length ≠
          (line.filterMap Piece.token?).length := by
        intro hl
        have ht := (List.takeWhile_prefix (· = Token.terminator)).eq_of_length hl
        exact h (by simpa using List.takeWhile_eq_self_iff.mp ht)
      simp only [lineTokens, List.append_assoc]
      rw [List.takeWhile_append, if_neg hn, List.takeWhile_append, if_neg hn]

theorem any_eq_of_lineTokens_append_eq {ts₁ ts₂ : List Token}
    (hw : ts₁.takeWhile (· = .terminator) = ts₂.takeWhile (· = .terminator))
    (h : lineTokens r₁ line ++ ts₁ = lineTokens r₂ line ++ ts₂) :
    (lexemes line).getLast?.any r₁ = (lexemes line).getLast?.any r₂ := by
  rw [lineTokens, lineTokens, List.append_assoc, List.append_assoc, List.append_cancel_left_eq] at h
  have ht := congrArg (List.takeWhile (· = .terminator)) h
  cases ha₁ : (lexemes line).getLast?.any r₁ <;> cases ha₂ : (lexemes line).getLast?.any r₂
  case false.false | true.true => rfl
  case false.true | true.false => simp [ha₁, ha₂, hw] at ht

-- Rules give the same tokens only if they agree on every line.
theorem flatMap_lineTokens_eq_iff (h₁ : r₁ (.operator [';']) = false)
    (h₂ : r₂ (.operator [';']) = false) :
    lines.flatMap (lineTokens r₁) = lines.flatMap (lineTokens r₂) ↔
      ∀ line ∈ lines, (lexemes line).getLast?.any r₁ = (lexemes line).getLast?.any r₂ := by
  constructor
  case mp =>
    intro h
    induction lines with
    | nil => nofun
    | cons line lines ih =>
      rw [List.flatMap_cons, List.flatMap_cons] at h
      have hw := takeWhile_flatMap_lineTokens h₁ h₂ lines
      have ha := any_eq_of_lineTokens_append_eq hw h
      rw [lineTokens, lineTokens, ha, List.append_cancel_left_eq] at h
      exact List.forall_mem_cons.mpr ⟨ha, ih h⟩
  case mpr =>
    intro h
    apply List.flatMap_congr
    intro line hl
    rw [lineTokens, lineTokens, h line hl]

end

-- The implemented rule is the rule of the language for all lexemes but the misjudged ones.
theorem Lexeme.impliesTerminator_eq_iff (ℓ : Lexeme) :
    ℓ.impliesTerminator = ℓ.mayBeLast ↔ ℓ.misjudged = false := by
  cases ℓ with
  | word name =>
    simp only [impliesTerminator, mayBeLast, misjudged]
    by_cases hk : name ∈ keywords <;> simp [hk]
  | literal => simp [impliesTerminator, mayBeLast, misjudged]
  | operator cs =>
    have hc : ∀ cs ∈ lastOperators, cs ∉ closers := by decide
    simp only [impliesTerminator, mayBeLast, misjudged]
    by_cases hl : cs ∈ lastOperators
    case pos => simp [hl, hc cs hl]
    case neg => simp [hl]

-- A source has the terminators that the implemented rule asks for. They are those of the language
-- if, and only if, no line ends with a lexeme that is misjudged.
theorem tokenize_line_ends {source : List Char} {ts : List Token} (h : tokenize source = .ok ts) :
    let ps := (pieces source).1
    ts = tokensBy Lexeme.impliesTerminator ps ∧
    (ts = tokensBy Lexeme.mayBeLast ps ↔
      ∀ line ∈ linesOf ps, ∀ ℓ ∈ (lexemes line).getLast?, ℓ.misjudged = false) := by
  intro ps
  have ht : ts = tokensBy Lexeme.impliesTerminator ps := by
    rw [← tokens_eq_tokensBy]
    exact (tokenize_eq_ok_iff.mp h).2.1.symm
  refine ⟨ht, ?_⟩
  rw [ht, tokensBy, tokensBy, flatMap_lineTokens_eq_iff (by decide) (by decide)]
  have ha (line : List Piece) :
      (lexemes line).getLast?.any Lexeme.impliesTerminator =
          (lexemes line).getLast?.any Lexeme.mayBeLast ↔
        ∀ ℓ ∈ (lexemes line).getLast?, ℓ.misjudged = false := by
    cases (lexemes line).getLast? <;> simp [Lexeme.impliesTerminator_eq_iff]
  simp only [ha]

set_option maxRecDepth 4096 in
theorem tokenize_line_ends_regular :
    let source := "package p /*\n*/ type T struct \x7b\n\tA, B int\n\x7d\n".toList
    let ts : List Token := [.word "package", .word "p", .terminator, .word "type", .word "T",
      .word "struct", .opening .curly, .word "A", .mark ',', .word "B", .word "int", .terminator,
      .closing .curly, .terminator]
    tokenize source = .ok ts ∧
    (∀ line ∈ linesOf (pieces source).1, ∀ ℓ ∈ (lexemes line).getLast?, ℓ.misjudged = false) ∧
    ts = tokensBy Lexeme.mayBeLast (pieces source).1 := by
  intro source ts
  have ht : tokenize source = .ok ts := by
    simp only [source, ts]
    cbv
  have hl : (linesOf (pieces source).1).all (fun line =>
      (lexemes line).getLast?.all fun ℓ => !ℓ.misjudged) = true := by
    simp only [source]
    cbv
  have hm : ∀ line ∈ linesOf (pieces source).1, ∀ ℓ ∈ (lexemes line).getLast?,
      ℓ.misjudged = false := by
    intro line hm ℓ hℓ
    have hl := List.all_eq_true.mp hl line hm
    simpa [Option.mem_def.mp hℓ] using hl
  exact ⟨ht, hm, (tokenize_line_ends ht).2.mpr hm⟩

-- A line break behind the keyword `struct` ends the statement, and one behind an increment does
-- not. So the type of the first text is not read as a struct.
set_option maxRecDepth 4096 in
theorem line_ends_misjudged :
    let source := "package p\ntype T struct\n\x7b\n\tA int `db:\"a\"`\n\x7d\n".toList
    let front : List Token := [.word "package", .word "p", .terminator, .word "type", .word "T",
      .word "struct"]
    let body : List Token := [.opening .curly, .word "A", .word "int",
      .string (.raw "db:\"a\"".toList), .terminator, .closing .curly, .terminator]
    tokenize source = .ok (front ++ .terminator :: body) ∧
    tokensBy Lexeme.mayBeLast (pieces source).1 = front ++ body ∧
    SourceFile.ofTokens (front ++ .terminator :: body) = .ok ⟨"p", [⟨"T", .other⟩]⟩ ∧
    SourceFile.ofTokens (front ++ body) =
      .ok ⟨"p", [⟨"T", .struct [⟨["A"], some "`db:\"a\"`"⟩]⟩]⟩ ∧
    tokenize "x++\ny".toList =
      .ok [.word "x", .mark '+', .mark '+', .word "y", .terminator] ∧
    tokensBy Lexeme.mayBeLast (pieces "x++\ny".toList).1 =
      [.word "x", .mark '+', .mark '+', .terminator, .word "y", .terminator] := by
  intro source front body
  simp only [source, front, body]
  refine ⟨by cbv, by cbv, by cbv, by cbv, by cbv, by cbv⟩

end ColumnConstants
