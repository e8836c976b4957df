import Mathlib
import ColumnConstants.Proofs.Acceptance

namespace ColumnConstants

-- Whether the declaration behind the keyword goes on up to the end of `inner`: it is a single one, of
-- a type other than a struct, and no terminator follows outside of brackets.
def Unended (inner : List Token) : Prop :=
  ∃ name ts, inner = .word name :: ts ∧ structBody? (specifiedType ts) = none ∧
    ∀ front back, specifiedType ts = front ++ .terminator :: back → ¬Nested [] front

section

variable {pre : List Bracket} {b : Bracket} {ts us inner outer : List Token}

theorem splitOutside_endsType_eq_nil_iff (h : Nested pre ts) :
    (splitOutside Token.endsType pre.length ts).2 = [] ↔
      ∀ front back, ts = front ++ .terminator :: back → ¬Nested pre front := by
  induction ts generalizing pre with
  | nil => simp [splitOutside]
  | cons t ts ih =>
    -- The terminator is `t` itself, or it stands behind `t`.
    have fronts (P : List Token → Prop) :
        (∀ front back, t :: ts = front ++ .terminator :: back → P front) ↔
          (t = .terminator → P []) ∧
            ∀ front back, ts = front ++ .terminator :: back → P (t :: front) := by
      constructor
      case mp =>
        intro hp
        exact ⟨fun ht => hp [] ts (by rw [ht]; rfl),
          fun front back he => hp (t :: front) back (by rw [he]; rfl)⟩
      case mpr =>
        intro hp front back he
        cases front
        case nil =>
          cases he
          exact hp.1 rfl
        case cons u front =>
          cases he
          exact hp.2 front back rfl
    rw [fronts]
    cases t
    case terminator =>
      cases pre
      case nil => simp [splitOutside, Token.endsType]
      case cons p pre => simpa [splitOutside, Token.depthAfter] using ih h
    case opening b => simpa [splitOutside, Token.endsType, Token.depthAfter] using ih h
    case closing b =>
      obtain ⟨pre, rfl, h⟩ := h
      simpa [splitOutside, Token.depthAfter] using ih h
    all_goals simpa [splitOutside, Token.endsType, Token.depthAfter] using ih h

theorem splitOutside_endsType_closing (h : Nested [] ts)
    (hr : (splitOutside Token.endsType 0 ts).2 = []) :
    (splitOutside Token.endsType 0 (ts ++ .closing b :: us)).2 =
      if b = .round then .closing b :: us else (splitOutside Token.endsType 0 us).2 := by
  rw [splitOutside_append_of_not_stopped hr, depthBehind_eq_zero_of_nested h (Nat.zero_le _)]
  cases b <;> simp [splitOutside, Token.endsType, Token.depthAfter]

theorem unended_word_iff {name : String} (h : Nested [] ts) :
    Unended (.word name :: ts) ↔
      structBody? (specifiedType ts) = none ∧
        (splitOutside Token.endsType 0 (specifiedType ts)).2 = [] := by
  have hn : Nested [] (specifiedType ts) := h.specifiedType
  have hr := splitOutside_endsType_eq_nil_iff hn
  constructor
  case mp =>
    rintro ⟨_, _, he, hs, ht⟩
    cases he
    exact ⟨hs, hr.mpr ht⟩
  case mpr =>
    intro ⟨hs, ht⟩
    exact ⟨name, ts, rfl, hs, hr.mp ht⟩

theorem typeDecls_other_closing (name : String) (h : Nested [] ts)
    (hs : structBody? (specifiedType ts) = none) :
    typeDecls (.word name :: ts ++ .closing b :: outer) =
      .ok ([⟨name, .other⟩],
        (splitOutside Token.endsType 0 (specifiedType ts ++ .closing b :: outer)).2) :=
  bind_eq_ok.mpr ⟨_, typeSpec_other name h hs fun _ => .inr ⟨b, outer, rfl⟩, rfl⟩

theorem exists_typeDecls_closing (h : Nested [] inner) (hb : b = .round ∨ ¬Unended inner) :
    ∃ decls rest, Nested [] rest ∧
      ∀ outer, typeDecls (inner ++ .closing b :: outer) =
        .ok (decls, rest ++ .closing b :: outer) := by
  match inner with
  | [] => exact ⟨[], [], h, fun _ => rfl⟩
  | .word name :: ts =>
    have h : Nested [] ts := h
    match hs : structBody? (specifiedType ts) with
    | some body =>
      have ⟨fields, rest, hr, hd⟩ := exists_typeSpec_struct name h hs
      exact ⟨_, rest, hr, fun us => bind_eq_ok.mpr ⟨_, hd _ fun _ => .inr ⟨b, us, rfl⟩, rfl⟩⟩
    | none =>
      by_cases hr : (splitOutside Token.endsType 0 (specifiedType ts)).2 = []
      case pos =>
        have hb : b = .round := hb.resolve_right fun hb => hb ((unended_word_iff h).mpr ⟨hs, hr⟩)
        refine ⟨[⟨name, .other⟩], [], rfl, fun us => ?_⟩
        rw [typeDecls_other_closing name h hs, splitOutside_endsType_closing h.specifiedType hr,
          if_pos hb]
        rfl
      case neg =>
        have hn : Nested [] (splitOutside Token.endsType 0 (specifiedType ts)).2 :=
          Nested.splitOutside (show Nested ([] ++ []) _ from h.specifiedType) (by simp)
        refine ⟨[⟨name, .other⟩], _, hn, fun us => ?_⟩
        rw [typeDecls_other_closing name h hs, splitOutside_append_of_stopped hr]
  | .opening .round :: ts =>
    have ⟨decls, rest, hn, hd⟩ := exists_specGroup (show Nested [.round] ts from h)
    exact ⟨decls, rest, hn, fun us => hd _⟩
  | .opening .square :: ts | .opening .curly :: ts | .string _ :: ts | .constant :: ts
  | .mark _ :: ts | .terminator :: ts => exact ⟨[], _, h, fun _ => rfl⟩

-- A declaration that goes on up to the end of a block goes on behind the block.
theorem typeDecls_closing_of_unended (h : Nested [] inner) (hu : Unended inner) (hb : b ≠ .round)
    (outer : List Token) :
    ∃ decls, typeDecls (inner ++ .closing b :: outer) =
      .ok (decls, (splitOutside Token.endsType 0 outer).2) := by
  have ⟨name, ts, he, _⟩ := hu
  subst he
  have h : Nested [] ts := h
  have ⟨hs, hr⟩ := (unended_word_iff h).mp hu
  rw [typeDecls_other_closing name h hs, splitOutside_endsType_closing h.specifiedType hr,
    if_neg hb]
  exact ⟨_, rfl⟩

theorem not_closing_suffix (h : us <:+ outer) : ¬.closing b :: outer <:+ us := by
  intro hs
  have hl := hs.length_le
  have := h.length_le
  rw [List.length_cons] at hl
  omega

end

def GoesOn (ts us : List Token) : Prop :=
  ∃ decls, declTurn ts = .ok (.stay decls us)

-- The loop over a file, from `ts` on, comes to `us`.
def Reaches : List Token → List Token → Prop :=
  Relation.ReflTransGen GoesOn

section

variable {pre : List Bracket} {b : Bracket} {ts us vs inner outer : List Token}

theorem GoesOn.suffix (h : GoesOn ts us) : us <:+ ts := by
  have ⟨_, h⟩ := h
  exact declTurn_progress.suffix h

theorem GoesOn.shorter (h : GoesOn ts us) : us.length < ts.length := by
  have ⟨_, h⟩ := h
  exact declTurn_progress.shorter h

theorem GoesOn.rightUnique : Relator.RightUnique GoesOn := by
  intro ts us vs ⟨_, hu⟩ ⟨_, hv⟩
  cases hu.symm.trans hv
  rfl

theorem Reaches.suffix (h : Reaches ts us) : us <:+ ts := by
  induction h with
  | refl => exact List.suffix_rfl
  | tail _ hg ih => exact hg.suffix.trans ih

theorem Reaches.of_length_le (hu : Reaches ts us) (hv : Reaches ts vs)
    (hl : vs.length ≤ us.length) : Reaches us vs := by
  obtain h | h := Relation.ReflTransGen.total_of_right_unique GoesOn.rightUnique hu hv
  · exact h
  · obtain rfl | ⟨_, hg, h⟩ := Relation.ReflTransGen.cases_head h
    · exact .refl
    · have := (Reaches.suffix h).length_le
      have := hg.shorter
      omega

theorem Reaches.other {t : Token} (h : Reaches ts (t :: us)) (ht : t ≠ .word "type") :
    Reaches ts us :=
  h.tail ⟨[], declTurn_of_other ht⟩

theorem Reaches.others {front : List Token} (h : Reaches ts (front ++ us))
    (ht : .word "type" ∉ front) : Reaches ts us := by
  induction front with
  | nil => exact h
  | cons t front ih =>
    have ⟨ht, hf⟩ : .word "type" ≠ t ∧ .word "type" ∉ front := by simpa using ht
    exact ih (h.other ht.symm) hf

theorem Reaches.decls {decls : List TypeDecl} (h : Reaches ts (.word "type" :: us))
    (hd : typeDecls us = .ok (decls, vs)) : Reaches ts vs :=
  h.tail ⟨decls, declTurn_of_type hd⟩

theorem Reaches.repeatTurns {types : List TypeDecl} (h : Reaches ts us)
    (ht : repeatTurns declTurn ts = .ok (types, vs)) :
    ∃ before found, types = before ++ found ∧ repeatTurns declTurn us = .ok (found, vs) := by
  induction h with
  | refl => exact ⟨[], types, rfl, ht⟩
  | tail _ hg ih =>
    have ⟨before, found, he, hf⟩ := ih
    have ⟨decls, hg⟩ := hg
    rw [repeatTurns_of_stay declTurn_progress hg] at hf
    have ⟨⟨more, _⟩, hm, hf⟩ := map_eq_ok.mp hf
    cases hf
    exact ⟨before ++ decls, more, by rw [he, List.append_assoc], hm⟩

-- If every declaration stays inside of its block, the loop leaves a block by its closer.
theorem Reaches.closing {ts outer : List Token} {b : Bracket}
    (hb : ∀ b inner outer, Nested [] inner →
      Reaches ts (.word "type" :: (inner ++ .closing b :: outer)) → b = .round ∨ ¬Unended inner)
    {pre : List Bracket} {inner : List Token} (hn : Nested pre inner)
    (h : Reaches ts (inner ++ .closing b :: outer)) : Reaches ts (.closing b :: outer) := by
  match inner with
  | [] => exact h
  | t :: inner =>
    by_cases ht : t = .word "type"
    case neg =>
      have ⟨_, hn⟩ := hn.tail
      exact Reaches.closing hb hn (h.other ht)
    case pos =>
      subst ht
      cases pre
      case nil =>
        have hn : Nested [] inner := hn
        have ⟨_, rest, hr, hd⟩ := exists_typeDecls_closing hn (hb b inner outer hn h)
        have hl := (typeDecls_suffix (hd outer)).length_le
        exact Reaches.closing hb hr (h.decls (hd outer))
      case cons c pre =>
        -- The keyword stands in a block `c` that is closed in front of the closer of `b`.
        have ⟨inner', outer', he, hi, ho⟩ :=
          Nested.exists_closing (show Nested ([] ++ c :: pre) inner from hn)
        subst he
        have h : Reaches ts
            (.word "type" :: (inner' ++ .closing c :: (outer' ++ .closing b :: outer))) := by
          simpa using h
        have ⟨_, rest, hr, hd⟩ := exists_typeDecls_closing hi (hb c inner' _ hi h)
        have hl := (typeDecls_suffix (hd (outer' ++ .closing b :: outer))).length_le
        have hn : Nested ([] ++ c :: pre) (rest ++ .closing c :: outer') := hr.append ⟨pre, rfl, ho⟩
        exact Reaches.closing hb hn (by simpa using h.decls (hd _))
termination_by inner.length
decreasing_by
  all_goals subst_vars
  all_goals simp only [List.length_append, List.length_cons] at *
  all_goals omega

theorem exists_typeDecls_block (b : Bracket) (outer : List Token) (hn : Nested [] inner) :
    ∃ decls after, typeDecls (inner ++ .closing b :: outer) = .ok (decls, after) ∧
      (.closing b :: outer <:+ after ↔ b = .round ∨ ¬Unended inner) := by
  by_cases hb : b = .round ∨ ¬Unended inner
  case pos =>
    have ⟨decls, rest, _, hd⟩ := exists_typeDecls_closing hn hb
    exact ⟨decls, _, hd outer, fun _ => hb, fun _ => List.suffix_append ..⟩
  case neg =>
    have ⟨hr, hu⟩ : b ≠ .round ∧ Unended inner := by simpa using hb
    have ⟨decls, hd⟩ := typeDecls_closing_of_unended hn hu hr outer
    refine ⟨decls, _, hd, fun hs => ?_, fun h => absurd h hb⟩
    exact absurd hs (not_closing_suffix (splitOutside_suffix ..))

end

namespace SourceFile

-- A declaration inside of a block stays there if and only if it does not go on up to the end of the
-- block, or the block is in round brackets. If all of them stay, and only then, every block that is
-- entered is left by its closer. What is declared at a place that is come to is reported.
theorem ofText_blocks {source : List Char} {ts rest : List Token} {name : String}
    (ht : tokenize source = .ok ts) (hp : PackageClause ts name rest) :
    (∀ b inner outer, Nested [] inner →
      Reaches rest (.word "type" :: (inner ++ .closing b :: outer)) →
      ∃ decls after, typeDecls (inner ++ .closing b :: outer) = .ok (decls, after) ∧
        (.closing b :: outer <:+ after ↔ b = .round ∨ ¬Unended inner)) ∧
    ((∀ b inner outer, Nested [] inner →
      Reaches rest (.word "type" :: (inner ++ .closing b :: outer)) → b = .round ∨ ¬Unended inner) ↔
      ∀ b inner outer, Nested [] inner → Reaches rest (inner ++ .closing b :: outer) →
        Reaches rest (.closing b :: outer)) ∧
    ∃ file, ofText source = .ok file ∧
      ∀ us decls after, Reaches rest (.word "type" :: us) → typeDecls us = .ok (decls, after) →
        decls <:+: file.types := by
  refine ⟨fun b inner outer hn _ => ?stays, ⟨fun hb b inner outer hn h => ?left, fun hl => ?only⟩,
    ?reported⟩
  case stays => exact exists_typeDecls_block b outer hn
  case left => exact h.closing hb hn
  case only =>
    intro b inner outer hn h
    have ⟨decls, after, hd, hs⟩ := exists_typeDecls_block b outer hn
    refine hs.mp ?_
    -- The loop goes on behind the declaration, and it comes to the closer only from there.
    have hc : Reaches rest (.closing b :: outer) := hl b (.word "type" :: inner) outer hn h
    have hc := h.of_length_le hc (by simp; omega)
    obtain he | ⟨us, hg, hc⟩ := Relation.ReflTransGen.cases_head hc
    · exact absurd (congrArg List.length he) (by simp; omega)
    · cases GoesOn.rightUnique hg ⟨decls, declTurn_of_type hd⟩
      exact Reaches.suffix hc
  case reported =>
    have ⟨file, hf⟩ := exists_ofTokens (nested_of_tokenize ht) hp
    have ⟨_, us, hr⟩ := (ofTokens_eq_ok_iff hp).mp hf
    refine ⟨file, (ofText_of_tokenize ht).trans hf, fun vs decls after h hd => ?_⟩
    have ⟨before, found, he, hf⟩ := h.repeatTurns hr
    rw [repeatTurns_of_stay declTurn_progress (declTurn_of_type hd)] at hf
    have ⟨⟨more, _⟩, _, hm⟩ := map_eq_ok.mp hf
    cases hm
    exact ⟨before, more, by rw [he, List.append_assoc]⟩

theorem ofText_blocks_terminated :
    let source :=
      "package p\nfunc f(x bool) \x7b if x \x7b type a int; \x7d else \x7b type b int \x7d \x7d".toList
    let front : List Token := [.terminator, .word "func", .word "f", .opening .round, .word "x",
      .word "bool", .closing .round, .opening .curly, .word "if", .word "x", .opening .curly]
    let inner : List Token := [.word "a", .word "int", .terminator]
    let outer : List Token := [.word "else", .opening .curly, .word "type", .word "b", .word "int",
      .closing .curly, .closing .curly, .terminator]
    let rest := front ++ .word "type" :: (inner ++ .closing .curly :: outer)
    tokenize source = .ok (.word "package" :: .word "p" :: rest) ∧
    PackageClause (.word "package" :: .word "p" :: rest) "p" rest ∧
    Nested [] inner ∧
    Reaches rest (.word "type" :: (inner ++ .closing .curly :: outer)) ∧
    ∃ decls after, typeDecls (inner ++ .closing .curly :: outer) = .ok (decls, after) ∧
      .closing .curly :: outer <:+ after := by
  intro source front inner outer rest
  have ht : tokenize source = .ok (.word "package" :: .word "p" :: rest) := by
    simp only [source]
    cbv
  have hp : PackageClause (.word "package" :: .word "p" :: rest) "p" rest := by
    simp [PackageClause, skipTerminators]
  have hn : Nested [] inner := rfl
  have hr : Reaches rest (.word "type" :: (inner ++ .closing .curly :: outer)) :=
    Reaches.others .refl (by decide)
  have hu : ¬Unended [.word "a", .word "int", .terminator] := by
    rintro ⟨_, _, he, _, hf⟩
    cases he
    exact hf [.word "int"] [] rfl rfl
  obtain ⟨decls, after, hd, hs⟩ := (ofText_blocks ht hp).1 .curly inner outer hn hr
  exact ⟨ht, hp, hn, hr, decls, after, hd, hs.mpr (.inr hu)⟩

-- Without the terminator, the declaration of `a` takes all that follows it, and that of `b` is lost.
theorem declaration_leaves_block :
    let source :=
      "package p\nfunc f(x bool) \x7b if x \x7b type a int \x7d else \x7b type b int \x7d \x7d".toList
    let front : List Token := [.terminator, .word "func", .word "f", .opening .round, .word "x",
      .word "bool", .closing .round, .opening .curly, .word "if", .word "x", .opening .curly]
    let inner : List Token := [.word "a", .word "int"]
    let outer : List Token := [.word "else", .opening .curly, .word "type", .word "b", .word "int",
      .closing .curly, .closing .curly, .terminator]
    let rest := front ++ .word "type" :: (inner ++ .closing .curly :: outer)
    tokenize source = .ok (.word "package" :: .word "p" :: rest) ∧
    Nested [] inner ∧
    Reaches rest (.word "type" :: (inner ++ .closing .curly :: outer)) ∧
    typeDecls (inner ++ .closing .curly :: outer) = .ok ([⟨"a", .other⟩], [.terminator]) ∧
    ¬.closing .curly :: outer <:+ [.terminator] ∧
    ofText source = .ok ⟨"p", [⟨"a", .other⟩]⟩ := by
  intro source front inner outer rest
  simp only [source]
  refine ⟨by cbv, rfl, Reaches.others .refl (by decide), by rfl, fun hs => ?_, by cbv⟩
  exact absurd hs.length_le (by decide)

end SourceFile

end ColumnConstants
