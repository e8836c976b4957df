import Mathlib
import ColumnConstants.Proofs.Reading

namespace ColumnConstants

structure Enclosed where
  tokens : List Token
  nested : Nested [] tokens

def Token.startsConstraint : Token → Bool
  | word _ | opening .square | opening .round => true
  | mark c => c ∈ ['~', '*', '<']
  | _ => false

-- The constraint of type parameters. All that matters of it is how it starts, and that its brackets
-- nest.
structure Constraint where
  head   : Token
  tail   : List Token
  starts : head.startsConstraint = true
  nested : Nested [] (head :: tail)

structure TypeParam where
  first : String
  more : List String
  constraint : Constraint

structure TypeParams where
  first : TypeParam
  more : List TypeParam
  endsWithComma : Bool

def unaryOperators : List (List Char) :=
  ["+", "-", "!", "^", "*", "&", "<-"].map String.toList

def binaryOperators : List (List Char) :=
  ["||", "&&", "==", "!=", "<", "<=", ">", ">=", "+", "-", "|", "^", "*", "/", "%", "<<", ">>", "&",
    "&^"].map String.toList

inductive Length where
  | constant
  | string (l : StringLiteral)
  | name (w : String)
  | parens (inner : Enclosed)
  -- `p.N`, and a call, an index, type arguments or a composite literal behind an operand.
  | select (n : Length) (w : String)
  | apply (n : Length) (b : Bracket) (inner : Enclosed)
  | unary (op : List Char) (h : op ∈ unaryOperators) (n : Length)
  | binary (op : List Char) (h : op ∈ binaryOperators) (m n : Length)

def bracketed (b : Bracket) (ts us : List Token) : List Token :=
  .opening b :: (ts ++ .closing b :: us)

def Enclosed.struct (body : Enclosed) (us : List Token) : List Token :=
  .word "struct" :: bracketed .curly body.tokens us

namespace TypeParam

def tokens (p : TypeParam) : List Token :=
  .word p.first :: (p.more.flatMap (fun n => [.mark ',', .word n]) ++
    p.constraint.head :: p.constraint.tail)

-- Whether the second token is a word, a comma or a tilde.
def isEvident (p : TypeParam) : Bool :=
  !p.more.isEmpty ||
    match p.constraint.head with
    | .word _ => true
    | t => t = .mark '~'

end TypeParam

def TypeParams.tokens (ps : TypeParams) : List Token :=
  ps.first.tokens ++ ps.more.flatMap (fun p => .mark ',' :: p.tokens) ++
    if ps.endsWithComma then [.mark ','] else []

def Length.tokens : Length → List Token
  | constant => [.constant]
  | string l => [.string l]
  | name w => [.word w]
  | parens inner => bracketed .round inner.tokens []
  | select n w => n.tokens ++ [.mark '.', .word w]
  | apply n b inner => n.tokens ++ bracketed b inner.tokens []
  | unary op _ n => op.map .mark ++ n.tokens
  | binary op _ m n => m.tokens ++ op.map .mark ++ n.tokens

theorem TypeParam.nested (p : TypeParam) : Nested [] p.tokens := by
  have hm (us : List Token) :
      Nested [] (p.more.flatMap (fun n => [.mark ',', .word n]) ++ us) ↔ Nested [] us :=
    nested_flatMap_append fun n vs => by simp
  rw [tokens, Nested.word_iff, hm]
  exact p.constraint.nested

theorem TypeParams.nested (ps : TypeParams) : Nested [] ps.tokens := by
  have hm : Nested [] (ps.more.flatMap (fun p => .mark ',' :: p.tokens)) := by
    rw [← List.append_nil (ps.more.flatMap _)]
    refine (nested_flatMap_append fun p vs => ?_).mpr rfl
    exact p.nested.append_iff
  have hc : Nested [] (if ps.endsWithComma then [Token.mark ','] else []) := by
    split <;> simp
  exact (ps.first.nested.append hm).append hc

theorem nested_map_mark (op : List Char) : Nested [] (op.map .mark) := by
  induction op with
  | nil => rfl
  | cons c op ih => exact ih

theorem nested_bracketed {b : Bracket} (inner : Enclosed) : Nested [] (bracketed b inner.tokens []) :=
  inner.nested.append (show Nested [b] [.closing b] from ⟨[], rfl, rfl⟩)

theorem Length.nested (n : Length) : Nested [] n.tokens := by
  induction n with
  | constant | string l | name w => rfl
  | parens inner => exact nested_bracketed inner
  | select n w ih => exact ih.append rfl
  | apply n b inner ih => exact ih.append (nested_bracketed inner)
  | unary op _ n ih => exact (nested_map_mark op).append ih
  | binary op _ m n ihm ihn => exact (ihm.append (nested_map_mark op)).append ihn

section

variable {name : String} {us : List Token}

theorem startsTypeParams_typeParam (p : TypeParam) :
    startsTypeParams (.opening .square :: (p.tokens ++ us)) = p.isEvident := by
  cases hm : p.more
  case cons n ns => simp [TypeParam.tokens, TypeParam.isEvident, startsTypeParams, hm]
  case nil =>
    have hs := p.constraint.starts
    cases hh : p.constraint.head
    case mark c =>
      have hc : c ≠ ',' := by
        rintro rfl
        rw [hh] at hs
        exact absurd hs (by decide)
      simp [TypeParam.tokens, TypeParam.isEvident, startsTypeParams, hm, hh, hc]
    all_goals simp [TypeParam.tokens, TypeParam.isEvident, startsTypeParams, hm, hh]

theorem startsTypeParams_typeParams (ps : TypeParams) :
    startsTypeParams (bracketed .square ps.tokens us) = ps.first.isEvident := by
  rw [bracketed, TypeParams.tokens, List.append_assoc, List.append_assoc]
  exact startsTypeParams_typeParam ps.first

theorem exists_of_mem_binaryOperators :
    ∀ op ∈ binaryOperators, ∃ c cs, op = c :: cs ∧ c ≠ ',' ∧ c ≠ '~' := by
  simp [binaryOperators]

theorem ne_nil_of_mem_unaryOperators : ∀ op ∈ unaryOperators, op ≠ [] := by
  decide

-- A length does not look like type parameters, as long as nothing behind a single name does.
theorem startsTypeParams_length (n : Length)
    (hu : ∀ w, startsTypeParams (.opening .square :: .word w :: us) = false) :
    startsTypeParams (.opening .square :: (n.tokens ++ us)) = false := by
  induction n generalizing us with
  | constant | string l | parens inner => rfl
  | name w => exact hu w
  | select n w ih =>
    rw [Length.tokens, List.append_assoc]
    exact ih fun v => rfl
  | apply n b inner ih =>
    rw [Length.tokens, List.append_assoc]
    exact ih fun v => rfl
  | unary op h n ih =>
    obtain ⟨c, cs, rfl⟩ := List.exists_cons_of_ne_nil (ne_nil_of_mem_unaryOperators op h)
    rfl
  | binary op h m n ihm ihn =>
    obtain ⟨c, cs, rfl, hc, ht⟩ := exists_of_mem_binaryOperators op h
    rw [Length.tokens, List.append_assoc, List.append_assoc]
    refine ihm fun v => ?_
    simp [startsTypeParams, hc, ht]

theorem typeSpec_typeParams {ts : List Token} (hn : Nested [] ts)
    (h : startsTypeParams (bracketed .square ts us) = true) (hu : startsTypeParams us = false) :
    typeSpec name (bracketed .square ts us) = typeSpec name us := by
  have hs : skipTypeParams (bracketed .square ts us) = us := by
    rw [skipTypeParams, if_pos h]
    exact afterGroup_group .square .square hn
  have hp : skipTypeParams us = us := by
    rw [skipTypeParams, hu]
    rfl
  simp only [typeSpec, hs, hp]

theorem typeSpec_array {ts : List Token} (hn : Nested [] ts)
    (h : startsTypeParams (bracketed .square ts us) = false) :
    typeSpec name (bracketed .square ts us) =
      .ok (⟨name, .other⟩, (splitOutside Token.endsType 0 us).2) := by
  have hp : skipTypeParams (bracketed .square ts us) = bracketed .square ts us := by
    rw [skipTypeParams, h]
    rfl
  have hs : splitOutside Token.endsType 0 (bracketed .square ts us) =
      (bracketed .square ts (splitOutside Token.endsType 0 us).1,
        (splitOutside Token.endsType 0 us).2) := splitOutside_group .square hn rfl
  have he : skipEquals (bracketed .square ts us) = bracketed .square ts us := rfl
  have hb : structBody? (bracketed .square ts us) = none := rfl
  simp only [typeSpec, hp, he, hb, hs]

end

namespace Enclosed

variable {us : List Token}

theorem exists_typeSpec_struct (name : String) (body : Enclosed) :
    ∃ fields, ∀ us, typeSpec name (body.struct us) = .ok (⟨name, .struct fields⟩, us) := by
  have ⟨fields, hf⟩ := exists_structFields_closing body.nested
  refine ⟨fields, fun us => ?_⟩
  have hs : skipEquals (skipTypeParams (body.struct us)) = body.struct us := rfl
  have hb : structBody? (body.struct us) = some (body.tokens ++ .closing .curly :: us) := rfl
  simp only [typeSpec, hs, hb]
  exact bind_eq_ok.mpr ⟨_, hf us, rfl⟩

theorem splitOutside_struct (body : Enclosed) :
    (splitOutside Token.endsType 0 (body.struct us)).2 =
      (splitOutside Token.endsType 0 us).2 := by
  have hs : splitOutside Token.endsType 0 (bracketed .curly body.tokens us) =
      (bracketed .curly body.tokens (splitOutside Token.endsType 0 us).1,
        (splitOutside Token.endsType 0 us).2) := splitOutside_group .curly body.nested rfl
  have hw : ¬(0 = 0 ∧ Token.endsType (.word "struct") = true) := by decide
  have hd : (Token.word "struct").depthAfter 0 = 0 := rfl
  rw [struct, splitOutside_cons_of_not_stop hw, hd, hs]

end Enclosed

-- Behind a list of type parameters, a struct type has the same fields as without, if the list starts
-- with two names, or with one whose constraint starts with a word or a tilde. With any other list the
-- type is taken for an array and skipped. What starts with the length of an array, or with the empty
-- brackets of a slice, is no struct type in any case.
theorem typeSpec_brackets (name : String) (ps : TypeParams) (body : Enclosed) (n : Length)
    (us : List Token) :
    ∃ fields,
      typeSpec name (body.struct us) = .ok (⟨name, .struct fields⟩, us) ∧
      typeSpec name (bracketed .square ps.tokens (body.struct us)) =
        (if ps.first.isEvident then .ok (⟨name, .struct fields⟩, us)
          else .ok (⟨name, .other⟩, (splitOutside Token.endsType 0 us).2)) ∧
      typeSpec name (bracketed .square n.tokens us) =
        .ok (⟨name, .other⟩, (splitOutside Token.endsType 0 us).2) ∧
      typeSpec name (bracketed .square [] us) =
        .ok (⟨name, .other⟩, (splitOutside Token.endsType 0 us).2) := by
  have ⟨fields, hf⟩ := body.exists_typeSpec_struct name
  have hp : startsTypeParams (bracketed .square ps.tokens (body.struct us)) = ps.first.isEvident :=
    startsTypeParams_typeParams ps
  refine ⟨fields, hf us, ?_, typeSpec_array n.nested (startsTypeParams_length n fun w => rfl),
    typeSpec_array (Nested.nil_iff.mpr rfl) rfl⟩
  split
  case isTrue h => rw [typeSpec_typeParams ps.nested (hp.trans h) rfl, hf us]
  case isFalse h =>
    rw [typeSpec_array ps.nested (hp.trans (Bool.eq_false_iff.mpr h)), body.splitOutside_struct]

set_option maxRecDepth 4096 in
-- The struct type behind `[S []E, E any]` is lost, as `S []E` looks like the length of an array.
theorem slice_constraint_misread :
    let source := "package p\ntype T[S []E, E any] struct \x7b A int \x7d\n".toList
    let s : TypeParam :=
      ⟨"S", [], ⟨.opening .square, [.closing .square, .word "E"], rfl, [], rfl, rfl⟩⟩
    let e : TypeParam := ⟨"E", [], ⟨.word "any", [], rfl, rfl⟩⟩
    let ps : TypeParams := ⟨s, [e], false⟩
    let body : Enclosed := ⟨[.word "A", .word "int"], rfl⟩
    tokenize source = .ok (.word "package" :: .word "p" :: .terminator :: .word "type" ::
      .word "T" :: bracketed .square ps.tokens (body.struct [.terminator])) ∧
    typeSpec "T" (body.struct [.terminator]) =
      .ok (⟨"T", .struct [⟨["A"], none⟩]⟩, [.terminator]) ∧
    typeSpec "T" (bracketed .square ps.tokens (body.struct [.terminator])) =
      .ok (⟨"T", .other⟩, [.terminator]) ∧
    SourceFile.ofText source = .ok ⟨"p", [⟨"T", .other⟩]⟩ := by
  intro source s e ps body
  have ht : tokenize source = .ok (.word "package" :: .word "p" :: .terminator :: .word "type" ::
      .word "T" :: bracketed .square ps.tokens (body.struct [.terminator])) := by
    simp only [source]
    cbv
  have hf : SourceFile.ofText source = .ok ⟨"p", [⟨"T", .other⟩]⟩ := by
    simp only [source]
    cbv
  exact ⟨ht, by cbv, by cbv, hf⟩

end ColumnConstants
