import Mathlib
import ColumnConstants.Proofs.Reading
import ColumnConstants.Source.Walker

namespace ColumnConstants

section

variable {stop : Token → Bool} {pre st : List Bracket} {b : Bracket} {ts us : List Token}

-- A walk that stops at the closer of the bracket around it meets no other closer without an opener.
theorem splitChecked_eq (h : Nested (pre ++ b :: st) ts) (hs : stop (.closing b) = true) :
    splitChecked stop pre.length ts = .ok (splitOutside stop pre.length ts) := by
  induction ts generalizing pre with
  | nil => rfl
  | cons t ts ih =>
    by_cases hd : pre.length = 0 ∧ stop t = true
    case pos => simp only [splitChecked, splitOutside, hd, and_self, if_true]
    case neg =>
      have step (pre' : List Bracket) (hn : Nested (pre' ++ b :: st) ts)
          (hu : t.isUnopened pre.length = false) (hl : t.depthAfter pre.length = pre'.length) :
          splitChecked stop pre.length (t :: ts) = .ok (splitOutside stop pre.length (t :: ts)) := by
        rw [splitOutside_cons_of_not_stop hd, splitChecked, if_neg hd, hu, hl, ih hn]
        rfl
      cases t
      case opening c => exact step (c :: pre) h rfl rfl
      case closing c =>
        obtain ⟨st', he, h⟩ := h
        cases pre with
        | nil =>
          cases he
          exact absurd ⟨rfl, hs⟩ hd
        | cons p pre =>
          cases he
          exact step pre h rfl rfl
      all_goals exact step pre h rfl rfl

theorem afterGroupChecked_eq (h : Nested (pre ++ b :: st) ts) :
    afterGroupChecked (pre.length + 1) ts = .ok (afterGroup (pre.length + 1) ts) := by
  induction ts generalizing pre with
  | nil => rfl
  | cons t ts ih =>
    cases t
    case opening c => exact ih (show Nested (c :: pre ++ b :: st) ts from h)
    case closing c =>
      obtain ⟨st', he, h⟩ := h
      cases pre with
      | nil => rfl
      | cons p pre =>
        cases he
        exact ih h
    all_goals exact ih h

theorem closesAtEndChecked_eq {depth : Nat} (h : 0 < depth) :
    closesAtEndChecked depth ts = .ok (FieldDecl.closesAtEnd depth ts) := by
  fun_induction closesAtEndChecked depth ts with
  | case1 => rfl
  | case2 _ _ ih => exact ih (Nat.succ_pos _)
  | case3 => cases h
  | case4 => rfl
  | case5 ts depth hd ih =>
    have hd : 0 < depth := Nat.pos_of_ne_zero hd
    have hl : ¬depth + 1 ≤ 1 := by omega
    rw [FieldDecl.closesAtEnd, if_neg hl]
    exact ih hd
  | case6 _ t ts ho hc ih =>
    rw [FieldDecl.closesAtEnd, ih h]
    all_goals assumption

end

namespace Walker

variable {walker : Walker} {name : String} {st : List Bracket} {ts line : List Token}

def SeesClosers (walker : Walker) : Prop :=
  ∀ ts, walker.closes (.opening .square :: ts) =
    .ok (FieldDecl.closesAtEnd 0 (.opening .square :: ts))

theorem SeesClosers.namesOf (hc : walker.SeesClosers) :
    walker.namesOf ts = .ok (FieldDecl.namesOf ts) := by
  unfold Walker.namesOf
  split
  case h_1 name ts =>
    rw [hc ts]
    rfl
  case h_2 => rfl

theorem SeesClosers.ofLine? (hc : walker.SeesClosers) :
    walker.ofLine? line = .ok (FieldDecl.ofLine? line) := by
  unfold Walker.ofLine? FieldDecl.ofLine?
  simp only [hc.namesOf]
  split
  case isTrue => rfl
  case isFalse => rfl

def EndsAlike (walker : Walker) (stop : Token → Bool) (ts : List Token) : Prop :=
  walker.split stop ts = .ok (splitOutside stop 0 ts)

theorem fieldTurn_eq (hc : walker.SeesClosers)
    (hw : walker.EndsAlike Token.endsField (skipTerminators ts)) :
    walker.fieldTurn ts = ColumnConstants.fieldTurn ts := by
  unfold EndsAlike at hw
  unfold fieldTurn ColumnConstants.fieldTurn
  generalize skipTerminators ts = us at hw
  split
  case h_1 | h_2 => rfl
  case h_3 =>
    simp only [hw, hc.ofLine?]
    rfl

theorem typeSpec_eq (hp : walker.skipTypeParams ts = .ok (ColumnConstants.skipTypeParams ts))
    (hf : ∀ body, structBody? (specifiedType ts) = some body →
      walker.structFields body = ColumnConstants.structFields body)
    (hw : walker.EndsAlike Token.endsType (specifiedType ts)) :
    walker.typeSpec name ts = ColumnConstants.typeSpec name ts := by
  unfold EndsAlike specifiedType at hw
  unfold specifiedType at hf
  unfold typeSpec ColumnConstants.typeSpec
  simp only [hp, bind, Except.bind]
  cases hb : structBody? (skipEquals (ColumnConstants.skipTypeParams ts))
  case some body => simp only [hf body hb]
  case none =>
    simp only [hw]
    rfl

theorem specTurn_eq
    (hd : ∀ name rest, skipTerminators ts = .word name :: rest →
      walker.typeSpec name rest = ColumnConstants.typeSpec name rest)
    (hw : walker.EndsAlike Token.endsType (skipTerminators ts)) :
    walker.specTurn ts = ColumnConstants.specTurn ts := by
  unfold EndsAlike at hw
  unfold specTurn ColumnConstants.specTurn
  generalize skipTerminators ts = us at hd hw
  split
  case h_1 | h_2 => rfl
  case h_3 name rest => simp only [hd name rest rfl]
  case h_4 =>
    simp only [hw]
    rfl

theorem saturating_structFields (ts : List Token) :
    saturating.structFields ts = ColumnConstants.structFields ts :=
  repeatTurns_eq_of_inside (fun _ _ => fieldTurn_eq (fun _ => rfl) rfl)
    (fun _ _ _ _ _ => trivial) trivial

theorem saturating_specGroup (ts : List Token) :
    saturating.specGroup ts = ColumnConstants.specGroup ts := by
  refine repeatTurns_eq_of_inside (fun _ _ => specTurn_eq (fun _ _ _ => typeSpec_eq ?_ ?_ rfl) rfl)
    (fun _ _ _ _ _ => trivial) trivial
  case refine_1 =>
    unfold skipTypeParams ColumnConstants.skipTypeParams
    split <;> rfl
  case refine_2 => exact fun body _ => saturating_structFields body

theorem checked_seesClosers : checked.SeesClosers := by
  intro ts
  have h : closesAtEndChecked 1 ts = .ok (FieldDecl.closesAtEnd 1 ts) :=
    closesAtEndChecked_eq Nat.one_pos
  exact h

theorem checked_structFields (h : Nested (.curly :: st) ts) :
    checked.structFields ts = ColumnConstants.structFields ts := by
  refine repeatTurns_eq_of_inside (fun ts h => ?_) (fun ts found rest h => ?_) h
  case refine_1 =>
    exact fieldTurn_eq checked_seesClosers
      (splitChecked_eq (show Nested ([] ++ .curly :: st) _ from h.skipTerminators) rfl)
  case refine_2 => exact inside_of_stay (exists_fieldTurn h)

theorem checked_skipTypeParams (h : Nested st ts) :
    checked.skipTypeParams ts = .ok (ColumnConstants.skipTypeParams ts) := by
  unfold skipTypeParams ColumnConstants.skipTypeParams
  split
  case isFalse => rfl
  case isTrue hp =>
    obtain ⟨us, rfl⟩ := exists_of_startsTypeParams hp
    exact afterGroupChecked_eq (show Nested ([] ++ .square :: st) us from h)

theorem checked_specGroup (h : Nested (.round :: st) ts) :
    checked.specGroup ts = ColumnConstants.specGroup ts := by
  refine repeatTurns_eq_of_inside (fun ts h => ?_) (fun ts found rest h => ?_) h
  case refine_2 => exact inside_of_stay (exists_specTurn h)
  case refine_1 =>
    have h : Nested ([] ++ .round :: st) (skipTerminators ts) := h.skipTerminators
    refine specTurn_eq (fun name rest hts => ?_) (splitChecked_eq h rfl)
    have h : Nested (.round :: st) rest := by simpa [hts] using h
    have ht : Nested ([] ++ .round :: st) (specifiedType rest) := h.specifiedType
    exact typeSpec_eq (checked_skipTypeParams h)
      (fun body hb => checked_structFields (h.specifiedType.structBody? hb))
      (splitChecked_eq ht rfl)

end Walker

structure Encloses (b : Bracket) (ts inner outer : List Token) : Prop where
  split : ts = inner ++ .closing b :: outer
  nested : Nested [] inner

-- At the start of the rest `ts` of a struct body stands the field line `line`, and `left` behind it.
-- The line ends with the body, or in front of the first terminator that is not inside of brackets.
structure FieldLine (ts line left : List Token) : Prop where
  split : ts = line ++ left
  ne_nil : line ≠ []
  nested : Nested [] line
  ends : left = [] ∨ ∃ more, left = .terminator :: more
  first : ∀ front back, ts = front ++ .terminator :: back → Nested [] front → line <+: front

section

variable {st : List Bracket} {b : Bracket} {t : Token} {ts inner outer : List Token}

theorem exists_encloses (h : Nested (b :: st) ts) : ∃ inner outer, Encloses b ts inner outer := by
  have ⟨inner, outer, hs, hn, _⟩ := Nested.exists_closing (show Nested ([] ++ b :: st) ts from h)
  exact ⟨inner, outer, hs, hn⟩

theorem fieldLine_splitOutside (h : Nested [] (t :: ts)) (ht : t ≠ .terminator) :
    FieldLine (t :: ts) (splitOutside Token.endsField 0 (t :: ts)).1
      (splitOutside Token.endsField 0 (t :: ts)).2 := by
  have hs := splitOutside_append Token.endsField 0 (t :: ts)
  have hl : Nested [] (splitOutside Token.endsField 0 (t :: ts)).2 :=
    Nested.splitOutside (show Nested ([] ++ []) _ from h) (by simp)
  constructor
  case split => exact hs.symm
  case nested => exact Nested.of_append (hs.symm ▸ h) hl
  case ne_nil =>
    have hc : t ≠ .closing .curly := by
      rintro rfl
      simp at h
    simp [splitOutside, Token.endsField, ht, hc]
  case ends =>
    cases hr : (splitOutside Token.endsField 0 (t :: ts)).2
    case nil => exact .inl rfl
    case cons u more =>
      have hu : u = .terminator ∨ u = .closing .curly := by
        simpa [Token.endsField] using stop_of_splitOutside hr
      obtain rfl | rfl := hu
      · exact .inr ⟨more, rfl⟩
      · simp [hr] at hl
  case first =>
    intro front back he hf
    have hb : splitOutside Token.endsField 0 (front ++ .terminator :: back) =
        ((splitOutside Token.endsField 0 front).1,
          (splitOutside Token.endsField 0 front).2 ++ .terminator :: back) :=
      splitOutside_append_of_nested hf (Nat.zero_le _) rfl
    rw [he, hb]
    exact ⟨_, splitOutside_append Token.endsField 0 front⟩

end

namespace Encloses

variable {st : List Bracket} {b : Bracket} {t : Token} {ts inner outer before after : List Token}

theorem nested_closing (h : Encloses b ts inner outer) (hn : Nested (b :: st) ts) :
    Nested (b :: st) (.closing b :: outer) := by
  rw [h.split] at hn
  exact h.nested.append_iff.mp hn

theorem skip (h : Encloses b ts inner outer) (hn : Nested (b :: st) ts) :
    afterGroup 0 (.opening b :: ts) = outer ∧
      Walker.checked.skip (.opening b :: ts) = .ok outer := by
  have ha : afterGroup 0 (.opening b :: ts) = outer := by
    rw [h.split]
    exact afterGroup_group b b h.nested
  have hc : Walker.checked.skip (.opening b :: ts) = .ok (afterGroup 0 (.opening b :: ts)) :=
    afterGroupChecked_eq (show Nested ([] ++ b :: st) ts from hn)
  exact ⟨ha, ha ▸ hc⟩

theorem structFields (h : Encloses .curly ts inner outer) (hn : Nested (.curly :: st) ts) :
    ∃ fields, ColumnConstants.structFields ts = .ok (fields, outer) ∧
      Walker.saturating.structFields ts = .ok (fields, outer) ∧
      Walker.checked.structFields ts = .ok (fields, outer) := by
  have ⟨fields, hf⟩ := exists_structFields_closing h.nested
  have hf : ColumnConstants.structFields ts = .ok (fields, outer) := by rw [h.split, hf]
  refine ⟨fields, hf, ?_, ?_⟩
  · rw [Walker.saturating_structFields, hf]
  · rw [Walker.checked_structFields hn, hf]

theorem specGroup (h : Encloses .round ts inner outer) (hn : Nested (.round :: st) ts) :
    ∃ decls, typeDecls (.opening .round :: ts) = .ok (decls, outer) ∧
      Walker.saturating.specGroup ts = .ok (decls, outer) ∧
      Walker.checked.specGroup ts = .ok (decls, outer) := by
  have ⟨decls, hd⟩ := exists_specGroup_closing h.nested
  have hd : ColumnConstants.specGroup ts = .ok (decls, outer) := by rw [h.split, hd]
  refine ⟨decls, hd, ?_, ?_⟩
  · rw [Walker.saturating_specGroup, hd]
  · rw [Walker.checked_specGroup hn, hd]

theorem fieldLine (h : Encloses .curly ts (before ++ t :: after) outer)
    (hn : Nested (.curly :: st) ts) (hb : Nested [] before) (ht : t ≠ .terminator) :
    ∃ line left, FieldLine (t :: after) line left ∧
      splitOutside Token.endsField 0 (t :: after ++ .closing .curly :: outer) =
        (line, left ++ .closing .curly :: outer) ∧
      Walker.checked.split Token.endsField (t :: after ++ .closing .curly :: outer) =
        .ok (line, left ++ .closing .curly :: outer) := by
  have ha : Nested [] (t :: after) := hb.append_iff.mp h.nested
  have hs : splitOutside Token.endsField 0 (t :: after ++ .closing .curly :: outer) =
      ((splitOutside Token.endsField 0 (t :: after)).1,
        (splitOutside Token.endsField 0 (t :: after)).2 ++ .closing .curly :: outer) :=
    splitOutside_append_of_nested ha (Nat.zero_le _) rfl
  refine ⟨_, _, fieldLine_splitOutside ha ht, hs, ?_⟩
  rw [← hs]
  exact splitChecked_eq (show Nested ([] ++ .curly :: st) _ from ha.append (h.nested_closing hn)) rfl

end Encloses

-- On the tokens of an accepted text, every walk that starts at an opener or inside of a bracket ends
-- where the brackets say.
-- In each part the last equation is about the walker that fails at a closer without an opener, so such
-- a closer is never met.
theorem tokenize_groups {source : List Char} {ts rest : List Token} {b : Bracket}
    (h : tokenize source = .ok ts) (hs : .opening b :: rest <:+ ts) :
    (∃ inner outer, Encloses b rest inner outer) ∧
    ∀ inner outer, Encloses b rest inner outer →
      (afterGroup 0 (.opening b :: rest) = outer ∧
        Walker.checked.skip (.opening b :: rest) = .ok outer) ∧
      (b = .curly →
        (∃ fields, structFields rest = .ok (fields, outer) ∧
          Walker.saturating.structFields rest = .ok (fields, outer) ∧
          Walker.checked.structFields rest = .ok (fields, outer)) ∧
        ∀ before t after, inner = before ++ t :: after → Nested [] before → t ≠ .terminator →
          ∃ line left, FieldLine (t :: after) line left ∧
            splitOutside Token.endsField 0 (t :: after ++ .closing .curly :: outer) =
              (line, left ++ .closing .curly :: outer) ∧
            Walker.checked.split Token.endsField (t :: after ++ .closing .curly :: outer) =
              .ok (line, left ++ .closing .curly :: outer)) ∧
      (b = .round →
        ∃ decls, typeDecls (.opening .round :: rest) = .ok (decls, outer) ∧
          Walker.saturating.specGroup rest = .ok (decls, outer) ∧
          Walker.checked.specGroup rest = .ok (decls, outer)) := by
  have ⟨st, hn⟩ := (nested_of_tokenize h).suffix hs
  have hn : Nested (b :: st) rest := hn
  refine ⟨exists_encloses hn, fun inner outer he => ⟨he.skip hn, ?_, ?_⟩⟩
  case refine_1 =>
    rintro rfl
    refine ⟨he.structFields hn, fun before t after hi hb ht => ?_⟩
    subst hi
    exact he.fieldLine hn hb ht
  case refine_2 =>
    rintro rfl
    exact he.specGroup hn

theorem tokenize_groups_generic :
    let source := "package p\ntype ( A[T any] struct \x7b F struct \x7b x int \x7d; G Base[T] \x7d )\n".toList
    let front : List Token := [.word "package", .word "p", .terminator, .word "type"]
    let head : List Token := [.word "A", .opening .square, .word "T", .word "any", .closing .square,
      .word "struct"]
    let inner : List Token := [.word "F", .word "struct", .opening .curly, .word "x", .word "int",
      .closing .curly, .terminator, .word "G", .word "Base", .opening .square, .word "T",
      .closing .square]
    let outer : List Token := [.closing .round, .terminator]
    let body := inner ++ .closing .curly :: outer
    let group := head ++ .opening .curly :: body
    tokenize source = .ok (front ++ .opening .round :: group) ∧
    .opening .curly :: body <:+ front ++ .opening .round :: group ∧
    Encloses .curly body inner outer ∧
    (∃ fields, Walker.checked.structFields body = .ok (fields, outer)) ∧
    (∃ line left, FieldLine inner line left ∧
      Walker.checked.split Token.endsField body = .ok (line, left ++ .closing .curly :: outer)) ∧
    ∃ decls, typeDecls (.opening .round :: group) = .ok (decls, [.terminator]) := by
  intro source front head inner outer body group
  have ht : tokenize source = .ok (front ++ .opening .round :: group) := by
    simp only [source]
    cbv
  have hs : .opening .curly :: body <:+ front ++ .opening .round :: group :=
    ⟨front ++ .opening .round :: head, by simp [group]⟩
  have he : Encloses .curly body inner outer := ⟨rfl, by simp [inner]⟩
  have hg : Encloses .round group (head ++ .opening .curly :: (inner ++ [.closing .curly]))
      [.terminator] := ⟨rfl, by simp [head, inner]⟩
  obtain ⟨_, hb⟩ := tokenize_groups ht hs
  obtain ⟨_, hc, _⟩ := hb inner outer he
  obtain ⟨⟨fields, _, _, hf⟩, hl⟩ := hc rfl
  obtain ⟨line, left, hl, _, hw⟩ := hl [] _ _ rfl rfl Token.noConfusion
  obtain ⟨_, hr⟩ := tokenize_groups ht ⟨front, rfl⟩
  obtain ⟨_, _, hd⟩ := hr _ _ hg
  obtain ⟨decls, hd, _⟩ := hd rfl
  exact ⟨ht, hs, he, ⟨fields, hf⟩, ⟨line, left, hl, hw⟩, decls, hd⟩

end ColumnConstants
