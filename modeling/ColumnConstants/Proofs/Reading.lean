import ColumnConstants.Proofs.Walk
import ColumnConstants.Source.Scan

namespace ColumnConstants

section

variable {st : List Bracket} {ts us : List Token} {name : String}

def EndsStatement (us : List Token) : Prop :=
  us = [] ∨ ∃ vs, us = .terminator :: vs

-- What may follow tokens that close `st` without making a difference to a type specification among
-- them: the end of a statement, and anything at all if the specification stands in a group.
def Seam (st : List Bracket) (us : List Token) : Prop :=
  st.head? = some .round ∨ EndsStatement us

-- Whether a specification in front of `us` cannot go on there: nothing is left, a terminator comes, or
-- the bracket around it is closed.
def Interrupts (us : List Token) : Prop :=
  EndsStatement us ∨ ∃ b vs, us = .closing b :: vs

theorem Seam.interrupts (hs : Seam st us) (h : st = []) : Interrupts us := by
  cases hs
  case inl hs => simp [h] at hs
  case inr hs => exact .inl hs

theorem startsTypeParams_append (h : Nested st ts) (hs : st = [] → Interrupts us) :
    startsTypeParams (ts ++ us) = startsTypeParams ts := by
  match ts with
  | [] => obtain (rfl | ⟨vs, rfl⟩) | ⟨b, vs, rfl⟩ := hs h <;> rfl
  | [.opening .square] => simp at h
  | [.opening .square, .word w] => simp at h
  | .opening .square :: .word w :: t :: ts => cases t <;> rfl
  | .opening .square :: .opening _ :: ts | .opening .square :: .closing _ :: ts
  | .opening .square :: .string _ :: ts | .opening .square :: .constant :: ts
  | .opening .square :: .mark _ :: ts | .opening .square :: .terminator :: ts => rfl
  | .opening .round :: ts | .opening .curly :: ts | .word _ :: ts | .string _ :: ts
  | .constant :: ts | .closing _ :: ts | .mark _ :: ts | .terminator :: ts => rfl

theorem exists_of_startsTypeParams (h : startsTypeParams ts = true) :
    ∃ us, ts = .opening .square :: us := by
  unfold startsTypeParams at h
  split at h
  case h_1 | h_2 => exact ⟨_, rfl⟩
  case h_3 => cases h

theorem Nested.skipTypeParams (h : Nested st ts) : Nested st (skipTypeParams ts) := by
  unfold ColumnConstants.skipTypeParams
  split
  case isTrue hp =>
    obtain ⟨us, rfl⟩ := exists_of_startsTypeParams hp
    exact Nested.afterGroup (show Nested ([] ++ .square :: st) us from h)
  case isFalse => exact h

theorem skipTypeParams_append (h : Nested st ts) (hs : st = [] → Interrupts us) :
    skipTypeParams (ts ++ us) = skipTypeParams ts ++ us := by
  unfold skipTypeParams
  rw [startsTypeParams_append h hs]
  split
  case isTrue hp =>
    obtain ⟨ts, rfl⟩ := exists_of_startsTypeParams hp
    exact afterGroup_append_of_nested (show Nested ([] ++ .square :: st) ts from h)
  case isFalse => rfl

theorem Nested.skipEquals (h : Nested st ts) : Nested st (skipEquals ts) := by
  unfold ColumnConstants.skipEquals
  split
  · exact h
  · exact h

theorem skipEquals_append (h : Nested st ts) (hs : st = [] → Interrupts us) :
    skipEquals (ts ++ us) = skipEquals ts ++ us := by
  cases ts
  case nil => obtain (rfl | ⟨vs, rfl⟩) | ⟨b, vs, rfl⟩ := hs h <;> rfl
  case cons t ts =>
    by_cases ht : t = .mark '='
    case pos => simp [ht, skipEquals]
    case neg => simp [ht, skipEquals]

theorem Nested.structBody? {body : List Token} (h : Nested st ts)
    (hb : structBody? ts = some body) : Nested (.curly :: st) body := by
  unfold ColumnConstants.structBody? at hb
  split at hb
  case h_1 =>
    split at hb <;> cases hb
    exact h
  case h_2 => cases hb

theorem structBody?_append (h : Nested st ts) (hs : st = [] → Interrupts us) :
    structBody? (ts ++ us) = (structBody? ts).map (· ++ us) := by
  match ts with
  | [] | [.word w] => obtain (rfl | ⟨vs, rfl⟩) | ⟨b, vs, rfl⟩ := hs h <;> rfl
  | .word w :: t :: ts =>
    by_cases ht : t = .opening .curly
    case pos => by_cases hw : w = "struct" <;> simp [structBody?, ht, hw]
    case neg => simp [structBody?, ht]
  | .opening _ :: ts | .string _ :: ts | .constant :: ts | .closing _ :: ts | .mark _ :: ts
  | .terminator :: ts => rfl

end

theorem exists_repeatTurns {α : Type} {turn : List Token → Except SourceError (Turn α)}
    {Inside Outside : List Token → Prop} (p : Progress turn)
    (step : ∀ ts, Inside ts →
      (∃ rest, Outside rest ∧ ∀ us, turn (ts ++ us) = .ok (.leave (rest ++ us))) ∨
      (∃ found rest, Inside rest ∧ ∀ us, turn (ts ++ us) = .ok (.stay found (rest ++ us))))
    {ts : List Token} (h : Inside ts) :
    ∃ found rest, Outside rest ∧ ∀ us, repeatTurns turn (ts ++ us) = .ok (found, rest ++ us) := by
  cases step ts h
  case inl hl =>
    have ⟨rest, hr, hu⟩ := hl
    exact ⟨[], rest, hr, fun us => repeatTurns_of_leave (hu us)⟩
  case inr hs =>
    have ⟨found, rest, hr, hu⟩ := hs
    have ht : turn ts = .ok (.stay found rest) := by simpa using hu []
    have := p.shorter ht
    have ⟨more, rest', hr', hu'⟩ := exists_repeatTurns p step hr
    refine ⟨found ++ more, rest', hr', fun us => ?_⟩
    rw [repeatTurns_of_stay p (hu us), hu' us]
    rfl
termination_by ts.length

theorem inside_of_stay {α : Type} {turn : List Token → Except SourceError (Turn α)}
    {Inside Outside : List Token → Prop} {ts rest : List Token} {found : List α}
    (h : (∃ rest, Outside rest ∧ ∀ us, turn (ts ++ us) = .ok (.leave (rest ++ us))) ∨
      (∃ found rest, Inside rest ∧ ∀ us, turn (ts ++ us) = .ok (.stay found (rest ++ us))))
    (ht : turn ts = .ok (.stay found rest)) : Inside rest := by
  cases h
  case inl h =>
    have ⟨rest', _, hu⟩ := h
    have hl : turn ts = .ok (.leave rest') := by simpa using hu []
    cases hl.symm.trans ht
  case inr h =>
    have ⟨found', rest', hr, hu⟩ := h
    have hs : turn ts = .ok (.stay found' rest') := by simpa using hu []
    cases hs.symm.trans ht
    exact hr

theorem exists_repeatTurns_closing {α : Type} {turn : List Token → Except SourceError (Turn α)}
    {b : Bracket} {body : List Token} (p : Progress turn) (h : Nested [] body)
    (hr : ∃ found rest, Nested [] rest ∧
      ∀ us, repeatTurns turn (body ++ [.closing b] ++ us) = .ok (found, rest ++ us)) :
    ∃ found, ∀ us, repeatTurns turn (body ++ .closing b :: us) = .ok (found, us) := by
  have ⟨found, rest, hn, hf⟩ := hr
  have hs := repeatTurns_suffix p (hf [])
  have he : rest = [] := h.eq_nil_of_suffix (by simpa using hs) hn
  subst he
  exact ⟨found, fun us => by simpa using hf us⟩

section

variable {ts rest : List Token} {t : Token}

theorem fieldTurn_of_closing (h : skipTerminators ts = .closing .curly :: rest) :
    fieldTurn ts = .ok (.leave rest) := by
  rw [fieldTurn, h]

theorem fieldTurn_of_line (h : skipTerminators ts = t :: rest) (ht : t ≠ .closing .curly) :
    fieldTurn ts =
      .ok (.stay (FieldDecl.ofLine? (splitOutside Token.endsField 0 (t :: rest)).1).toList
        (splitOutside Token.endsField 0 (t :: rest)).2) := by
  rw [fieldTurn, h]
  split
  case h_1 he => cases he
  case h_2 he =>
    cases he
    exact absurd rfl ht
  case h_3 => rfl

theorem specTurn_of_closing (h : skipTerminators ts = .closing .round :: rest) :
    specTurn ts = .ok (.leave rest) := by
  rw [specTurn, h]

theorem specTurn_of_word {name : String} {decl : TypeDecl} {rest' : List Token}
    (h : skipTerminators ts = .word name :: rest) (hd : typeSpec name rest = .ok (decl, rest')) :
    specTurn ts = .ok (.stay [decl] rest') := by
  rw [specTurn, h]
  exact bind_eq_ok.mpr ⟨_, hd, rfl⟩

theorem specTurn_of_other (h : skipTerminators ts = t :: rest) (ht : t ≠ .closing .round)
    (hw : ∀ w, t ≠ .word w) :
    specTurn ts = .ok (.stay [] (splitOutside Token.endsType 0 (t :: rest)).2) := by
  rw [specTurn, h]
  split
  case h_1 he => cases he
  case h_2 he =>
    cases he
    exact absurd rfl ht
  case h_3 he =>
    cases he
    exact absurd rfl (hw _)
  case h_4 => rfl

end

section

variable {st : List Bracket} {ts : List Token}

theorem exists_skipTerminators_append {b : Bracket} (h : Nested (b :: st) ts) :
    ∃ t rest, Nested (b :: st) (t :: rest) ∧
      ∀ us, skipTerminators (ts ++ us) = t :: (rest ++ us) := by
  have hn := h.skipTerminators
  match hts : skipTerminators ts with
  | [] => exact absurd hts hn.ne_nil
  | t :: rest =>
    refine ⟨t, rest, hts ▸ hn, fun us => ?_⟩
    rw [skipTerminators_append_of_ne_nil hn.ne_nil, hts]
    rfl

theorem exists_splitOutside_append {stop : Token → Bool} {b : Bracket}
    (h : Nested (b :: st) ts) (hs : stop (.closing b) = true) :
    ∃ before rest, Nested (b :: st) rest ∧
      ∀ us, splitOutside stop 0 (ts ++ us) = (before, rest ++ us) := by
  have hr : Nested (b :: st) (splitOutside stop 0 ts).2 :=
    Nested.splitOutside (show Nested ([] ++ b :: st) ts from h) (by simpa using hs)
  exact ⟨_, _, hr, fun us => splitOutside_append_of_stopped hr.ne_nil⟩

theorem exists_fieldTurn (h : Nested (.curly :: st) ts) :
    (∃ rest, Nested st rest ∧ ∀ us, fieldTurn (ts ++ us) = .ok (.leave (rest ++ us))) ∨
    (∃ found rest, Nested (.curly :: st) rest ∧
      ∀ us, fieldTurn (ts ++ us) = .ok (.stay found (rest ++ us))) := by
  have ⟨t, rest, hn, ha⟩ := exists_skipTerminators_append h
  by_cases ht : t = .closing .curly
  case pos =>
    subst ht
    obtain ⟨_, he, hn⟩ := hn
    cases he
    exact .inl ⟨rest, hn, fun us => fieldTurn_of_closing (ha us)⟩
  case neg =>
    have ⟨line, rest', hn, hs⟩ := exists_splitOutside_append hn (show Token.endsField _ from rfl)
    refine .inr ⟨(FieldDecl.ofLine? line).toList, rest', hn, fun us => ?_⟩
    have hs := hs us
    rw [List.cons_append] at hs
    rw [fieldTurn_of_line (ha us) ht, hs]

theorem exists_structFields (h : Nested (.curly :: st) ts) :
    ∃ fields rest, Nested st rest ∧ ∀ us, structFields (ts ++ us) = .ok (fields, rest ++ us) :=
  exists_repeatTurns fieldTurn_progress (fun _ => exists_fieldTurn) h

theorem exists_structFields_closing {body : List Token} (h : Nested [] body) :
    ∃ fields, ∀ us, structFields (body ++ .closing .curly :: us) = .ok (fields, us) :=
  exists_repeatTurns_closing fieldTurn_progress h (exists_structFields (h.append ⟨[], rfl, rfl⟩))

end

section

variable {st : List Bracket} {ts us : List Token} {name : String}

-- A type expression is skipped up to the closing bracket of its group, or up to the next terminator
-- outside of all groups.
theorem exists_splitOutside_endsType (h : Nested st ts) :
    ∃ before rest st', Nested st' rest ∧ (st.head? = some .round → st' = st) ∧
      ∀ us, Seam st us → splitOutside Token.endsType 0 (ts ++ us) = (before, rest ++ us) := by
  by_cases hr : st.head? = some .round
  case pos =>
    obtain ⟨st, rfl⟩ := List.head?_eq_some_iff.mp hr
    have ⟨before, rest, hn, hs⟩ := exists_splitOutside_append h (show Token.endsType _ from rfl)
    exact ⟨before, rest, .round :: st, hn, fun _ => rfl, fun us _ => hs us⟩
  case neg =>
    have ⟨st', hn⟩ := h.suffix (splitOutside_suffix Token.endsType 0 ts)
    refine ⟨(splitOutside Token.endsType 0 ts).1, _, st', hn, fun hr' => absurd hr' hr, ?_⟩
    intro us hs
    obtain rfl | ⟨vs, rfl⟩ := hs.resolve_left hr
    · simp
    · exact splitOutside_append_of_nested h (Nat.zero_le _) rfl

def specifiedType (ts : List Token) : List Token :=
  skipEquals (skipTypeParams ts)

theorem Nested.specifiedType (h : Nested st ts) : Nested st (specifiedType ts) :=
  h.skipTypeParams.skipEquals

theorem structBody?_specifiedType_append (h : Nested st ts) (hs : st = [] → Interrupts us) :
    specifiedType (ts ++ us) = specifiedType ts ++ us ∧
      structBody? (specifiedType (ts ++ us)) = (structBody? (specifiedType ts)).map (· ++ us) := by
  have ha : specifiedType (ts ++ us) = specifiedType ts ++ us := by
    unfold specifiedType
    rw [skipTypeParams_append h hs, skipEquals_append h.skipTypeParams hs]
  exact ⟨ha, by rw [ha, structBody?_append h.specifiedType hs]⟩

theorem exists_typeSpec_struct {body : List Token} (name : String) (h : Nested st ts)
    (hb : structBody? (specifiedType ts) = some body) :
    ∃ fields rest, Nested st rest ∧ ∀ us, (st = [] → Interrupts us) →
      typeSpec name (ts ++ us) = .ok (⟨name, .struct fields⟩, rest ++ us) := by
  have ⟨fields, rest, hr, hf⟩ := exists_structFields (h.specifiedType.structBody? hb)
  refine ⟨fields, rest, hr, fun us hs => ?_⟩
  have ⟨_, hb'⟩ := structBody?_specifiedType_append h hs
  rw [hb, specifiedType] at hb'
  simp only [typeSpec, hb', Option.map_some]
  exact bind_eq_ok.mpr ⟨_, hf us, rfl⟩

theorem typeSpec_other (name : String) (h : Nested st ts)
    (hb : structBody? (specifiedType ts) = none) (hs : st = [] → Interrupts us) :
    typeSpec name (ts ++ us) =
      .ok (⟨name, .other⟩, (splitOutside Token.endsType 0 (specifiedType ts ++ us)).2) := by
  have ⟨ha, hb'⟩ := structBody?_specifiedType_append h hs
  rw [hb, specifiedType] at hb'
  rw [← ha, specifiedType]
  simp only [typeSpec, hb', Option.map_none]

theorem exists_typeSpec (name : String) (h : Nested st ts) :
    ∃ decl rest st', Nested st' rest ∧ (st.head? = some .round → st' = st) ∧
      ∀ us, Seam st us → typeSpec name (ts ++ us) = .ok (decl, rest ++ us) := by
  match hb : structBody? (specifiedType ts) with
  | some body =>
    have ⟨fields, rest, hr, hf⟩ := exists_typeSpec_struct name h hb
    exact ⟨_, rest, st, hr, fun _ => rfl, fun us hs => hf us hs.interrupts⟩
  | none =>
    have ⟨_, rest, st', hn, hr, hs'⟩ := exists_splitOutside_endsType h.specifiedType
    refine ⟨⟨name, .other⟩, rest, st', hn, hr, fun us hs => ?_⟩
    rw [typeSpec_other name h hb hs.interrupts, hs' us hs]

theorem exists_specTurn (h : Nested (.round :: st) ts) :
    (∃ rest, Nested st rest ∧ ∀ us, specTurn (ts ++ us) = .ok (.leave (rest ++ us))) ∨
    (∃ found rest, Nested (.round :: st) rest ∧
      ∀ us, specTurn (ts ++ us) = .ok (.stay found (rest ++ us))) := by
  have ⟨t, rest, hn, ha⟩ := exists_skipTerminators_append h
  by_cases ht : t = .closing .round
  case pos =>
    subst ht
    obtain ⟨_, he, hn⟩ := hn
    cases he
    exact .inl ⟨rest, hn, fun us => specTurn_of_closing (ha us)⟩
  case neg =>
    by_cases hw : ∃ name, t = .word name
    case pos =>
      obtain ⟨name, rfl⟩ := hw
      have ⟨decl, rest', st', hn, he, hd⟩ := exists_typeSpec name (show Nested _ rest from hn)
      refine .inr ⟨[decl], rest', he rfl ▸ hn, fun us => ?_⟩
      exact specTurn_of_word (ha us) (hd us (.inl rfl))
    case neg =>
      have ⟨_, rest', hn, hs⟩ := exists_splitOutside_append hn (show Token.endsType _ from rfl)
      refine .inr ⟨[], rest', hn, fun us => ?_⟩
      have hs := hs us
      rw [List.cons_append] at hs
      rw [specTurn_of_other (ha us) ht (not_exists.mp hw), hs]

theorem exists_specGroup (h : Nested (.round :: st) ts) :
    ∃ decls rest, Nested st rest ∧ ∀ us, specGroup (ts ++ us) = .ok (decls, rest ++ us) :=
  exists_repeatTurns specTurn_progress (fun _ => exists_specTurn) h

theorem exists_specGroup_closing {body : List Token} (h : Nested [] body) :
    ∃ decls, ∀ us, specGroup (body ++ .closing .round :: us) = .ok (decls, us) :=
  exists_repeatTurns_closing specTurn_progress h (exists_specGroup (h.append ⟨[], rfl, rfl⟩))

theorem exists_typeDecls (h : Nested st ts) :
    ∃ decls rest st', Nested st' rest ∧
      ∀ us, EndsStatement us → typeDecls (ts ++ us) = .ok (decls, rest ++ us) := by
  match ts with
  | [] =>
    refine ⟨[], [], st, h, fun us hu => ?_⟩
    obtain rfl | ⟨vs, rfl⟩ := hu <;> rfl
  | .word name :: ts =>
    have ⟨decl, rest, st', hn, _, hd⟩ := exists_typeSpec name (show Nested st ts from h)
    refine ⟨[decl], rest, st', hn, fun us hu => ?_⟩
    exact bind_eq_ok.mpr ⟨_, hd us (.inr hu), rfl⟩
  | .opening .round :: ts =>
    have ⟨decls, rest, hn, hd⟩ := exists_specGroup (show Nested (.round :: st) ts from h)
    exact ⟨decls, rest, st, hn, fun us _ => hd us⟩
  | .opening .square :: ts | .opening .curly :: ts | .string _ :: ts | .constant :: ts
  | .closing _ :: ts | .mark _ :: ts | .terminator :: ts => exact ⟨[], _, st, h, fun _ _ => rfl⟩

theorem declTurn_of_type {decls : List TypeDecl} {rest : List Token}
    (h : typeDecls ts = .ok (decls, rest)) :
    declTurn (.word "type" :: ts) = .ok (.stay decls rest) := by
  rw [declTurn, if_pos rfl, h]
  rfl

theorem declTurn_of_other {t : Token} (h : t ≠ .word "type") :
    declTurn (t :: ts) = .ok (.stay [] ts) := by
  rw [declTurn, if_neg h]

end

-- The declarations among nested tokens, and those that follow the end of a statement behind them, do
-- not depend on each other.
theorem exists_repeatTurns_declTurn {st : List Bracket} {ts : List Token} (h : Nested st ts) :
    ∃ decls, ∀ us more rest, EndsStatement us → repeatTurns declTurn us = .ok (more, rest) →
      repeatTurns declTurn (ts ++ us) = .ok (decls ++ more, rest) := by
  match hts : ts with
  | [] => exact ⟨[], fun _ _ _ _ hu => hu⟩
  | t :: ts' =>
    by_cases ht : t = .word "type"
    case pos =>
      subst ht
      have ⟨decls, rest, st', hn, hd⟩ := exists_typeDecls (show Nested st ts' from h)
      have : rest.length ≤ ts'.length := by
        have hd := hd [] (.inl rfl)
        rw [List.append_nil, List.append_nil] at hd
        exact (typeDecls_suffix hd).length_le
      have ⟨more, hm⟩ := exists_repeatTurns_declTurn hn
      refine ⟨decls ++ more, fun us more' rest' hu hr => ?_⟩
      rw [List.cons_append, repeatTurns_of_stay declTurn_progress (declTurn_of_type (hd us hu)),
        hm us more' rest' hu hr, List.append_assoc]
      rfl
    case neg =>
      have ⟨st', hn⟩ := h.tail
      have ⟨more, hm⟩ := exists_repeatTurns_declTurn hn
      refine ⟨more, fun us more' rest' hu hr => ?_⟩
      rw [List.cons_append, repeatTurns_of_stay declTurn_progress (declTurn_of_other ht),
        hm us more' rest' hu hr]
      rfl
termination_by ts.length
decreasing_by
  · subst hts
    simp only [List.length_cons]
    omega
  · subst hts
    simp

theorem repeatTurns_declTurn_of_not_mem {ts : List Token} (h : .word "type" ∉ ts) :
    repeatTurns declTurn ts = .ok ([], []) := by
  induction ts with
  | nil => exact repeatTurns_of_leave rfl
  | cons t ts ih =>
    have ⟨ht, hts⟩ : t ≠ .word "type" ∧ .word "type" ∉ ts := by
      simpa [eq_comm] using h
    rw [repeatTurns_of_stay declTurn_progress (declTurn_of_other ht), ih hts]
    rfl

end ColumnConstants
