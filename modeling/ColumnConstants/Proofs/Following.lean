import ColumnConstants.Proofs.Reading
import ColumnConstants.Source.Scanner

namespace ColumnConstants.Scanner

def position (ts us : List Token) : Nat :=
  ts.length - us.length

section

variable {ts us rest : List Token} {t : Token} {p : Nat}

theorem position_le : position ts us ≤ ts.length :=
  Nat.sub_le ..

theorem position_drop (h : p ≤ ts.length) : position ts (ts.drop p) = p := by
  rw [position, List.length_drop]
  omega

theorem position_cons (h : t :: us <:+ ts) : position ts (t :: us) + 1 = position ts us := by
  have := h.length_le
  rw [List.length_cons] at this
  rw [position, position, List.length_cons]
  omega

theorem position_lt_iff (h : us <:+ ts) :
    position ts us < position ts rest ↔ rest.length < us.length := by
  have := h.length_le
  rw [position, position]
  omega

theorem getElem?_position (h : us <:+ ts) (n : Nat) : ts[position ts us + n]? = us[n]? := by
  rw [← List.getElem?_drop, position, ← List.suffix_iff_eq_drop.mp h]

theorem run_peekAt (h : us <:+ ts) (n : Nat) :
    (peekAt n).run ts (position ts us) = .some (.ok us[n]?, position ts us) := by
  rw [← getElem?_position h]
  rfl

theorem run_peek (h : us <:+ ts) :
    peek.run ts (position ts us) = .some (.ok us.head?, position ts us) := by
  rw [List.head?_eq_getElem?]
  exact run_peekAt h 0

theorem run_advance (h : t :: us <:+ ts) :
    advance.run ts (position ts (t :: us)) = .some (.ok (), position ts us) := by
  rw [← position_cons h]
  rfl

theorem run_bump_nil : bump.run ts (position ts []) = .some (.ok none, position ts []) := by
  rw [bump, run_bind_of_ok (run_peek List.nil_suffix)]
  rfl

theorem run_bump_cons (h : t :: us <:+ ts) :
    bump.run ts (position ts (t :: us)) = .some (.ok (some t), position ts us) := by
  rw [bump, run_bind_of_ok (run_peek h)]
  exact run_bind_of_ok (run_advance h)

theorem run_eat_self (h : t :: us <:+ ts) :
    (eat t).run ts (position ts (t :: us)) = .some (.ok true, position ts us) := by
  rw [eat, run_bind_of_ok (run_peek h), List.head?_cons, if_pos rfl]
  exact run_bind_of_ok (run_advance h)

theorem run_eat_of_ne (h : us <:+ ts) (ht : us.head? ≠ some t) :
    (eat t).run ts (position ts us) = .some (.ok false, position ts us) := by
  rw [eat, run_bind_of_ok (run_peek h), if_neg ht]
  rfl

theorem run_skipTerminators (h : us <:+ ts) :
    skipTerminators.run ts (position ts us) =
      .some (.ok (), position ts (ColumnConstants.skipTerminators us)) := by
  induction us with
  | nil => exact run_loop_of_leave (run_bind_of_ok (run_eat_of_ne h (by simp)))
  | cons u us ih =>
    by_cases hu : u = .terminator
    case pos =>
      subst hu
      have ht : (skipTerminators.turn ()).run ts (position ts (.terminator :: us)) =
          .some (.ok (.inl ()), position ts us) := run_bind_of_ok (run_eat_self h)
      exact (run_loop_of_stay ht).trans (ih ((List.suffix_cons ..).trans h))
    case neg =>
      have ht : (skipTerminators.turn ()).run ts (position ts (u :: us)) =
          .some (.ok (.inr ()), position ts (u :: us)) :=
        run_bind_of_ok (run_eat_of_ne h (by simpa using hu))
      rw [skipTerminators, run_loop_of_leave ht]
      simp [ColumnConstants.skipTerminators, hu]

theorem run_splitOutside_loop (stop : Token → Bool) (depth : Nat) (passed : List Token)
    (h : us <:+ ts) :
    (loop (splitOutside.turn stop) (depth, passed)).run ts (position ts us) =
      .some (.ok (passed ++ (ColumnConstants.splitOutside stop depth us).1),
        position ts (ColumnConstants.splitOutside stop depth us).2) := by
  induction us generalizing depth passed with
  | nil =>
    rw [run_loop_of_leave (run_bind_of_ok (run_peek h))]
    simp [ColumnConstants.splitOutside]
  | cons u us ih =>
    by_cases hs : depth = 0 ∧ stop u = true
    case pos =>
      have ht : (splitOutside.turn stop (depth, passed)).run ts (position ts (u :: us)) =
          .some (.ok (.inr passed), position ts (u :: us)) := by
        rw [splitOutside.turn, run_bind_of_ok (run_peek h)]
        simp only [List.head?_cons, if_pos hs]
        rfl
      rw [run_loop_of_leave ht]
      simp [ColumnConstants.splitOutside, hs]
    case neg =>
      have ht : (splitOutside.turn stop (depth, passed)).run ts (position ts (u :: us)) =
          .some (.ok (.inl (u.depthAfter depth, passed ++ [u])), position ts us) := by
        rw [splitOutside.turn, run_bind_of_ok (run_peek h)]
        simp only [List.head?_cons, if_neg hs]
        exact run_bind_of_ok (run_advance h)
      rw [run_loop_of_stay ht, ih _ _ ((List.suffix_cons ..).trans h),
        splitOutside_cons_of_not_stop hs]
      simp

theorem run_splitOutside (stop : Token → Bool) (h : us <:+ ts) :
    (splitOutside stop).run ts (position ts us) =
      .some (.ok (ColumnConstants.splitOutside stop 0 us).1,
        position ts (ColumnConstants.splitOutside stop 0 us).2) :=
  run_splitOutside_loop stop 0 [] h

theorem run_skipGroup_loop (depth : Nat) (h : us <:+ ts) :
    (loop skipGroup.turn depth).run ts (position ts us) =
      .some (.ok (), position ts (afterGroup depth us)) := by
  induction us generalizing depth with
  | nil => exact run_loop_of_leave (run_bind_of_ok run_bump_nil)
  | cons u us ih =>
    have hb : ∀ {x q}, _ → (skipGroup.turn depth).run ts (position ts (u :: us)) = .some (x, q) :=
      (run_bind_of_ok (run_bump_cons h)).trans
    have hs : us <:+ ts := (List.suffix_cons ..).trans h
    cases u
    case closing b =>
      by_cases hd : depth ≤ 1
      case pos =>
        rw [afterGroup, if_pos hd]
        refine run_loop_of_leave (hb ?_)
        simp only [if_pos hd]
        rfl
      case neg =>
        rw [afterGroup, if_neg hd, ← ih (depth - 1) hs]
        refine run_loop_of_stay (hb ?_)
        simp only [if_neg hd]
        rfl
    all_goals
      rw [afterGroup, ← ih _ hs]
      · exact run_loop_of_stay (hb rfl)
      · simp

theorem run_skipGroup (h : us <:+ ts) :
    skipGroup.run ts (position ts us) = .some (.ok (), position ts (afterGroup 0 us)) :=
  run_skipGroup_loop 0 h

end

-- The result of a reader of lists, with the position in `ts` in place of the tokens that are left. No
-- such reader fails before the end of the tokens.
def outcome {α : Type} (ts : List Token) :
    Except SourceError (α × List Token) → Except SourceError α × Nat
  | .error e => (.error e, ts.length)
  | .ok (a, rest) => (.ok a, position ts rest)

def turnOutcome {α : Type} (ts : List Token) (found : List α) :
    Except SourceError (Turn α) → Except SourceError (List α ⊕ List α) × Nat
  | .error e => (.error e, ts.length)
  | .ok (.leave rest) => (.ok (.inr found), position ts rest)
  | .ok (.stay more rest) => (.ok (.inl (found ++ more)), position ts rest)

def resume {α β : Type} (ts : List Token) (f : α → Scanner β) :
    Except SourceError (α × List Token) → Part (Except SourceError β × Nat)
  | .error e => .some (.error e, ts.length)
  | .ok (a, rest) => (f a).run ts (position ts rest)

theorem run_bind_outcome {α β : Type} {ts : List Token} {p : Nat} {x : Scanner α} {f : α → Scanner β}
    {r : Except SourceError (α × List Token)} (h : x.run ts p = .some (outcome ts r)) :
    (x >>= f).run ts p = resume ts f r := by
  cases r
  case error e => exact run_bind_of_error h
  case ok r => exact run_bind_of_ok h

-- Whether each turn of a scanner does what the turn over the tokens from there on does.
def Follows {α : Type} (ts : List Token) (turn : List α → Scanner (List α ⊕ List α))
    (turn' : List Token → Except SourceError (Turn α)) : Prop :=
  ∀ found us, us <:+ ts →
    (turn found).run ts (position ts us) = .some (turnOutcome ts found (turn' us))

-- Then the loop of the scanner, which no bound ends, does what the loop over the list does.
theorem Follows.run_loop {α : Type} {ts us : List Token} {turn : List α → Scanner (List α ⊕ List α)}
    {turn' : List Token → Except SourceError (Turn α)} (hf : Follows ts turn turn')
    (hp : Progress turn') (found : List α) (h : us <:+ ts) :
    (loop turn found).run ts (position ts us) =
      .some (outcome ts ((repeatTurns turn' us).map fun (more, rest) => (found ++ more, rest))) := by
  have ht := hf found us h
  match hu : turn' us with
  | .error e =>
    rw [hu] at ht
    rw [run_loop_of_error ht, repeatTurns_of_error hu]
    rfl
  | .ok (.leave rest) =>
    rw [hu] at ht
    rw [run_loop_of_leave ht, repeatTurns_of_leave hu]
    simp [outcome, Except.map]
  | .ok (.stay more rest) =>
    rw [hu] at ht
    have := hp.shorter hu
    have hr : rest <:+ ts := (hp.suffix hu).trans h
    rw [run_loop_of_stay ht, hf.run_loop hp _ hr, repeatTurns_of_stay hp hu]
    cases repeatTurns turn' rest <;> simp [Except.map]
termination_by us.length

section

variable {ts us : List Token} {t : Token}

theorem follows_fieldTurn : Follows ts fieldTurn ColumnConstants.fieldTurn := by
  intro fields us h
  have hs := (skipTerminators_suffix us).trans h
  rw [fieldTurn, run_bind_of_ok (run_skipTerminators h), run_bind_of_ok (run_peek hs)]
  match hu : ColumnConstants.skipTerminators us with
  | [] =>
    rw [ColumnConstants.fieldTurn, hu]
    rfl
  | t :: rest =>
    rw [hu] at hs
    split
    case h_1 he => cases he
    case h_2 he =>
      cases he
      rw [fieldTurn_of_closing hu]
      exact run_bind_of_ok (run_advance hs)
    case h_3 hc he =>
      cases he
      rw [fieldTurn_of_line hu hc]
      exact run_bind_of_ok (run_splitOutside Token.endsField hs)

theorem run_structBody (h : .opening .curly :: us <:+ ts) :
    structBody.run ts (position ts (.opening .curly :: us)) =
      .some (outcome ts (structFields us)) := by
  have hl := follows_fieldTurn.run_loop fieldTurn_progress [] ((List.suffix_cons ..).trans h)
  rw [structBody, run_bind_of_ok (run_eat_self h), if_pos rfl, hl, structFields]
  cases repeatTurns ColumnConstants.fieldTurn us <;> rfl

theorem run_startsTypeParams (h : us <:+ ts) :
    startsTypeParams.run ts (position ts us) =
      .some (.ok (ColumnConstants.startsTypeParams us), position ts us) := by
  rw [startsTypeParams, run_bind_of_ok (run_peek h), run_bind_of_ok (run_peekAt h 1),
    run_bind_of_ok (run_peekAt h 2)]
  split
  case h_1 ha hb hc | h_2 ha hb hc =>
    match us with
    | _ :: _ :: _ :: _ =>
      cases ha
      cases hb
      cases hc
      rfl
  case h_3 hw hm =>
    unfold ColumnConstants.startsTypeParams
    split
    case h_1 => exact absurd rfl (hw _ _ rfl rfl)
    case h_2 => exact absurd rfl (hm _ _ rfl rfl)
    case h_3 => rfl

theorem run_skipTypeParams (h : us <:+ ts) :
    skipTypeParams.run ts (position ts us) =
      .some (.ok (), position ts (ColumnConstants.skipTypeParams us)) := by
  rw [skipTypeParams, run_bind_of_ok (run_startsTypeParams h), ColumnConstants.skipTypeParams]
  split
  case isTrue => exact run_skipGroup h
  case isFalse => rfl

theorem exists_run_eat_equals (h : us <:+ ts) :
    ∃ passed, (eat (.mark '=')).run ts (position ts us) =
      .some (.ok passed, position ts (skipEquals us)) := by
  by_cases hu : us.head? = some (.mark '=')
  case pos =>
    obtain ⟨rest, rfl⟩ := List.head?_eq_some_iff.mp hu
    exact ⟨true, run_eat_self h⟩
  case neg =>
    refine ⟨false, ?_⟩
    rw [run_eat_of_ne h hu]
    unfold skipEquals
    split
    case h_1 => exact absurd rfl hu
    case h_2 => rfl

theorem structBody?_eq_some_iff {body : List Token} :
    structBody? us = some body ↔ us = .word "struct" :: .opening .curly :: body := by
  unfold structBody?
  split
  case h_1 w rest => simp
  case h_2 hs =>
    constructor
    · exact nofun
    · intro h
      exact absurd h (hs _ _)

theorem run_startsStruct (h : us <:+ ts) :
    startsStruct.run ts (position ts us) =
      .some (.ok (structBody? us).isSome, position ts us) := by
  have hb : ((us.head? = some (.word "struct")) && (us[1]? = some (.opening .curly))) =
      (structBody? us).isSome := by
    rw [Bool.eq_iff_iff, Option.isSome_iff_exists]
    simp only [structBody?_eq_some_iff, Bool.and_eq_true, decide_eq_true_eq]
    constructor
    case mp =>
      intro ⟨ha, hb⟩
      match us with
      | _ :: _ :: body =>
        cases ha
        cases hb
        exact ⟨body, rfl⟩
    case mpr =>
      rintro ⟨body, rfl⟩
      exact ⟨rfl, rfl⟩
  rw [startsStruct, run_bind_of_ok (run_peek h), run_bind_of_ok (run_peekAt h 1), hb]
  rfl

variable {name : String}

theorem run_typeSpec (h : .word name :: us <:+ ts) :
    typeSpec.run ts (position ts (.word name :: us)) =
      .some (outcome ts (ColumnConstants.typeSpec name us)) := by
  have h' : us <:+ ts := (List.suffix_cons ..).trans h
  have hp := (skipTypeParams_suffix us).trans h'
  have he := (skipEquals_suffix _).trans hp
  have ⟨_, hq⟩ := exists_run_eat_equals hp
  rw [typeSpec, run_bind_of_ok (run_bump_cons h)]
  simp only [run_bind_of_ok (run_skipTypeParams h'), run_bind_of_ok hq,
    run_bind_of_ok (run_startsStruct he)]
  unfold ColumnConstants.typeSpec
  simp only
  match hb : structBody? (skipEquals (ColumnConstants.skipTypeParams us)) with
  | some body =>
    rw [structBody?_eq_some_iff.mp hb] at he ⊢
    have hf := run_structBody ((List.suffix_cons ..).trans he)
    refine (run_bind_of_ok (run_advance he)).trans ?_
    rw [run_bind_outcome hf]
    simp only
    cases structFields body <;> rfl
  | none => exact run_bind_of_ok (run_splitOutside Token.endsType he)

theorem follows_specTurn : Follows ts specTurn ColumnConstants.specTurn := by
  intro decls us h
  have hs := (skipTerminators_suffix us).trans h
  rw [specTurn, run_bind_of_ok (run_skipTerminators h), run_bind_of_ok (run_peek hs)]
  match hu : ColumnConstants.skipTerminators us with
  | [] =>
    rw [ColumnConstants.specTurn, hu]
    rfl
  | t :: rest =>
    rw [hu] at hs
    split
    case h_1 he => cases he
    case h_2 he =>
      cases he
      rw [specTurn_of_closing hu]
      exact run_bind_of_ok (run_advance hs)
    case h_3 name he =>
      cases he
      rw [ColumnConstants.specTurn, hu, run_bind_outcome (run_typeSpec hs)]
      simp only
      cases ColumnConstants.typeSpec name rest <;> rfl
    case h_4 hc hw he =>
      cases he
      rw [specTurn_of_other hu hc hw, turnOutcome, List.append_nil]
      exact run_bind_of_ok (run_splitOutside Token.endsType hs)

def startsDecls : List Token → Bool
  | .word _ :: _ | .opening .round :: _ => true
  | _ => false

theorem run_startsDecl (h : t :: us <:+ ts) :
    startsDecl.run ts (position ts (t :: us)) =
      .some (.ok (t = .word "type" && startsDecls us), position ts (t :: us)) := by
  rw [startsDecl, run_bind_of_ok (run_peek h), run_bind_of_ok (run_peekAt h 1)]
  unfold startsDecls
  split
  case h_1 ht hu | h_2 ht hu =>
    cases ht
    cases us <;> cases hu
    rw [Bool.and_true]
    rfl
  case h_3 hw hr =>
    split
    case h_1 => exact absurd rfl (hw _ _ rfl)
    case h_2 => exact absurd rfl (hr _ rfl)
    case h_3 =>
      rw [Bool.and_false]
      rfl

theorem typeDecls_of_not_startsDecls (h : startsDecls us = false) :
    ColumnConstants.typeDecls us = .ok ([], us) := by
  unfold ColumnConstants.typeDecls
  split
  case h_1 | h_2 => cases h
  case h_3 => rfl

theorem run_typeDecls (decls : List TypeDecl) (h : us <:+ ts) (hd : startsDecls us = true) :
    (typeDecls decls).run ts (position ts us) =
      .some (outcome ts ((ColumnConstants.typeDecls us).map
        fun (more, rest) => (decls ++ more, rest))) := by
  unfold startsDecls at hd
  split at hd
  case h_1 name us =>
    rw [typeDecls, run_bind_of_ok (run_eat_of_ne h (by simp)), if_neg Bool.false_ne_true,
      run_bind_outcome (run_typeSpec h), ColumnConstants.typeDecls]
    cases ColumnConstants.typeSpec name us <;> rfl
  case h_2 us =>
    rw [typeDecls, run_bind_of_ok (run_eat_self h), if_pos rfl]
    exact follows_specTurn.run_loop specTurn_progress decls ((List.suffix_cons ..).trans h)
  case h_3 => cases hd

theorem follows_declTurn : Follows ts declTurn ColumnConstants.declTurn := by
  intro decls us h
  rw [declTurn, run_bind_of_ok (run_peek h)]
  match us with
  | [] => rfl
  | t :: us =>
    have h' : us <:+ ts := (List.suffix_cons ..).trans h
    simp only [List.head?_cons, run_bind_of_ok (run_startsDecl h)]
    split
    case isTrue hd =>
      obtain ⟨rfl, hd⟩ : t = .word "type" ∧ startsDecls us = true := by simpa using hd
      refine (run_bind_of_ok (run_advance h)).trans ?_
      rw [ColumnConstants.declTurn, if_pos rfl, run_bind_outcome (run_typeDecls decls h' hd)]
      cases ColumnConstants.typeDecls us <;> rfl
    case isFalse hd =>
      have ht : ColumnConstants.declTurn (t :: us) = .ok (.stay [] us) := by
        by_cases ht : t = .word "type"
        case pos =>
          have hd : startsDecls us = false := by simpa [ht] using hd
          rw [ht, declTurn_of_type (typeDecls_of_not_startsDecls hd)]
        case neg => exact declTurn_of_other ht
      rw [ht, turnOutcome, List.append_nil]
      exact run_bind_of_ok (run_advance h)

theorem exists_run_file (ts : List Token) :
    ∃ q ≤ ts.length, file.run ts 0 = .some (SourceFile.ofTokens ts, q) := by
  have hp : position ts ts = 0 := Nat.sub_self _
  have ht := run_skipTerminators (ts.suffix_refl)
  have hs := skipTerminators_suffix ts
  rw [hp] at ht
  rw [file, run_bind_of_ok ht]
  unfold SourceFile.ofTokens
  generalize ColumnConstants.skipTerminators ts = us at hs ⊢
  by_cases hu : us.head? = some (.word "package")
  case neg =>
    refine ⟨position ts us, position_le, ?_⟩
    rw [run_bind_of_ok (run_eat_of_ne hs hu), if_neg Bool.false_ne_true]
    split
    case h_1 w _ _ =>
      have hw : w ≠ "package" := by simpa using hu
      rw [if_neg hw]
      rfl
    case h_2 => rfl
  case pos =>
    obtain ⟨us, rfl⟩ := List.head?_eq_some_iff.mp hu
    have hs' : us <:+ ts := (List.suffix_cons ..).trans hs
    rw [run_bind_of_ok (run_eat_self hs), if_pos rfl]
    match us with
    | [] =>
      rw [run_bind_of_ok run_bump_nil]
      exact ⟨_, position_le, rfl⟩
    | u :: us =>
      have hl := follows_declTurn.run_loop declTurn_progress [] ((List.suffix_cons ..).trans hs')
      rw [run_bind_of_ok (run_bump_cons hs')]
      split
      case h_1 name he =>
        cases he
        rw [run_bind_outcome hl]
        simp only [if_true]
        cases repeatTurns ColumnConstants.declTurn us
        case error e => exact ⟨_, Nat.le_refl _, rfl⟩
        case ok r => exact ⟨_, position_le, rfl⟩
      case h_2 hw =>
        refine ⟨position ts us, position_le, ?_⟩
        split
        case h_1 he =>
          cases he
          exact absurd rfl (hw _)
        case h_2 => rfl

end

end ColumnConstants.Scanner
