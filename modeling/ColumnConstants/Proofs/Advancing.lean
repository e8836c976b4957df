import ColumnConstants.Proofs.Following

namespace ColumnConstants.Scanner

def Leaves {σ α : Type} : Except SourceError (σ ⊕ α) → Prop
  | .ok (.inl _) => False
  | .ok (.inr _) | .error _ => True

-- From the state `s` at `p` on, a loop takes `n` turns that stay in it and comes to `s'` at `q`.
inductive Turns {σ α : Type} (ts : List Token) (turn : σ → Scanner (σ ⊕ α)) :
    Nat → σ → Nat → σ → Nat → Prop where
  | refl {s : σ} {p : Nat} : Turns ts turn 0 s p s p
  | next {s s' s'' : σ} {n p q r : Nat} : (turn s).run ts p = .some (.ok (.inl s'), q) →
      Turns ts turn n s' q s'' r → Turns ts turn (n + 1) s p s'' r

-- Every turn comes to an end. In front of a token it moves the position forward, and behind the last
-- token it leaves the loop.
structure Advances {σ α : Type} (ts : List Token) (turn : σ → Scanner (σ ⊕ α)) : Prop where
  forward : ∀ s p, p < ts.length → ∃ x q, (turn s).run ts p = .some (x, q) ∧ p < q ∧ q ≤ ts.length
  atEnd : ∀ s, ∃ x, (turn s).run ts ts.length = .some (x, ts.length) ∧ Leaves x

section

variable {σ α : Type} {ts : List Token} {turn : σ → Scanner (σ ⊕ α)} {s s' : σ} {n p q : Nat}

-- Each turn that stays in the loop takes at least one token.
theorem Advances.le_of_turns (ha : Advances ts turn) (h : Turns ts turn n s p s' q)
    (hp : p ≤ ts.length) : p + n ≤ q ∧ q ≤ ts.length := by
  induction h with
  | refl => exact ⟨Nat.le_refl _, hp⟩
  | @next s s' s'' n p q r ht _ ih =>
    have hp : p < ts.length := by
      refine Nat.lt_of_le_of_ne hp fun he => ?_
      subst he
      have ⟨x, hx, hl⟩ := ha.atEnd s
      cases Part.some_inj.mp (ht.symm.trans hx)
      exact hl
    have ⟨x, r, hx, hr, hl⟩ := ha.forward s p hp
    cases Part.some_inj.mp (ht.symm.trans hx)
    have := ih hl
    omega

theorem Advances.exists_leaves (ha : Advances ts turn) (s : σ) {p : Nat} (hp : p ≤ ts.length) :
    ∃ n s' q x r, Turns ts turn n s p s' q ∧ (turn s').run ts q = .some (x, r) ∧ Leaves x := by
  by_cases hl : p < ts.length
  case neg =>
    obtain rfl : p = ts.length := by omega
    have ⟨x, hx, hl⟩ := ha.atEnd s
    exact ⟨0, s, _, x, _, .refl, hx, hl⟩
  case pos =>
    have ⟨x, q, hx, hq, hr⟩ := ha.forward s p hl
    match x with
    | .ok (.inl s') =>
      have ⟨n, s'', q', y, r, ht, hy⟩ := ha.exists_leaves s' hr
      exact ⟨n + 1, s'', q', y, r, .next hx ht, hy⟩
    | .ok (.inr a) => exact ⟨0, s, p, _, q, .refl, hx, trivial⟩
    | .error e => exact ⟨0, s, p, _, q, .refl, hx, trivial⟩
termination_by ts.length - p

end

section

variable {ts us rest : List Token}

theorem length_lt_of_fieldTurn_leave (h : ColumnConstants.fieldTurn us = .ok (.leave rest)) :
    rest.length < us.length := by
  have hs := (skipTerminators_suffix us).length_le
  unfold ColumnConstants.fieldTurn at h
  split at h
  case h_1 | h_3 => cases h
  case h_2 hu =>
    cases h
    rw [hu, List.length_cons] at hs
    exact hs

theorem length_lt_of_specTurn_leave (h : ColumnConstants.specTurn us = .ok (.leave rest)) :
    rest.length < us.length := by
  have hs := (skipTerminators_suffix us).length_le
  unfold ColumnConstants.specTurn at h
  split at h
  case h_1 | h_4 => cases h
  case h_2 hu =>
    cases h
    rw [hu, List.length_cons] at hs
    exact hs
  case h_3 =>
    have ⟨_, _, h⟩ := bind_eq_ok.mp h
    cases h

theorem eq_nil_of_declTurn_leave (h : ColumnConstants.declTurn us = .ok (.leave rest)) : us = [] := by
  unfold ColumnConstants.declTurn at h
  split at h
  case h_1 => rfl
  case h_2 =>
    split at h
    case isTrue =>
      have ⟨_, _, h⟩ := bind_eq_ok.mp h
      cases h
    case isFalse => cases h

variable {α : Type} {turn : List α → Scanner (List α ⊕ List α)}
variable {turn' : List Token → Except SourceError (Turn α)} {p : Nat}

theorem turnOutcome_ok_snd (found : List α) (t : Turn α) :
    (turnOutcome ts found (.ok t)).2 = position ts t.rest := by
  cases t <;> rfl

theorem Follows.run_turn (hf : Follows ts turn turn') (found : List α) (hp : p ≤ ts.length) :
    (turn found).run ts p = .some (turnOutcome ts found (turn' (ts.drop p))) := by
  have ht := hf found (ts.drop p) (List.drop_suffix ..)
  rwa [position_drop hp] at ht

theorem Follows.advances (hf : Follows ts turn turn') (hp : Progress turn')
    (hl : ∀ us rest, us ≠ [] → turn' us = .ok (.leave rest) → rest.length < us.length) :
    Advances ts turn where
  forward found p h := by
    refine ⟨(turnOutcome ts found (turn' (ts.drop p))).1, (turnOutcome ts found (turn' (ts.drop p))).2,
      hf.run_turn found (Nat.le_of_lt h), ?_⟩
    match hu : turn' (ts.drop p) with
    | .error e => exact ⟨h, Nat.le_refl _⟩
    | .ok t =>
      have ht : t.rest.length < (ts.drop p).length := by
        cases t
        case leave rest => exact hl _ rest (by simpa using h) hu
        case stay more rest => exact hp.shorter hu
      have hq := (position_lt_iff (List.drop_suffix p ts)).mpr ht
      rw [position_drop (Nat.le_of_lt h)] at hq
      rw [turnOutcome_ok_snd]
      exact ⟨hq, position_le⟩
  atEnd found := by
    have ht := hf.run_turn found (Nat.le_refl ts.length)
    rw [List.drop_length] at ht
    match hu : turn' [] with
    | .error e =>
      rw [hu] at ht
      exact ⟨_, ht, trivial⟩
    | .ok (.leave rest) =>
      have hr : rest = [] := List.suffix_nil.mp (hp.suffix hu)
      rw [hu, hr] at ht
      exact ⟨_, ht, trivial⟩
    | .ok (.stay more rest) => cases hp.shorter hu

end

-- A loop over the tokens `ts` that is entered with `found` at the position `p`, by turns that stand for
-- the turns `turn'` over lists.
structure Bounded {α : Type} (ts : List Token) (turn : List α → Scanner (List α ⊕ List α))
    (turn' : List Token → Except SourceError (Turn α)) (found : List α) (p : Nat) : Prop where
  follows : (turn found).run ts p = .some (turnOutcome ts found (turn' (ts.drop p)))
  -- However many turns were taken, the next one comes to an end. It leaves the loop or moves the
  -- position forward, and in no case past the tokens.
  advances : ∀ {n found' q}, Turns ts turn n found p found' q →
    ∃ x r, (turn found').run ts q = .some (x, r) ∧ (Leaves x ∨ q < r) ∧ q ≤ r ∧ r ≤ ts.length
  count : ∀ {n found' q}, Turns ts turn n found p found' q → n ≤ ts.length - p
  -- After some turns, one leaves the loop. It counts as one more, unless it meets the end of the tokens.
  leaves : ∃ n found' q x r, Turns ts turn n found p found' q ∧
    (turn found').run ts q = .some (x, r) ∧ Leaves x ∧ (q < ts.length → n + 1 ≤ ts.length - p)
  ends : (loop turn found).run ts p =
    .some (outcome ts ((repeatTurns turn' (ts.drop p)).map fun (more, rest) => (found ++ more, rest)))

section

variable {α : Type} {ts : List Token} {turn : List α → Scanner (List α ⊕ List α)}
variable {turn' : List Token → Except SourceError (Turn α)} {p : Nat}

theorem Follows.bounded (hf : Follows ts turn turn') (hp : Progress turn')
    (hl : ∀ us rest, us ≠ [] → turn' us = .ok (.leave rest) → rest.length < us.length)
    (h : p ≤ ts.length) (found : List α) : Bounded ts turn turn' found p := by
  have ha := hf.advances hp hl
  constructor
  case follows => exact hf.run_turn found h
  case advances =>
    intro n found' q ht
    have hq := (ha.le_of_turns ht h).2
    obtain hq | rfl := Nat.lt_or_eq_of_le hq
    · have ⟨x, r, hx, hr, hl⟩ := ha.forward found' q hq
      exact ⟨x, r, hx, .inr hr, Nat.le_of_lt hr, hl⟩
    · have ⟨x, hx, hl⟩ := ha.atEnd found'
      exact ⟨x, _, hx, .inl hl, Nat.le_refl _, Nat.le_refl _⟩
  case count =>
    intro n found' q ht
    have := ha.le_of_turns ht h
    omega
  case leaves =>
    have ⟨n, found', q, x, r, ht, hx, hl⟩ := ha.exists_leaves found h
    have := ha.le_of_turns ht h
    exact ⟨n, found', q, x, r, ht, hx, hl, by omega⟩
  case ends =>
    have hr := hf.run_loop hp found (List.drop_suffix p ts)
    rwa [position_drop h] at hr

end

-- The loops over a group of type specifications, over a struct body and over a file are bounded by the
-- tokens left, from every position in any tokens, and a scanner of a file comes to an end.
theorem loops_bounded {ts : List Token} {p : Nat} (h : p ≤ ts.length) (decls : List TypeDecl)
    (fields : List FieldDecl) :
    Bounded ts specTurn ColumnConstants.specTurn decls p ∧
    Bounded ts fieldTurn ColumnConstants.fieldTurn fields p ∧
    Bounded ts declTurn ColumnConstants.declTurn decls p ∧
    ∃ q ≤ ts.length, file.run ts 0 = .some (SourceFile.ofTokens ts, q) := by
  refine ⟨?specs, ?fields, ?decls, exists_run_file ts⟩
  case specs =>
    apply follows_specTurn.bounded specTurn_progress _ h
    exact fun _ _ _ => length_lt_of_specTurn_leave
  case fields =>
    apply follows_fieldTurn.bounded fieldTurn_progress _ h
    exact fun _ _ _ => length_lt_of_fieldTurn_leave
  case decls =>
    apply follows_declTurn.bounded declTurn_progress _ h
    exact fun _ _ hn hu => absurd (eq_nil_of_declTurn_leave hu) hn

-- From `A` on, a turn over a group or over a struct body takes all tokens, and the next one meets their
-- end.
theorem loops_bounded_unbalanced :
    let ts : List Token := [.word "package", .word "p", .closing .curly, .word "type",
      .opening .round, .word "A", .closing .square, .opening .curly, .terminator, .mark '*']
    5 ≤ ts.length ∧ ¬Nested [] ts ∧
    (loop specTurn []).run ts 5 = .some (.error .unexpectedEnd, 10) ∧
    (loop fieldTurn []).run ts 5 = .some (.error .unexpectedEnd, 10) ∧
    (loop declTurn []).run ts 5 = .some (.ok [], 10) ∧
    ∃ q ≤ 10, file.run ts 0 = .some (.error .unexpectedEnd, q) := by
  intro ts
  have h : 5 ≤ ts.length := by decide
  have ⟨hs, hf, hd, q, hq, hr⟩ := loops_bounded h [] []
  refine ⟨h, by simp [ts], hs.ends.trans ?_, hf.ends.trans ?_, hd.ends.trans ?_, q, hq, hr.trans ?_⟩
  all_goals rfl

end ColumnConstants.Scanner
