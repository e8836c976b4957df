import ColumnConstants.Outcome
import ColumnConstants.Source.Token

namespace ColumnConstants

inductive Turn (α : Type) where
  | leave (rest : List Token)
  | stay (found : List α) (rest : List Token)

def Turn.rest {α : Type} : Turn α → List Token
  | leave rest => rest
  | stay _ rest => rest

structure Progress {α : Type} (turn : List Token → Except SourceError (Turn α)) : Prop where
  suffix  : ∀ {ts t}, turn ts = .ok t → t.rest <:+ ts
  shorter : ∀ {ts found rest}, turn ts = .ok (.stay found rest) → rest.length < ts.length

-- Takes turns until one leaves the loop. Yields all that was found, and what follows the loop.
-- The bound on the number of turns is out of reach of every loop that makes progress.
def repeatTurns {α : Type} (turn : List Token → Except SourceError (Turn α)) (ts : List Token) :
    Except SourceError (List α × List Token) :=
  go (ts.length + 1) ts
where
  go : Nat → List Token → Except SourceError (List α × List Token)
    | 0, _ => .error .unexpectedEnd
    | n + 1, ts =>
      match turn ts with
      | .error e => .error e
      | .ok (.leave rest) => .ok ([], rest)
      | .ok (.stay found rest) => (go n rest).map fun (more, rest) => (found ++ more, rest)

section

variable {α : Type} {turn : List Token → Except SourceError (Turn α)} {ts rest : List Token}
variable {found : List α}

-- More turns than there are tokens make no difference.
theorem repeatTurns.go_eq (p : Progress turn) {n : Nat} (h : ts.length < n) :
    go turn n ts = repeatTurns turn ts := by
  have go_eq_go {n m : Nat} {ts : List Token} (hn : ts.length < n) (hm : ts.length < m) :
      go turn n ts = go turn m ts := by
    induction n generalizing m ts
    case zero => omega
    case succ n ih =>
      cases m
      case zero => omega
      case succ m =>
        simp only [go]
        split
        case h_1 | h_2 => rfl
        case h_3 ht =>
          have := p.shorter ht
          rw [ih (m := m) (by omega) (by omega)]
  exact go_eq_go h (Nat.lt_succ_self _)

theorem repeatTurns_of_error {e : SourceError} (h : turn ts = .error e) :
    repeatTurns turn ts = .error e := by
  simp [repeatTurns, repeatTurns.go, h]

theorem repeatTurns_of_leave (h : turn ts = .ok (.leave rest)) :
    repeatTurns turn ts = .ok ([], rest) := by
  simp [repeatTurns, repeatTurns.go, h]

theorem repeatTurns_of_stay (p : Progress turn) (h : turn ts = .ok (.stay found rest)) :
    repeatTurns turn ts =
      (repeatTurns turn rest).map fun (more, rest) => (found ++ more, rest) := by
  rw [← repeatTurns.go_eq p (p.shorter h)]
  simp only [repeatTurns, repeatTurns.go, h]

theorem repeatTurns_suffix (p : Progress turn) {ts rest : List Token} {found : List α}
    (h : repeatTurns turn ts = .ok (found, rest)) : rest <:+ ts := by
  match ht : turn ts with
  | .error e => simp [repeatTurns_of_error ht] at h
  | .ok (.leave r) =>
    rw [repeatTurns_of_leave ht] at h
    cases h
    exact p.suffix ht
  | .ok (.stay xs r) =>
    rw [repeatTurns_of_stay p ht] at h
    have ⟨⟨more, r'⟩, hr, he⟩ := map_eq_ok.mp h
    have := p.shorter ht
    cases he
    exact (repeatTurns_suffix p hr).trans (p.suffix ht)
termination_by ts.length

theorem repeatTurns_eq_of_inside {turn' : List Token → Except SourceError (Turn α)}
    {Inside : List Token → Prop} (same : ∀ ts, Inside ts → turn' ts = turn ts)
    (step : ∀ ts found rest, Inside ts → turn ts = .ok (.stay found rest) → Inside rest)
    (h : Inside ts) : repeatTurns turn' ts = repeatTurns turn ts := by
  have go_eq_go {n : Nat} {ts : List Token} (h : Inside ts) :
      repeatTurns.go turn' n ts = repeatTurns.go turn n ts := by
    induction n generalizing ts with
    | zero => rfl
    | succ n ih =>
      simp only [repeatTurns.go, same ts h]
      split
      case h_1 | h_2 => rfl
      case h_3 ht => rw [ih (step _ _ _ h ht)]
  exact go_eq_go h

theorem repeatTurns_forall (p : Progress turn) {P : α → Prop} {ts rest : List Token}
    {found : List α}
    (step : ∀ us items rest, us <:+ ts → turn us = .ok (.stay items rest) → ∀ x ∈ items, P x)
    (h : repeatTurns turn ts = .ok (found, rest)) : ∀ x ∈ found, P x := by
  match ht : turn ts with
  | .error e => simp [repeatTurns_of_error ht] at h
  | .ok (.leave r) =>
    rw [repeatTurns_of_leave ht] at h
    cases h
    simp
  | .ok (.stay items r) =>
    rw [repeatTurns_of_stay p ht] at h
    have ⟨⟨more, r'⟩, hr, he⟩ := map_eq_ok.mp h
    have := p.shorter ht
    cases he
    intro x hx
    obtain hx | hx := List.mem_append.mp hx
    · exact step ts items r List.suffix_rfl ht x hx
    · refine repeatTurns_forall p (fun us items rest hs => ?_) hr x hx
      exact step us items rest (hs.trans (p.suffix ht))
termination_by ts.length

end

end ColumnConstants
