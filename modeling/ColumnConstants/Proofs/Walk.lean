import ColumnConstants.Proofs.Nested

namespace ColumnConstants

section

variable {stop : Token → Bool} {depth : Nat} {pre st : List Bracket} {b : Bracket}
variable {t : Token} {ts us : List Token}

def depthBehind (depth : Nat) (ts : List Token) : Nat :=
  ts.foldl Token.depthAfter depth

-- The open brackets that a walk counts are some of those that are there, so none is left at the end.
theorem depthBehind_eq_zero_of_nested (h : Nested st ts) (hd : depth ≤ st.length) :
    depthBehind depth ts = 0 := by
  induction ts generalizing st depth with
  | nil =>
    cases h
    exact Nat.le_zero.mp hd
  | cons t ts ih =>
    cases t
    case opening b =>
      refine ih h ?_
      simpa [Token.depthAfter] using hd
    case closing b =>
      obtain ⟨st, rfl, h⟩ := h
      refine ih h ?_
      simpa [Token.depthAfter] using hd
    all_goals exact ih h hd

theorem splitOutside_cons_of_not_stop (h : ¬(depth = 0 ∧ stop t = true)) :
    splitOutside stop depth (t :: ts) =
      (t :: (splitOutside stop (t.depthAfter depth) ts).1,
        (splitOutside stop (t.depthAfter depth) ts).2) := by
  simp only [splitOutside, h, if_false]

theorem stop_of_splitOutside (h : (splitOutside stop depth ts).2 = t :: us) : stop t = true := by
  induction ts generalizing depth with
  | nil => cases h
  | cons u ts ih =>
    by_cases hs : depth = 0 ∧ stop u = true
    case neg =>
      rw [splitOutside_cons_of_not_stop hs] at h
      exact ih h
    case pos =>
      simp only [splitOutside, hs, and_self, if_true] at h
      cases h
      exact hs.2

theorem splitOutside_append_of_stopped (h : (splitOutside stop depth ts).2 ≠ []) :
    splitOutside stop depth (ts ++ us) =
      ((splitOutside stop depth ts).1, (splitOutside stop depth ts).2 ++ us) := by
  induction ts generalizing depth with
  | nil => exact absurd rfl h
  | cons t ts ih =>
    unfold splitOutside at h ⊢
    by_cases hs : depth = 0 ∧ stop t
    case pos => simp [hs]
    case neg =>
      simp only [hs, ↓reduceIte] at h
      simp [hs, ih h]

theorem splitOutside_append_of_not_stopped (h : (splitOutside stop depth ts).2 = []) :
    splitOutside stop depth (ts ++ us) =
      (ts ++ (splitOutside stop (depthBehind depth ts) us).1,
        (splitOutside stop (depthBehind depth ts) us).2) := by
  induction ts generalizing depth with
  | nil => rfl
  | cons t ts ih =>
    unfold splitOutside at h
    by_cases hs : depth = 0 ∧ stop t
    case pos => simp [hs] at h
    case neg =>
      simp only [hs, ↓reduceIte] at h
      rw [List.cons_append, splitOutside]
      simp [hs, ih h, depthBehind]

-- Behind nested tokens, every walk is outside of brackets and stops at the next occasion.
theorem splitOutside_append_of_nested (h : Nested st ts) (hd : depth ≤ st.length)
    (hs : stop t = true) :
    splitOutside stop depth (ts ++ t :: us) =
      ((splitOutside stop depth ts).1, (splitOutside stop depth ts).2 ++ t :: us) := by
  by_cases hr : (splitOutside stop depth ts).2 = []
  case neg => exact splitOutside_append_of_stopped hr
  case pos =>
    have hp := splitOutside_append stop depth ts
    rw [hr, List.append_nil] at hp
    rw [splitOutside_append_of_not_stopped hr, depthBehind_eq_zero_of_nested h hd, hp]
    simp [splitOutside, hs, hr]

-- A walk that stops at the closer of the bracket around it stays inside of the bracket.
theorem Nested.splitOutside (h : Nested (pre ++ st) ts)
    (hs : ∀ b ∈ st.head?, stop (.closing b) = true) :
    Nested st (splitOutside stop pre.length ts).2 := by
  induction ts generalizing pre with
  | nil => exact (List.append_eq_nil_iff.mp h).2
  | cons t ts ih =>
    unfold ColumnConstants.splitOutside
    split
    case isTrue hd =>
      have hp := List.length_eq_zero_iff.mp hd.1
      simpa [hp] using h
    case isFalse hd =>
      cases t
      case opening b' => exact ih (show Nested (b' :: pre ++ st) ts from h)
      case closing b' =>
        obtain ⟨st', he, h⟩ := h
        cases pre
        case nil =>
          have hb : b' ∈ st.head? := by simp [show st = b' :: st' from he]
          exact absurd ⟨rfl, hs b' hb⟩ hd
        case cons p pre =>
          cases he
          exact ih h
      all_goals exact ih h

theorem splitOutside_nested (h : Nested pre ts) :
    splitOutside stop (depth + 1 + pre.length) (ts ++ us) =
      (ts ++ (splitOutside stop (depth + 1) us).1, (splitOutside stop (depth + 1) us).2) := by
  have inside {d : Nat} {t : Token} : ¬(depth + 1 + d = 0 ∧ stop t = true) := by omega
  induction ts generalizing pre with
  | nil =>
    rw [Nested.nil_iff.mp h]
    rfl
  | cons t ts ih =>
    have step {pre' : List Bracket} (hn : Nested pre' ts)
        (hd : t.depthAfter (depth + 1 + pre.length) = depth + 1 + pre'.length) :
        splitOutside stop (depth + 1 + pre.length) (t :: ts ++ us) =
          (t :: ts ++ (splitOutside stop (depth + 1) us).1,
            (splitOutside stop (depth + 1) us).2) := by
      rw [List.cons_append, splitOutside_cons_of_not_stop inside, hd, ih hn]
      rfl
    cases t
    case opening b => exact step (show Nested (b :: pre) ts from h) rfl
    case closing b =>
      obtain ⟨pre, rfl, h⟩ := h
      exact step h rfl
    all_goals exact step (show Nested pre ts from h) rfl

theorem afterGroup_nested (h : Nested pre ts) :
    afterGroup (depth + 1 + pre.length) (ts ++ us) = afterGroup (depth + 1) us := by
  induction ts generalizing pre with
  | nil =>
    rw [Nested.nil_iff.mp h]
    rfl
  | cons t ts ih =>
    cases t
    case opening b => exact ih (show Nested (b :: pre) ts from h)
    case closing b =>
      obtain ⟨pre, rfl, h⟩ := h
      have hd : ¬depth + 1 + (b :: pre).length ≤ 1 := by
        rw [List.length_cons]
        omega
      rw [List.cons_append, ColumnConstants.afterGroup, if_neg hd]
      exact ih h
    all_goals exact ih h

theorem splitOutside_group (c : Bracket) (h : Nested [] ts) (hs : stop (.opening b) = false) :
    splitOutside stop depth (.opening b :: (ts ++ .closing c :: us)) =
      (.opening b :: (ts ++ .closing c :: (splitOutside stop depth us).1),
        (splitOutside stop depth us).2) := by
  have hn : splitOutside stop (depth + 1) (ts ++ .closing c :: us) =
      (ts ++ (splitOutside stop (depth + 1) (.closing c :: us)).1,
        (splitOutside stop (depth + 1) (.closing c :: us)).2) := splitOutside_nested h
  have ho : ¬(depth = 0 ∧ stop (.opening b) = true) := by simp [hs]
  have hc : ¬(depth + 1 = 0 ∧ stop (.closing c) = true) := by simp
  rw [splitOutside_cons_of_not_stop ho, Token.depthAfter, hn, splitOutside_cons_of_not_stop hc]
  rfl

theorem afterGroup_group (b c : Bracket) (h : Nested [] ts) :
    afterGroup 0 (.opening b :: (ts ++ .closing c :: us)) = us := by
  have hn : afterGroup 1 (ts ++ .closing c :: us) = afterGroup 1 (.closing c :: us) :=
    afterGroup_nested h
  exact hn

theorem Nested.afterGroup (h : Nested (pre ++ b :: st) ts) :
    Nested st (afterGroup (pre.length + 1) ts) := by
  obtain ⟨inner, outer, rfl, hi, ho⟩ := h.exists_closing
  rw [Nat.add_comm, ← Nat.zero_add 1, afterGroup_nested hi]
  exact ho

theorem afterGroup_append_of_nested (h : Nested (pre ++ b :: st) ts) :
    afterGroup (pre.length + 1) (ts ++ us) = afterGroup (pre.length + 1) ts ++ us := by
  obtain ⟨inner, outer, rfl, hi, _⟩ := h.exists_closing
  rw [List.append_assoc, Nat.add_comm, ← Nat.zero_add 1, afterGroup_nested hi, afterGroup_nested hi]
  rfl

theorem skipTerminators_append_of_ne_nil (h : skipTerminators ts ≠ []) :
    skipTerminators (ts ++ us) = skipTerminators ts ++ us := by
  unfold skipTerminators at h ⊢
  rw [List.dropWhile_append]
  simp [h]

end

end ColumnConstants
