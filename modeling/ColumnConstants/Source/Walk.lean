import ColumnConstants.Source.Token

namespace ColumnConstants

-- A closer without an opener leaves the count at zero.
def Token.depthAfter (depth : Nat) : Token → Nat
  | opening _ => depth + 1
  | closing _ => depth - 1
  | _ => depth

-- The tokens up to the first one outside of brackets that satisfies `stop`, and those from there
-- on; `depth` brackets are open already.
def splitOutside (stop : Token → Bool) (depth : Nat) : List Token → List Token × List Token
  | [] => ([], [])
  | t :: ts =>
    if depth = 0 ∧ stop t then ([], t :: ts)
    else
      let (before, rest) := splitOutside stop (t.depthAfter depth) ts
      (t :: before, rest)

-- What follows the closer of the outermost of `depth` open brackets; with none open, what follows
-- the group that starts next.
def afterGroup (depth : Nat) : List Token → List Token
  | [] => []
  | .closing _ :: ts => if depth ≤ 1 then ts else afterGroup (depth - 1) ts
  | t :: ts => afterGroup (t.depthAfter depth) ts

def skipTerminators (ts : List Token) : List Token :=
  ts.dropWhile (· = .terminator)

theorem splitOutside_append (stop : Token → Bool) (depth : Nat) (ts : List Token) :
    (splitOutside stop depth ts).1 ++ (splitOutside stop depth ts).2 = ts := by
  induction ts generalizing depth with
  | nil => rfl
  | cons t ts ih =>
    unfold splitOutside
    split
    · rfl
    · simp [ih]

theorem splitOutside_suffix (stop : Token → Bool) (depth : Nat) (ts : List Token) :
    (splitOutside stop depth ts).2 <:+ ts :=
  ⟨_, splitOutside_append stop depth ts⟩

theorem length_splitOutside_lt {stop : Token → Bool} {t : Token} (ts : List Token)
    (h : stop t = false) : (splitOutside stop 0 (t :: ts)).2.length < (t :: ts).length := by
  have := (splitOutside_suffix stop (t.depthAfter 0) ts).length_le
  simp only [splitOutside, h, List.length_cons]
  simp only [Bool.false_eq_true, and_false, ↓reduceIte]
  omega

theorem afterGroup_suffix (depth : Nat) (ts : List Token) : afterGroup depth ts <:+ ts := by
  fun_induction afterGroup depth ts with
  | case1 => exact List.suffix_rfl
  | case2 => exact List.suffix_cons ..
  | case3 _ _ _ _ ih => exact ih.trans (List.suffix_cons ..)
  | case4 _ _ _ _ ih => exact ih.trans (List.suffix_cons ..)

theorem skipTerminators_suffix (ts : List Token) : skipTerminators ts <:+ ts :=
  List.dropWhile_suffix _

end ColumnConstants
