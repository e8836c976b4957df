namespace ColumnConstants

inductive Bracket where
  | round
  | square
  | curly
  deriving DecidableEq, Repr

namespace Bracket

def opener : Bracket → Char
  | round => '('
  | square => '['
  | curly => '{'

def closer : Bracket → Char
  | round => ')'
  | square => ']'
  | curly => '}'

def opening? (c : Char) : Option Bracket :=
  if c = '(' then some round
  else if c = '[' then some square
  else if c = '{' then some curly
  else none

def closing? (c : Char) : Option Bracket :=
  if c = ')' then some round
  else if c = ']' then some square
  else if c = '}' then some curly
  else none

@[simp]
theorem opening?_opener (b : Bracket) : opening? b.opener = some b := by
  cases b <;> rfl

@[simp]
theorem closing?_closer (b : Bracket) : closing? b.closer = some b := by
  cases b <;> rfl

theorem opening?_eq_some_iff {c : Char} {b : Bracket} : opening? c = some b ↔ c = b.opener := by
  constructor
  · intro h
    unfold opening? at h
    repeat' split at h
    all_goals simp_all
    all_goals subst h; rfl
  · rintro rfl
    exact opening?_opener b

theorem closing?_eq_some_iff {c : Char} {b : Bracket} : closing? c = some b ↔ c = b.closer := by
  constructor
  · intro h
    unfold closing? at h
    repeat' split at h
    all_goals simp_all
    all_goals subst h; rfl
  · rintro rfl
    exact closing?_closer b

@[simp]
theorem closing?_opener (b : Bracket) : closing? b.opener = none := by
  cases b <;> rfl

@[simp]
theorem opening?_closer (b : Bracket) : opening? b.closer = none := by
  cases b <;> rfl

end Bracket

end ColumnConstants
