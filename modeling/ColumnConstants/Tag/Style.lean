import ColumnConstants.Tag.FirstPair
import ColumnConstants.Tag.Gorm

namespace ColumnConstants

inductive Style where
  | firstPair
  | gorm
  deriving DecidableEq, Repr

namespace Style

def all : List Style :=
  [firstPair, gorm]

def name : Style → String
  | firstPair => "default"
  | gorm => "gorm"

def ofSelector (selector : String) : Style :=
  if selector = gorm.name then gorm else firstPair

def column? (style : Style) (tag : String) : Option String :=
  let column :=
    match style with
    | firstPair => Tag.firstPairColumn? tag.toList
    | gorm => Tag.gormColumn? tag.toList
  column.map String.ofList

@[simp]
theorem ofSelector_name (style : Style) : ofSelector style.name = style := by
  cases style <;> rfl

theorem mem_all (style : Style) : style ∈ all := by
  cases style <;> decide

theorem ofSelector_eq_find? (selector : String) :
    ofSelector selector = (all.find? (·.name = selector)).getD firstPair := by
  by_cases hg : selector = gorm.name
  case pos =>
    subst hg
    rfl
  case neg =>
    rw [ofSelector, if_neg hg]
    by_cases hf : selector = firstPair.name
    case pos =>
      subst hf
      rfl
    case neg => simp [all, Ne.symm hg, Ne.symm hf]

end Style

end ColumnConstants
