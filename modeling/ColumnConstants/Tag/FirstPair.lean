import ColumnConstants.Tag.Delimiters
import ColumnConstants.Text.Split

namespace ColumnConstants.Tag

-- The value of the first pair of a tag, if it is not empty.
-- The character behind the colon is the opening quote of the value. It is not checked.
def firstPairColumn? (tag : List Char) : Option (List Char) :=
  match (stripDelimiters tag).dropWhile (· ≠ ':') with
  | _ :: _ :: rest => (upTo? '"' rest).filter (· ≠ [])
  | _ => none

end ColumnConstants.Tag
