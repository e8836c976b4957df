import ColumnConstants.Text.Alphabetic

namespace ColumnConstants

def isColumnChar (c : Char) : Bool :=
  isAlphabetic c || c.isDigit || c = '_'

def isColumnName (name : String) : Bool :=
  name.toList.all isColumnChar

end ColumnConstants
