import ColumnConstants.Path.Basic

namespace ColumnConstants.Path

def targetEnding : List Char :=
  "_fields.go".toList

def stem (name : List Char) : List Char :=
  name.takeWhile (· ≠ '.')

def target (path : String) : String :=
  let path := path.toList
  String.ofList (join (directory path) (stem ((fileName? path).getD []) ++ targetEnding))

end ColumnConstants.Path
