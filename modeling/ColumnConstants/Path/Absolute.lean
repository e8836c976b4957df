import ColumnConstants.Path.Basic

namespace ColumnConstants.Path

def isAbsolute (path : List Char) : Bool :=
  path.head? = some '/'

def isRelative (path : String) : Bool :=
  !path.isEmpty && !isAbsolute path.toList

-- The absolute path of what `path` means in the directory `current`; an empty path means
-- nothing.
-- A relative path loses what means nothing in it, but a slash at its end stays: it says that the
-- path is one of a directory. An absolute path is left as it is.
def absolute? (current path : String) : Option String :=
  if isAbsolute path.toList then some path
  else if path.isEmpty then none
  else
    let place := (names path.toList).foldl join current.toList
    some <| String.ofList <|
      if path.toList.getLast? = some '/' then join place [] else place

theorem absolute?_of_not_relative {path : String} (h : isRelative path = false)
    (current other : String) : absolute? current path = absolute? other path := by
  unfold isRelative at h
  unfold absolute?
  split
  case isTrue => rfl
  case isFalse ha => simp_all

end ColumnConstants.Path
