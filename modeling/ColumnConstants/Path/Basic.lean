import ColumnConstants.Text.Split

namespace ColumnConstants.Path

-- What a path starts with in front of its names: a slash for the root, or a point for the current
-- directory.
def start : List Char → List Char
  | '/' :: _ => ['/']
  | ['.'] => ['.']
  | '.' :: '/' :: _ => ['.']
  | _ => []

def body (path : List Char) : List Char :=
  path.drop (start path).length

-- A path, read from its end, without the names in front that mean nothing: empty ones and single
-- points.
def dropIdle : List Char → List Char
  | '/' :: rest => dropIdle rest
  | '.' :: '/' :: rest => dropIdle rest
  | ['.'] => []
  | rest => rest

def reversedNames (path : List Char) : List Char :=
  dropIdle (body path).reverse

def fileName? (path : List Char) : Option (List Char) :=
  let name := ((reversedNames path).takeWhile (· ≠ '/')).reverse
  if name = [] ∨ name = ['.', '.'] then none else some name

def directory (path : List Char) : List Char :=
  let names := reversedNames path
  if names = [] then []
  else start path ++ (dropIdle (names.dropWhile (· ≠ '/'))).reverse

def join (directory name : List Char) : List Char :=
  if directory = [] ∨ directory.getLast? = some '/' then directory ++ name
  else directory ++ '/' :: name

def names (path : List Char) : List (List Char) :=
  (splitAtEach '/' path).filter fun name => name ≠ [] ∧ name ≠ ['.']

end ColumnConstants.Path
