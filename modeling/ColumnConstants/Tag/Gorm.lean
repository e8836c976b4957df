import ColumnConstants.Tag.Delimiters
import ColumnConstants.Text.Blank
import ColumnConstants.Text.Split

namespace ColumnConstants.Tag

def segmentStart : List Char :=
  ['g', 'o', 'r', 'm', ':', '"']

def columnStart : List Char :=
  ['c', 'o', 'l', 'u', 'm', 'n', ':']

-- What follows the first opening of a segment. A segment may open here if `mayOpen`, and anywhere
-- later behind white space.
def afterSegmentStart? (mayOpen : Bool) : List Char → Option (List Char)
  | [] => none
  | c :: cs =>
    match if mayOpen then after? segmentStart (c :: cs) else none with
    | some rest => some rest
    | none => afterSegmentStart? (isBlank c) cs

def settingColumn? (setting : List Char) : Option (List Char) :=
  after? columnStart (setting.dropWhile isBlank)

def segmentColumn? (segment : List Char) : Option (List Char) :=
  (splitAtEach ';' segment).findSome? settingColumn?

def gormColumn? (tag : List Char) : Option (List Char) :=
  let segment := (afterSegmentStart? true (stripDelimiters tag)).bind (upTo? '"')
  (segment.bind segmentColumn?).filter (· ≠ [])

end ColumnConstants.Tag
