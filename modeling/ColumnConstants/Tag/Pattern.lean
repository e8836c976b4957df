import ColumnConstants.Tag.Gorm

namespace ColumnConstants

inductive Pattern where
  | start
  | one (accepts : Char → Bool)
  | many (accepts : Char → Bool)
  | literal (text : List Char)
  | group (pattern : Pattern)
  | seq (first second : Pattern)
  | either (first second : Pattern)

structure Position where
  atStart : Bool
  rest : List Char
  grouped : List Char
  deriving DecidableEq, Repr

def Position.passed (accepts : Char → Bool) (grouped : List Char) :
    (atStart : Bool) → (rest : List Char) → List Position
  | atStart, [] => [⟨atStart, [], grouped⟩]
  | atStart, c :: cs =>
    if accepts c then passed accepts grouped false cs ++ [⟨atStart, c :: cs, grouped⟩]
    else [⟨atStart, c :: cs, grouped⟩]

namespace Pattern

-- The positions behind the matches at a position, in the order of preference.
def ends (position : Position) : Pattern → List Position
  | start => if position.atStart then [position] else []
  | one accepts =>
    match position.rest with
    | [] => []
    | c :: cs => if accepts c then [⟨false, cs, position.grouped⟩] else []
  | many accepts => Position.passed accepts position.grouped position.atStart position.rest
  | literal text =>
    match after? text position.rest with
    | some rest => [⟨position.atStart && text.isEmpty, rest, position.grouped⟩]
    | none => []
  | group pattern =>
    (pattern.ends position).map fun p =>
      { p with grouped := position.rest.take (position.rest.length - p.rest.length) }
  | seq first second => (first.ends position).flatMap fun p => second.ends p
  | either first second => first.ends position ++ second.ends position

def grouped? (pattern : Pattern) (atStart : Bool) (cs : List Char) : Option (List Char) :=
  (pattern.ends ⟨atStart, cs, []⟩).head?.map Position.grouped

def search (pattern : Pattern) (atStart : Bool) : List Char → Option (List Char)
  | [] => pattern.grouped? atStart []
  | c :: cs => (pattern.grouped? atStart (c :: cs)).or (pattern.search false cs)

def find? (pattern : Pattern) (text : List Char) : Option (List Char) :=
  pattern.search true text

end Pattern

namespace Tag

-- The value of the first pair of a tag: `(?s)\A[^:]*:.([^"]*)"`.
def firstPairPattern : Pattern :=
  .seq .start <| .seq (.many (· ≠ ':')) <| .seq (.literal ":".toList) <| .seq (.one fun _ => true) <|
    .seq (.group (.many (· ≠ '"'))) (.one (· = '"'))

-- A segment of gorm, at the start of a tag or behind white space: `(?:\A|\s)gorm:"([^"]*)"`.
def segmentPattern : Pattern :=
  .seq (.either .start (.one isBlank)) <| .seq (.literal "gorm:\"".toList) <|
    .seq (.group (.many (· ≠ '"'))) (.one (· = '"'))

-- A setting that names the column, at the start of a segment or behind a semicolon:
-- `(?:\A|;)\s*column:([^;]*)`.
def columnPattern : Pattern :=
  .seq (.either .start (.one (· = ';'))) <| .seq (.many isBlank) <|
    .seq (.literal "column:".toList) (.group (.many (· ≠ ';')))

end Tag

end ColumnConstants
