import ColumnConstants.Source.Nesting
import ColumnConstants.Source.StringLiteral

namespace ColumnConstants

inductive Token where
  | word (name : String)
  | string (literal : StringLiteral)
  | constant
  | opening (b : Bracket)
  | closing (b : Bracket)
  | mark (c : Char)
  -- The end of a statement, written as a semicolon or implied by a line break.
  | terminator
  deriving DecidableEq, Repr

namespace Token

def ofMark (c : Char) : Token :=
  match Nesting.ofChar c with
  | .opens b => opening b
  | .closes b => closing b
  | .keeps => if c = ';' then terminator else mark c

def endsStatement : Token → Bool
  | word _ | string _ | constant | closing _ => true
  | opening _ | mark _ | terminator => false

end Token

def Piece.token? : Piece → Option Token
  | lineBreak | blank _ | lineComment _ | blockComment _ => none
  | rawString t => some (.string (.raw t))
  | string t => some (.string (.interpreted t))
  | rune _ | number _ => some .constant
  | word t => some (.word (String.ofList t))
  | mark c => some (.ofMark c)

-- The tokens of the pieces; `ready` says whether a line break in front of them ends a statement,
-- as the end of the text does.
def tokens (ready : Bool) : List Piece → List Token
  | [] => if ready then [.terminator] else []
  | p :: ps =>
    match p.token? with
    | some t => t :: tokens t.endsStatement ps
    | none =>
      if ready && p.breaksLine then .terminator :: tokens false ps else tokens ready ps

def tokenize (source : List Char) : Except SourceError (List Token) := do
  let (ps, unclosed) := pieces source
  checkNesting 1 [] unclosed ps
  return tokens false ps

end ColumnConstants
