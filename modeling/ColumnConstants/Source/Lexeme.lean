import ColumnConstants.Source.Token

namespace ColumnConstants

-- A number that starts with a point or has a signed exponent counts as several lexemes.
inductive Lexeme where
  | word (name : List Char)
  | literal
  | operator (cs : List Char)
  deriving DecidableEq, Repr

namespace Lexeme

def keywords : List (List Char) :=
  ["break", "case", "chan", "const", "continue", "default", "defer", "else", "fallthrough", "for",
    "func", "go", "goto", "if", "import", "interface", "map", "package", "range", "return",
    "select", "struct", "switch", "type", "var"].map String.toList

def lastKeywords : List (List Char) :=
  ["break", "continue", "fallthrough", "return"].map String.toList

def longOperators : List (List Char) :=
  ["<<=", ">>=", "&^=", "...", "<<", ">>", "&^", "&&", "||", "<-", "++", "--", "==", "!=", "<=",
    ">=", ":=", "+=", "-=", "*=", "/=", "%=", "&=", "|=", "^="].map String.toList

def lastOperators : List (List Char) :=
  ["++", "--"].map String.toList

def closers : List (List Char) :=
  [")", "]", "\x7d"].map String.toList

def firstOperator (c : Char) (cs : List Char) : List Char :=
  (longOperators.find? (·.isPrefixOf (c :: cs))).getD [c]

-- The operators that characters without anything in between are, from left to right and each as
-- long as possible.
def cutOperators : List Char → List (List Char)
  | [] => []
  | c :: cs => firstOperator c cs :: cutOperators (cs.drop ((firstOperator c cs).length - 1))
termination_by cs => cs.length
decreasing_by
  simp only [List.length_drop, List.length_cons]
  omega

def mayBeLast : Lexeme → Bool
  | word name => name ∉ keywords || name ∈ lastKeywords
  | literal => true
  | operator cs => cs ∈ lastOperators ++ closers

def impliesTerminator : Lexeme → Bool
  | word _ | literal => true
  | operator cs => cs ∈ closers

-- Whether a keyword is taken for an identifier, or an operator for one that goes on.
def misjudged : Lexeme → Bool
  | word name => name ∈ keywords && name ∉ lastKeywords
  | literal => false
  | operator cs => cs ∈ lastOperators

end Lexeme

def Piece.lexeme? : Piece → Option Lexeme
  | rawString _ | string _ | rune _ | number _ => some .literal
  | word t => some (.word t)
  | lineBreak | blank _ | lineComment _ | blockComment _ | mark _ => none

def lexemesBehind (marks : List Char) : List Piece → List Lexeme
  | [] => (Lexeme.cutOperators marks).map .operator
  | .mark c :: ps => lexemesBehind (marks ++ [c]) ps
  | p :: ps =>
    (Lexeme.cutOperators marks).map .operator ++ (p.lexeme?.toList ++ lexemesBehind [] ps)

def lexemes (ps : List Piece) : List Lexeme :=
  lexemesBehind [] ps

-- The pieces of each line of a text, without those between the lines. A comment of more than one
-- line stands between lines.
def linesOf (ps : List Piece) : List (List Piece) :=
  ps.splitOnP Piece.breaksLine

def lineTokens (rule : Lexeme → Bool) (line : List Piece) : List Token :=
  line.filterMap Piece.token? ++ if (lexemes line).getLast?.any rule then [.terminator] else []

def tokensBy (rule : Lexeme → Bool) (ps : List Piece) : List Token :=
  (linesOf ps).flatMap (lineTokens rule)

end ColumnConstants
