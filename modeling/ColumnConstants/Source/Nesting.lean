import ColumnConstants.Source.Bracket
import ColumnConstants.Source.Error
import ColumnConstants.Source.Piece

namespace ColumnConstants

inductive Nesting where
  | opens (b : Bracket)
  | closes (b : Bracket)
  | keeps
  deriving DecidableEq, Repr

def Nesting.ofChar (c : Char) : Nesting :=
  match Bracket.opening? c, Bracket.closing? c with
  | some b, _ => opens b
  | none, some b => closes b
  | none, none => keeps

def Piece.nesting : Piece → Nesting
  | mark c => .ofChar c
  | _ => .keeps

structure OpenBracket where
  bracket : Bracket
  line : Nat
  deriving DecidableEq, Repr

def Unclosed.error (unclosed : Unclosed) (line : Nat) : SourceError :=
  match unclosed with
  | comment => .unterminatedComment line
  | literal => .unterminatedString line

-- Checks a text that goes on with `ps` on `line`, with the brackets `opened` around it, the
-- innermost one first; `unclosed` is what the text ends inside of.
def checkNesting (line : Nat) (opened : List OpenBracket) (unclosed : Option Unclosed) :
    List Piece → Except SourceError Unit
  | [] =>
    match unclosed, opened with
    | some u, _ => .error (u.error line)
    | none, ⟨b, l⟩ :: _ => .error (.unbalancedBracket l b.opener)
    | none, [] => .ok ()
  | p :: ps =>
    match p.nesting with
    | .opens b => checkNesting (line + p.lines) (⟨b, line⟩ :: opened) unclosed ps
    | .closes b =>
      match opened with
      | ⟨b', _⟩ :: opened =>
        if b' = b then checkNesting (line + p.lines) opened unclosed ps
        else .error (.unbalancedBracket line b.closer)
      | [] => .error (.unbalancedBracket line b.closer)
    | .keeps => checkNesting (line + p.lines) opened unclosed ps

end ColumnConstants
