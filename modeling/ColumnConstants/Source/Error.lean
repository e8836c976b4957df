namespace ColumnConstants

inductive SourceError where
  | missingPackage
  | unterminatedString (line : Nat)
  | unterminatedComment (line : Nat)
  | unbalancedBracket (line : Nat) (bracket : Char)
  | unexpectedEnd
  deriving DecidableEq, Repr

def SourceError.message : SourceError → String
  | missingPackage => "Missing package clause"
  | unterminatedString line => "Unterminated string literal at line " ++ toString line
  | unterminatedComment line => "Unterminated block comment at line " ++ toString line
  | unbalancedBracket line bracket =>
    "Unbalanced '" ++ bracket.toString ++ "' at line " ++ toString line
  | unexpectedEnd => "Unexpected end of file"

end ColumnConstants
