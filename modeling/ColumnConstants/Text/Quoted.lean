import ColumnConstants.Text.Printing

namespace ColumnConstants

def hexadecimal (n : Nat) : List Char :=
  Nat.toDigits 16 n

def quotedChar (c : Char) : List Char :=
  if c = '\x00' then ['\\', '0']
  else if c = '\t' then ['\\', 't']
  else if c = '\r' then ['\\', 'r']
  else if c = '\n' then ['\\', 'n']
  else if c = '"' then ['\\', '"']
  else if c = '\\' then ['\\', '\\']
  else if isShown c then [c]
  else ['\\', 'u', '\x7b'] ++ hexadecimal c.toNat ++ ['\x7d']

def quoted (s : String) : String :=
  String.ofList ('"' :: s.toList.flatMap quotedChar ++ ['"'])

-- In a path, single quotes are escaped as well.
def quotedPath (s : String) : String :=
  String.ofList ('"' :: s.toList.flatMap quotedPathChar ++ ['"'])
where
  quotedPathChar (c : Char) : List Char :=
    if c = '\x27' then ['\\', c] else quotedChar c

end ColumnConstants
