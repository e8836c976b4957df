import ColumnConstants.Source.Scan

namespace ColumnConstants

def Token.isUnopened (depth : Nat) : Token → Bool
  | closing _ => depth = 0
  | _ => false

def splitChecked (stop : Token → Bool) (depth : Nat) :
    List Token → Except SourceError (List Token × List Token)
  | [] => .ok ([], [])
  | t :: ts =>
    if depth = 0 ∧ stop t then .ok ([], t :: ts)
    else if t.isUnopened depth then .error .unexpectedEnd
    else (splitChecked stop (t.depthAfter depth) ts).map fun (before, rest) => (t :: before, rest)

def afterGroupChecked (depth : Nat) : List Token → Except SourceError (List Token)
  | [] => .ok []
  | .closing _ :: ts =>
    match depth with
    | 0 => .error .unexpectedEnd
    | 1 => .ok ts
    | depth + 1 => afterGroupChecked depth ts
  | t :: ts => afterGroupChecked (t.depthAfter depth) ts

def closesAtEndChecked (depth : Nat) : List Token → Except SourceError Bool
  | [] => .ok false
  | .opening .square :: ts => closesAtEndChecked (depth + 1) ts
  | .closing .square :: ts =>
    match depth with
    | 0 => .error .unexpectedEnd
    | 1 => .ok ts.isEmpty
    | depth + 1 => closesAtEndChecked depth ts
  | _ :: ts => closesAtEndChecked depth ts

-- A way to walk over tokens: up to a stop outside of brackets, over a group, and over a list in square
-- brackets to see whether it ends the line.
structure Walker where
  split : (Token → Bool) → List Token → Except SourceError (List Token × List Token)
  skip : List Token → Except SourceError (List Token)
  closes : List Token → Except SourceError Bool

namespace Walker

def saturating : Walker where
  split stop ts := .ok (splitOutside stop 0 ts)
  skip ts := .ok (afterGroup 0 ts)
  closes ts := .ok (FieldDecl.closesAtEnd 0 ts)

def checked : Walker where
  split stop ts := splitChecked stop 0 ts
  skip ts := afterGroupChecked 0 ts
  closes ts := closesAtEndChecked 0 ts

def namesOf (walker : Walker) : List Token → Except SourceError (List String)
  | .word name :: .opening .square :: ts => do
    return if ← walker.closes (.opening .square :: ts) then [] else [name]
  | ts => .ok (FieldDecl.namesOf ts)

def ofLine? (walker : Walker) (line : List Token) : Except SourceError (Option FieldDecl) :=
  let (tag, declared) := FieldDecl.splitTag line
  if declared.isEmpty then .ok none
  else (walker.namesOf declared).map fun names => some ⟨names, tag⟩

def fieldTurn (walker : Walker) (ts : List Token) : Except SourceError (Turn FieldDecl) :=
  match skipTerminators ts with
  | [] => .error .unexpectedEnd
  | .closing .curly :: rest => .ok (.leave rest)
  | ts => do
    let (line, rest) ← walker.split Token.endsField ts
    return .stay (← walker.ofLine? line).toList rest

def structFields (walker : Walker) (ts : List Token) :
    Except SourceError (List FieldDecl × List Token) :=
  repeatTurns walker.fieldTurn ts

def skipTypeParams (walker : Walker) (ts : List Token) : Except SourceError (List Token) :=
  if startsTypeParams ts then walker.skip ts else .ok ts

def typeSpec (walker : Walker) (name : String) (ts : List Token) :
    Except SourceError (TypeDecl × List Token) := do
  let ts := skipEquals (← walker.skipTypeParams ts)
  match structBody? ts with
  | some body =>
    let (fields, rest) ← walker.structFields body
    return (⟨name, .struct fields⟩, rest)
  | none =>
    let (_, rest) ← walker.split Token.endsType ts
    return (⟨name, .other⟩, rest)

def specTurn (walker : Walker) (ts : List Token) : Except SourceError (Turn TypeDecl) :=
  match skipTerminators ts with
  | [] => .error .unexpectedEnd
  | .closing .round :: rest => .ok (.leave rest)
  | .word name :: rest => do
    let (decl, rest) ← walker.typeSpec name rest
    return .stay [decl] rest
  | ts => do
    let (_, rest) ← walker.split Token.endsType ts
    return .stay [] rest

def specGroup (walker : Walker) (ts : List Token) :
    Except SourceError (List TypeDecl × List Token) :=
  repeatTurns walker.specTurn ts

end Walker

end ColumnConstants
