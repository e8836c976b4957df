namespace ColumnConstants

structure FieldDecl where
  -- The names declared on the line, in order; none for an embedded field.
  names : List String
  tag : Option String
  deriving DecidableEq, Repr

inductive TypeKind where
  | struct (fields : List FieldDecl)
  | other
  deriving DecidableEq, Repr

structure TypeDecl where
  name : String
  kind : TypeKind
  deriving DecidableEq, Repr

namespace TypeDecl

def IsStruct (decl : TypeDecl) : Prop :=
  ∃ lines, decl.kind = .struct lines

def lines (decl : TypeDecl) : List FieldDecl :=
  match decl.kind with
  | .struct lines => lines
  | .other        => []

def names (decl : TypeDecl) : List String :=
  decl.name :: decl.lines.flatMap FieldDecl.names

end TypeDecl

-- The package of a source file and its type declarations in the order of the text, those inside of
-- function bodies included.
structure SourceFile where
  package : String
  types : List TypeDecl
  deriving DecidableEq, Repr

def SourceFile.names (file : SourceFile) : List String :=
  file.package :: file.types.flatMap TypeDecl.names

def SourceFile.typesNamed (file : SourceFile) (name : String) : List TypeDecl :=
  file.types.filter (·.name = name)

end ColumnConstants
