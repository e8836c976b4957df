import ColumnConstants.Column.Name
import ColumnConstants.Log.Logged
import ColumnConstants.Source.Declaration

namespace ColumnConstants

structure Field where
  name : String
  column : String
  deriving DecidableEq, Repr

inductive Validation where
  | strict
  | lenient
  deriving DecidableEq, Repr

inductive ExtractError where
  | invalidColumn (field value : String)
  | notAStruct (type : String)
  | noFields (type : String)
  deriving DecidableEq, Repr

def ExtractError.message : ExtractError → String
  | invalidColumn field value => "field '" ++ field ++ "' tag value '" ++ value ++ "' is invalid"
  | notAStruct type => "type " ++ type ++ " is not a struct type"
  | noFields type => "no fields to generate for type " ++ type

def Validation.accepts (validation : Validation) (column : String) : Bool :=
  match validation with
  | strict => isColumnName column
  | lenient => true

-- The first name of a line counts. A line without a field has the record that tells why.
def FieldDecl.field (style : Style) (decl : FieldDecl) : Except Record Field :=
  match decl.names, decl.tag with
  | [], tag => .error (.skippedEmbedded tag)
  | name :: _, none => .error (.skippedUntagged name)
  | name :: _, some tag =>
    match style.column? tag with
    | none => .error (.skippedColumnless style name tag)
    | some column => .ok ⟨name, column⟩

def extractFields (style : Style) (validation : Validation) :
    List FieldDecl → Logged ExtractError (List Field)
  | [] => pure []
  | decl :: decls =>
    match decl.field style with
    | .error record => do
      .note record
      extractFields style validation decls
    | .ok field =>
      if validation.accepts field.column then
        (field :: ·) <$> extractFields style validation decls
      else .fail (.invalidColumn field.name field.column)

def extractDecls (type : String) (style : Style) (validation : Validation) :
    List TypeDecl → Logged ExtractError (List Field)
  | [] => pure []
  | decl :: decls =>
    match decl.kind with
    | .struct lines => do
      let fields ← extractFields style validation lines
      (fields ++ ·) <$> extractDecls type style validation decls
    | .other => .fail (.notAStruct type)

-- The fields of the struct type `type` of a file. There is at least one.
-- A name that is declared more than once, as function bodies may do, has the fields of all its
-- declarations.
def extractStruct (file : SourceFile) (type : String) (style : Style) (validation : Validation) :
    Logged ExtractError (List Field) := do
  let fields ← extractDecls type style validation (file.typesNamed type)
  if fields.isEmpty then .fail (.noFields type)
  else do
    .note (.extracted fields.length file.package type style)
    return fields

end ColumnConstants
