import ColumnConstants.Constants.File
import ColumnConstants.Text.Blank

namespace ColumnConstants

namespace Template

inductive FieldPart where
  | text (text : String)
  | value (value : ConstantFile → Field → String)

inductive Part where
  | text (text : String)
  | value (value : ConstantFile → String)
  | forFields (body : List FieldPart)

-- The marks of a loop take the white space in front of them away, so that they can have lines of
-- their own.
def trimEnd (text : String) : String :=
  String.ofList (text.toList.reverse.dropWhile isBlank).reverse

-- What a loop writes for one field. The mark at the end of the loop follows the last part.
def fillBody (file : ConstantFile) (field : Field) : List FieldPart → String
  | [] => ""
  | [.text text] => trimEnd text
  | .text text :: parts => text ++ fillBody file field parts
  | .value value :: parts => value file field ++ fillBody file field parts

def fill (file : ConstantFile) : List Part → String
  | [] => ""
  | .text text :: .forFields body :: parts => trimEnd text ++ fill file (.forFields body :: parts)
  | .text text :: parts => text ++ fill file parts
  | .value value :: parts => value file ++ fill file parts
  | .forFields body :: parts =>
    String.join (file.fields.map fun field => fillBody file field body) ++ fill file parts

end Template

namespace ConstantFile

open Template

def constantBody : List FieldPart :=
  [.text "\n\t", .value constantName, .value padding, .text " = ",
    .value fun _ field => columnLiteral field.column, .text "\n"]

def entryBody : List FieldPart :=
  [.text "\n\t", .value constantName, .text ",\n"]

def template : List Part :=
  [.text "// Code generated by fielder. DO NOT EDIT.\n\npackage ", .value package,
    .text "\n\nconst (\n", .forFields constantBody,
    .text "\n)\n\n// ", .value type, .text "Columns lists the column names of ", .value type,
    .text " in declaration order.\nvar ", .value type, .text "Columns = []string\x7b\n",
    .forFields entryBody, .text "\n\x7d\n"]

end ConstantFile

end ColumnConstants
