import ColumnConstants.Column.Extract
import ColumnConstants.Source.StringLiteral

namespace ColumnConstants

structure ConstantFile where
  package : String
  type : String
  fields : List Field
  deriving DecidableEq, Repr

def columnLiteral (column : String) : String :=
  String.ofList ('"' :: StringLiteral.escape column.toList ++ ['"'])

namespace ConstantFile

def constantName (file : ConstantFile) (field : Field) : String :=
  file.type ++ "_" ++ field.name

def constantNames (file : ConstantFile) : List String :=
  file.fields.map file.constantName

def width (file : ConstantFile) : Nat :=
  file.constantNames.foldl (fun w name => max w name.length) 0

def padding (file : ConstantFile) (field : Field) : String :=
  "".pushn ' ' (file.width - (file.constantName field).length)

def listName (file : ConstantFile) : String :=
  file.type ++ "Columns"

def constantLine (file : ConstantFile) (field : Field) : String :=
  "\t" ++ file.constantName field ++ file.padding field ++ " = " ++ columnLiteral field.column

def entryLine (file : ConstantFile) (field : Field) : String :=
  "\t" ++ file.constantName field ++ ","

def lines (file : ConstantFile) : List String :=
  ["// Code generated by fielder. DO NOT EDIT.",
    "",
    "package " ++ file.package,
    "",
    "const ("]
  ++ file.fields.map file.constantLine
  ++ [")",
    "",
    "// " ++ file.listName ++ " lists the column names of " ++ file.type
      ++ " in declaration order.",
    "var " ++ file.listName ++ " = []string\x7b"]
  ++ file.fields.map file.entryLine
  ++ ["\x7d"]

def render (file : ConstantFile) : String :=
  String.join (file.lines.map (· ++ "\n"))

end ConstantFile

end ColumnConstants
