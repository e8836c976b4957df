import ColumnConstants.Tag.Style
import ColumnConstants.Text.Quoted

namespace ColumnConstants

inductive Level where
  | debug
  | info
  deriving DecidableEq, Repr

def Level.name : Level → String
  | debug => "DEBUG"
  | info => "INFO"

inductive Record where
  | started (type tag src : String) (dryRun lenient : Bool)
  | scanned (package : String) (count : Nat)
  | skippedEmbedded (tag : Option String)
  | skippedUntagged (field : String)
  | skippedColumnless (style : Style) (field tag : String)
  | extracted (count : Nat) (package type : String) (style : Style)
  | wrote (count : Nat) (type path : String)
  deriving DecidableEq, Repr

namespace Record

def level : Record → Level
  | extracted .. | wrote .. => .info
  | _ => .debug

def shownTag : Option String → String
  | some tag => "Some(" ++ quoted tag ++ ")"
  | none => "None"

def message : Record → String
  | started type tag src dryRun lenient =>
    "Cli \x7b type_name: " ++ quoted type ++ ", tag: " ++ quoted tag ++ ", src: " ++ quotedPath src
      ++ ", dryrun: " ++ toString dryRun ++ ", lenient: " ++ toString lenient ++ " \x7d"
  | scanned package count =>
    "Scanned package " ++ package ++ " with " ++ toString count ++ " type declarations"
  | skippedEmbedded tag => "Skipping embedded field with tag " ++ shownTag tag
  | skippedUntagged field => "Skipping untagged field " ++ field
  | skippedColumnless style field tag =>
    "No " ++ style.name ++ " column in tag of field " ++ field ++ ": " ++ tag
  | extracted count package type style =>
    "Extracted " ++ toString count ++ " fields from " ++ package ++ "." ++ type ++ " using "
      ++ style.name ++ " tags"
  | wrote count type path =>
    "Wrote " ++ toString count ++ " columns of " ++ type ++ " to " ++ path

def line (r : Record) : String :=
  r.level.name ++ " " ++ r.message

end Record

end ColumnConstants
