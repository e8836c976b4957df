import ColumnConstants.Column.Extract

namespace ColumnConstants

structure Options where
  src : String
  type : String
  style : Style
  validation : Validation
  dryRun : Bool
  deriving DecidableEq, Repr

end ColumnConstants
