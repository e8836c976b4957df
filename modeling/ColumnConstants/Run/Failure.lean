import ColumnConstants.Constants.Generate
import ColumnConstants.Disk.Fault

namespace ColumnConstants

inductive Failure where
  | emptyPath
  | resolving (path : String) (fault : Fault)
  | opening (path : String) (fault : Fault)
  | reading (path : String) (fault : Fault)
  | generating (path : String) (cause : GenerateError)
  | writing (path : String) (fault : Fault)
  deriving DecidableEq, Repr

namespace Failure

def ofRead (path : String) : ReadFault → Failure
  | .opening fault => opening path fault
  | .reading fault => reading path fault

def message : Failure → String
  | emptyPath => "Failed to resolve absolute path of : cannot make an empty path absolute"
  | resolving path fault => "Failed to resolve absolute path of " ++ path ++ ": " ++ fault.message
  | opening path fault => "Failed to open " ++ path ++ ": " ++ fault.message
  | reading path fault => "Failed to read " ++ path ++ ": " ++ fault.message
  | generating path cause => "Failed to generate fields from " ++ path ++ ": " ++ cause.message
  | writing path fault => "Failed to write " ++ path ++ ": " ++ fault.message

end Failure

end ColumnConstants
