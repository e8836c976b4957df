import ColumnConstants.Constants.File
import ColumnConstants.Source.Scan

namespace ColumnConstants

def SourceFile.scan (source : String) : Logged SourceError SourceFile := do
  let file ← .ofExcept (ofText source.toList)
  .note (.scanned file.package file.types.length)
  return file

inductive GenerateError where
  | source (e : SourceError)
  | extraction (e : ExtractError)
  deriving DecidableEq, Repr

def GenerateError.message : GenerateError → String
  | source e => e.message
  | extraction e => e.message

def ConstantFile.ofSource (source type : String) (style : Style) (validation : Validation) :
    Logged GenerateError ConstantFile := do
  let file ← (SourceFile.scan source).mapError .source
  let fields ← (extractStruct file type style validation).mapError .extraction
  return ⟨file.package, type, fields⟩

theorem result_ofSource (source type : String) (style : Style) (validation : Validation) :
    (ConstantFile.ofSource source type style validation).result =
      ((SourceFile.ofText source.toList).mapError GenerateError.source >>= fun file =>
        ((extractStruct file type style validation).result.mapError .extraction).map fun fields =>
          ⟨file.package, type, fields⟩) := by
  unfold ConstantFile.ofSource SourceFile.scan
  rw [Logged.result_bind]
  cases SourceFile.ofText source.toList
  case error => rfl
  case ok file => exact Logged.result_bind ..

end ColumnConstants
