import ColumnConstants.Path.Absolute
import ColumnConstants.Path.Target
import ColumnConstants.Run.Failure
import ColumnConstants.Run.Host
import ColumnConstants.Run.Options

namespace ColumnConstants

section

variable {m : Type → Type} [Monad m] [Host m]

def report {ε α : Type} (x : Logged ε α) : ExceptT ε m α := do
  x.records.forM Host.record
  ExceptT.mk (pure x.result)

-- The directory that `path` starts from. If the path is not relative, any directory will do.
def directoryOf (path : String) : ExceptT Failure m String :=
  if Path.isRelative path then
    ExceptT.mk ((·.mapError (.resolving path)) <$> Host.currentDirectory)
  else pure "/"

def absolutePath (path : String) : ExceptT Failure m String := do
  let some path := Path.absolute? (← directoryOf path) path | throw .emptyPath
  return path

def generateFrom (path : String) (options : Options) : ExceptT Failure m ConstantFile := do
  let source ← ExceptT.mk ((·.mapError (.ofRead path)) <$> Host.read path)
  report ((ConstantFile.ofSource source options.type options.style options.validation).mapError
    (.generating path))

def writeTarget (path : String) (file : ConstantFile) : ExceptT Failure m String := do
  let target := Path.target path
  ExceptT.mk ((·.mapError (.writing target)) <$> Host.write target file.render)
  Host.record (.wrote file.fields.length file.type target)
  return target

def output (path : String) (file : ConstantFile) (dryRun : Bool) :
    ExceptT Failure m (Option String) :=
  if dryRun then do
    Host.print file.render
    return none
  else some <$> writeTarget path file

def generate (options : Options) : ExceptT Failure m (Option String) := do
  let path ← absolutePath options.src
  let file ← generateFrom path options
  output path file options.dryRun

end

end ColumnConstants
