import ColumnConstants.CommandLine.Program
import ColumnConstants.Log.Verbosity

namespace ColumnConstants

def systemFault : IO.Error → Fault
  | .noFileOrDirectory .. => .notFound
  | .permissionDenied _ code details | .inappropriateType _ code details
  | .resourceExhausted _ code details | .invalidArgument _ code details
  | .alreadyExists _ code details | .interrupted _ code details
  | .otherError code details | .resourceBusy code details | .hardwareFault code details
  | .unsupportedOperation code details =>
    .other (details ++ " (os error " ++ toString code ++ ")")
  | e => .other (toString e)

instance : Host IO where
  currentDirectory := do
    match ← IO.currentDir.toBaseIO with
    | .error e => return .error (systemFault e)
    | .ok directory => return .ok directory.toString
  read path := do
    if '\x00' ∈ path.toList then return .error (.opening .nulInPath)
    match ← (IO.FS.Handle.mk path .read).toBaseIO with
    | .error e => return .error (.opening (systemFault e))
    | .ok file =>
      match ← file.readBinToEnd.toBaseIO with
      | .error e => return .error (.reading (systemFault e))
      | .ok content =>
        match String.fromUTF8? content with
        | some text => return .ok text
        | none => return .error (.reading .notText)
  write path text := do
    match ← (IO.FS.writeFile path text).toBaseIO with
    | .error e => return .error (systemFault e)
    | .ok () => return .ok ()
  print text := do
    let out ← IO.getStdout
    out.putStr text
    out.flush
  record r := do
    let verbosity := Verbosity.ofSetting (← IO.getEnv "RUST_LOG")
    if verbosity.shows r.level then IO.eprintln r.line

end ColumnConstants

def main (arguments : List String) : IO UInt32 := do
  let exit : ColumnConstants.Exit ← ColumnConstants.program arguments
  IO.eprint exit.complaint
  return exit.code.toUInt32
