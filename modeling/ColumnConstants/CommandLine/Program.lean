import ColumnConstants.CommandLine.Parse
import ColumnConstants.Run.Generate

namespace ColumnConstants

namespace CommandLine

def helpLines : List String :=
  ["Generates Go column-name constants from struct tags.",
    "",
    "Usage: fielder [OPTIONS] --type <NAME> --src <FILE>",
    "",
    "Options:",
    "      --type <NAME>  Struct type to generate column constants for",
    "      --tag <TAG>    Tag convention (\"gorm\"); anything else reads the first tag pair "
      ++ "[default: \"\"]",
    "      --src <FILE>   Go source file declaring the type",
    "      --dryrun       Print the generated code to stdout instead of writing a file",
    "      --lenient      Accept column names containing characters other than letters, digits "
      ++ "and '_'",
    "  -h, --help         Print help",
    "  -V, --version      Print version"]

def helpText : String :=
  String.join (helpLines.map (· ++ "\n"))

def versionText : String :=
  "fielder-cli 0.1.0\n"

def UsageError.message : UsageError → String
  | missingRequired => "--type and --src are required"
  | invalidValue => "an option has no value"
  | unknownArgument => "unexpected argument"
  | repeated => "an argument is given more than once"
  | unexpectedValue => "a flag takes no value"

end CommandLine

inductive Exit where
  | success
  | failure (f : Failure)
  | misuse (e : CommandLine.UsageError)
  deriving DecidableEq, Repr

namespace Exit

def code : Exit → UInt8
  | success => 0
  | failure _ => 1
  | misuse _ => 2

def complaint : Exit → String
  | success => ""
  | failure f => "Error: " ++ f.message ++ "\n"
  | misuse e => "error: " ++ e.message ++ "\n"

end Exit

def program {m : Type → Type} [Monad m] [Host m] (arguments : List String) : m Exit := do
  match CommandLine.parse arguments with
  | .error e => return .misuse e
  | .ok .showHelp =>
    Host.print CommandLine.helpText
    return .success
  | .ok .showVersion =>
    Host.print CommandLine.versionText
    return .success
  | .ok (.run arguments) =>
    Host.record arguments.record
    match ← (generate arguments.options).run with
    | .error f => return .failure f
    | .ok none => return .success
    | .ok (some path) =>
      Host.print ("Generated " ++ path ++ "\n")
      return .success

end ColumnConstants
