import ColumnConstants.Run.Options
import ColumnConstants.Text.Split

namespace ColumnConstants.CommandLine

inductive UsageError where
  | missingRequired
  | invalidValue
  | unknownArgument
  | repeated
  | unexpectedValue
  deriving DecidableEq, Repr

structure Arguments where
  type    : String
  tag     : String
  src     : String
  dryRun  : Bool
  lenient : Bool
  deriving DecidableEq, Repr

namespace Arguments

def style (a : Arguments) : Style :=
  .ofSelector a.tag

def validation (a : Arguments) : Validation :=
  if a.lenient then .lenient else .strict

def options (a : Arguments) : Options where
  src        := a.src
  type       := a.type
  style      := a.style
  validation := a.validation
  dryRun     := a.dryRun

def record (a : Arguments) : Record :=
  .started a.type a.tag a.src a.dryRun a.lenient

end Arguments

inductive Request where
  | run (arguments : Arguments)
  | showHelp
  | showVersion
  deriving DecidableEq, Repr

inductive Setting where
  | type
  | src
  | tag
  deriving DecidableEq, Repr

inductive Flag where
  | dryRun
  | lenient
  | help
  | version
  deriving DecidableEq, Repr

inductive Switch where
  | setting (s : Setting)
  | flag (f : Flag)
  deriving DecidableEq, Repr

def Switch.ofName? (name : String) : Option Switch :=
  [("type", setting .type), ("src", setting .src), ("tag", setting .tag),
    ("dryrun", flag .dryRun), ("lenient", flag .lenient), ("help", flag .help),
    ("version", flag .version)].lookup name

def Flag.ofLetter? (letter : Char) : Option Flag :=
  if letter = 'h' then some help else if letter = 'V' then some version else none

-- An option is settled only when the next one starts or the arguments end, so an unknown argument is
-- reported before an option that misses its value.
inductive Pending where
  | none
  | setting (s : Setting) (value : Option String)
  deriving DecidableEq, Repr

structure Draft where
  values : List (Setting × String)
  flags : List Flag
  pending : Pending
  deriving DecidableEq, Repr

namespace Draft

def empty : Draft :=
  ⟨[], [], .none⟩

def store (draft : Draft) (s : Setting) (value : String) : Except UsageError Draft :=
  if (draft.values.lookup s).isSome then .error .repeated
  else if s = .src ∧ value.isEmpty then .error .invalidValue
  else .ok { draft with values := (s, value) :: draft.values }

def settle (draft : Draft) : Except UsageError Draft :=
  match draft.pending with
  | .none => .ok draft
  | .setting _ none => .error .invalidValue
  | .setting s (some value) => store { draft with pending := .none } s value

def finish (draft : Draft) : Except UsageError Request := do
  let draft ← draft.settle
  match draft.values.lookup .type, draft.values.lookup .src with
  | some type, some src =>
    return .run {
      type := type
      tag := (draft.values.lookup .tag).getD ""
      src := src
      dryRun := .dryRun ∈ draft.flags
      lenient := .lenient ∈ draft.flags }
  | _, _ => .error .missingRequired

end Draft

abbrev Taken := Request ⊕ Draft

def takeFlag (draft : Draft) (f : Flag) : Except UsageError Taken := do
  let draft ← draft.settle
  match f with
  | .help => return .inl .showHelp
  | .version => return .inl .showVersion
  | f =>
    if f ∈ draft.flags then .error .repeated
    else return .inr { draft with flags := f :: draft.flags }

def takeSetting (draft : Draft) (s : Setting) (value : Option String) :
    Except UsageError Taken := do
  let draft ← draft.settle
  match value with
  | some value => .inr <$> draft.store s value
  | none => return .inr { draft with pending := .setting s none }

def takeLong (draft : Draft) (text : List Char) : Except UsageError Taken :=
  let name := String.ofList (text.takeWhile (· ≠ '='))
  let value := (text.dropWhile (· ≠ '=')).tail?.map String.ofList
  match Switch.ofName? name with
  | none => .error .unknownArgument
  | some (.flag f) => if value.isSome then .error .unexpectedValue else takeFlag draft f
  | some (.setting s) => takeSetting draft s value

def takeLetter (draft : Draft) (letter : Char) : Except UsageError Taken :=
  match Flag.ofLetter? letter with
  | some f => takeFlag draft f
  | none => .error .unknownArgument

def takeValue (draft : Draft) (value : String) : Except UsageError Taken :=
  match draft.pending with
  | .setting s none => .ok (.inr { draft with pending := .setting s (some value) })
  | _ => .error .unknownArgument

def take (draft : Draft) (argument : String) : Except UsageError Taken :=
  match argument.toList with
  | '-' :: '-' :: text => takeLong draft text
  | '-' :: letter :: _ => takeLetter draft letter
  | _ => takeValue draft argument

-- As there is nothing but options to give, nothing may follow two dashes.
def read (draft : Draft) : List String → Except UsageError Request
  | [] => draft.finish
  | argument :: arguments =>
    if argument = "--" then
      if arguments.isEmpty then draft.finish else .error .unknownArgument
    else
      match take draft argument with
      | .error e => .error e
      | .ok (.inl request) => .ok request
      | .ok (.inr draft) => read draft arguments

def parse (arguments : List String) : Except UsageError Request :=
  read .empty arguments

end ColumnConstants.CommandLine
