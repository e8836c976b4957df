import ColumnConstants.Log.Record

namespace ColumnConstants

inductive Verbosity where
  | off
  | error
  | warn
  | info
  | debug
  | trace
  deriving DecidableEq, Repr

namespace Verbosity

def all : List Verbosity :=
  [off, error, warn, info, debug, trace]

def name : Verbosity → String
  | off => "off"
  | error => "error"
  | warn => "warn"
  | info => "info"
  | debug => "debug"
  | trace => "trace"

def ofName? (name : String) : Option Verbosity :=
  all.find? fun v => v.name.toList = name.toList.map Char.toLower

-- A setting that names no verbosity is about the records of other programs.
def ofSetting : Option String → Verbosity
  | none => warn
  | some setting => (ofName? setting).getD off

def shows : Verbosity → Level → Bool
  | debug, _ | trace, _ => true
  | info, level => level = .info
  | off, _ | error, _ | warn, _ => false

@[simp]
theorem ofName?_name (v : Verbosity) : ofName? v.name = some v := by
  cases v <;> rfl

theorem shows_info_of_shows_debug {v : Verbosity} (h : v.shows .debug) : v.shows .info := by
  cases v
  case debug | trace => rfl
  all_goals cases h

end Verbosity

end ColumnConstants
