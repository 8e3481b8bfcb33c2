import Annotator.Journal

/-! A log level bounds how detailed the notices are that reach the log. -/

namespace Annotator

/-- The least severe notices that are admitted. -/
inductive LogLevel
  /-- None at all. -/
  | off
  /-- Only errors. -/
  | error
  /-- Warnings too. -/
  | warn
  /-- Informative notices too. -/
  | info
  /-- Notices that help to find mistakes too. -/
  | debug
  /-- All notices. -/
  | trace
  deriving DecidableEq, Repr, Inhabited

namespace LogLevel

/-- All levels, from the quietest to the most detailed. -/
def all : List LogLevel :=
  -- The order is that of rising detail.
  [.off, .error, .warn, .info, .debug, .trace]

/-- The name of a level in settings and on the command line. -/
def name : LogLevel → String
  -- Names are lower case.
  | .off => "off"
  | .error => "error"
  | .warn => "warn"
  | .info => "info"
  | .debug => "debug"
  | .trace => "trace"

/-- The label of a level in reports. -/
def label : LogLevel → String
  -- Labels are upper case.
  | .off => "OFF"
  | .error => "ERROR"
  | .warn => "WARN"
  | .info => "INFO"
  | .debug => "DEBUG"
  | .trace => "TRACE"

/-- The level of a name, compared exactly. -/
def ofName? (name : String) : Option LogLevel :=
  -- Names are distinct.
  all.find? (·.name == name)

/-- The level of a label or name in any mixture of cases. -/
def ofAnyCase? (text : String) : Option LogLevel :=
  -- Only ASCII letters have two cases here.
  all.find? (·.name == String.ofList (text.toList.map Char.toLower))

/-- Levels are ranked by rising detail. -/
def rank : LogLevel → Nat
  -- A level admits severities up to its rank.
  | .off => 0
  | .error => 1
  | .warn => 2
  | .info => 3
  | .debug => 4
  | .trace => 5

/-- A level admits notices that are severe enough. -/
def admits (level : LogLevel) (severity : Severity) : Bool :=
  -- The most severe notices have the lowest rank.
  severity.rank ≤ level.rank

end LogLevel

end Annotator
