/-! The log. -/
namespace Transparency

/-- How important a line of the log is. -/
inductive LogLevel
  | error
  | warn
  | debug
  | trace
  deriving DecidableEq, Repr

/-- The name of the level. -/
def LogLevel.name : LogLevel → String
  | error => "ERROR"
  | warn => "WARN"
  | debug => "DEBUG"
  | trace => "TRACE"

/-- A line of the log. -/
structure LogLine where
  level : LogLevel
  text : String
  deriving DecidableEq, Repr

end Transparency
