/-
Log records.
-/
import SsaEdit.Text

namespace SsaEdit

inductive LogLevel
  | debug
  | warning
  deriving DecidableEq

def LogLevel.name : LogLevel → String
  | .debug => "DEBUG"
  | .warning => "WARNING"

/-- The part of the program that writes a record. -/
inductive Logger
  | canvas
  | builder
  | validation
  | lowering
  | commandLine
  deriving DecidableEq

def Logger.name : Logger → String
  | .canvas => "ssakit.canvas"
  | .builder => "ssakit.builder"
  | .validation => "ssakit.validate"
  | .lowering => "ssakit.lowering"
  | .commandLine => "ssakit.cli"

structure LogRecord where
  level : LogLevel
  logger : Logger
  message : Text

/-- A record on one line. -/
def LogRecord.line (r : LogRecord) : Text :=
  Text.ofString (r.level.name ++ ":" ++ r.logger.name ++ ":") ++ r.message

end SsaEdit
