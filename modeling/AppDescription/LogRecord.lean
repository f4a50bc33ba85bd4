import AppDescription.Text.Basic

namespace AppDescription

inductive LogLevel where
  | debug | info | warning
  deriving Repr, DecidableEq

namespace LogLevel

def name : LogLevel → Text
  | debug => "DEBUG"
  | info => "INFO"
  | warning => "WARNING"

end LogLevel

/-- A message about work in progress, with the part of the program it comes from. -/
structure LogRecord where
  level : LogLevel
  origin : Text
  message : Text
  deriving Repr, DecidableEq

namespace LogRecord

def text (record : LogRecord) : Text :=
  record.level.name ++ " " ++ record.origin ++ ": " ++ record.message

end LogRecord

end AppDescription
