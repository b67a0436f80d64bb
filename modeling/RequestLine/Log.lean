import RequestLine.Header
import RequestLine.Text.Upper

set_option autoImplicit false

namespace RequestLine.Log

inductive Severity where
  | debug
  | info
  | warning
  | error
  deriving DecidableEq, Repr

def Severity.name : Severity → String
  | .debug => "DEBUG"
  | .info => "INFO"
  | .warning => "WARNING"
  | .error => "ERROR"

structure Entry where
  severity : Severity
  source : String
  message : Text
  deriving DecidableEq, Repr

abbrev Level := Int

namespace Level

def notSet : Level := 0

def info : Level := 20

def warning : Level := 30

def names : List (String × Level) := [
  ("CRITICAL", 50), ("FATAL", 50), ("ERROR", 40), ("WARNING", 30), ("WARN", 30), ("INFO", 20),
  ("DEBUG", 10), ("NOTSET", 0)]

inductive Fault where
  | unknownName (name : Text)
  | unsuitable (value : Json)

def Fault.message : Fault → Text
  | .unknownName name => "Unknown level: " ++ name.quoted
  | .unsuitable value => "Level not an integer or a valid string: " ++ value.fold Header.display

def ofValue : Json → Except Fault Level
  | .int n => .ok n
  | .bool b => .ok (if b then 1 else 0)
  | .str t =>
    match names.find? fun n => Text.ofString n.1 == t.upper with
    | some n => .ok n.2
    | none => .error (.unknownName t.upper)
  | value => .error (.unsuitable value)

def text (l : Level) : Text :=
  match names.find? (·.2 == l) with
  | some n => n.1
  | none => "Level " ++ Text.ofInt l

end Level

end RequestLine.Log
