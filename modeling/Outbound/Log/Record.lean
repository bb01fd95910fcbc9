namespace Outbound

/-- How much a log record matters, from the gravest to the least. -/
inductive Level where
  | error
  | warn
  | info
  | debug
  | trace
  deriving DecidableEq

namespace Level

/-- Grows as records matter less. -/
def verbosity : Level → Nat
  | error => 1
  | warn => 2
  | info => 3
  | debug => 4
  | trace => 5

def name : Level → String
  | error => "ERROR"
  | warn => "WARN"
  | info => "INFO"
  | debug => "DEBUG"
  | trace => "TRACE"

end Level

/-- A record of the log: the part of the program that wrote it, a message, and named texts. -/
structure LogRecord where
  level : Level
  origin : String
  message : String
  fields : List (String × String)
  deriving DecidableEq

/-- The line that a record takes in the log. -/
def LogRecord.line (r : LogRecord) : String :=
  " ".intercalate
    (r.level.name :: (r.origin ++ ":") :: r.message :: r.fields.map fun f => f.1 ++ "=" ++ f.2)

/-- What the reader of the log asks for. `hints` tells in advance whether a level is of interest
in a part of the program, `keeps` decides on each record. -/
structure LogFilter where
  hints : Level → String → Bool
  keeps : LogRecord → Bool

namespace LogFilter

/-- Nobody reads the log. -/
def nothing : LogFilter :=
  ⟨fun _ _ => false, fun _ => false⟩

/-- Everything that matters at least as much as the given level. -/
def upTo (l : Level) : LogFilter :=
  ⟨fun level _ => level.verbosity ≤ l.verbosity, fun r => r.level.verbosity ≤ l.verbosity⟩

end LogFilter

end Outbound
