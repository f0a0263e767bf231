/-!
Log lines.

A line has a level, the name of the part that wrote it and a message. A
verbosity lets through the lines of some level and all graver ones.
-/

namespace ExprMachine.Log

/-- The levels, the gravest first. -/
inductive Level where
  | critical
  | error
  | warning
  | notice
  | info
  | debug
  deriving DecidableEq, Repr

namespace Level

/-- The word for a level. -/
def name : Level → String
  | critical => "Critical"
  | error => "Error"
  | warning => "Warning"
  | notice => "Notice"
  | info => "Info"
  | debug => "Debug"

/-- The least verbosity that lets a level through. -/
def verbosity : Level → Int
  | critical => -3
  | error => -2
  | warning => -1
  | notice => 0
  | info => 1
  | debug => 2

end Level

/-- A log line. -/
structure Entry where
  /-- How grave it is. -/
  level : Level
  /-- The part that wrote it. -/
  logger : String
  /-- What it says. -/
  message : String
  deriving DecidableEq, Repr

/-- The lines that a verbosity lets through. -/
def visible (verbosity : Int) (entries : List Entry) : List Entry :=
  entries.filter fun e => e.level.verbosity ≤ verbosity

end ExprMachine.Log
