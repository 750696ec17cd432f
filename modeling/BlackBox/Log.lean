/-!
# Records

What is told about a run besides its results.
-/

namespace BlackBox.Log

/-- How important a record is. -/
inductive Level where
  /-- Something is probably not as intended. -/
  | warn
  /-- Something of interest. -/
  | info
  /-- Something of interest when an error is looked for. -/
  | debug
  deriving Repr, DecidableEq

/-- The name of a level. -/
def Level.name : Level → String
  | warn => "WARN"
  | info => "INFO"
  | debug => "DEBUG"

/-- A record. -/
structure Record where
  /-- How important it is. -/
  level : Level
  /-- What it says. -/
  message : String
  deriving Repr, DecidableEq

/-- A record as a line. -/
def Record.line (r : Record) : String := r.level.name ++ " " ++ r.message

end BlackBox.Log
