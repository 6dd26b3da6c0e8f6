/-!
# Log records

What an operation has to say besides its answer.
-/

namespace Literate

/-- How serious a log record is. -/
inductive Level
  | info
  | warning
  | error
  deriving DecidableEq, Repr

/-- The level as written. -/
def Level.label : Level → String
  | info => "INFO"
  | warning => "WARNING"
  | error => "ERROR"

/-- One log record. -/
structure LogRecord where
  level : Level
  message : String
  deriving DecidableEq, Repr

end Literate
