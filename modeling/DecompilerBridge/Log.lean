/-!
# Log records

Log records: what the bridge and the shell note about their own work, apart from any output.
-/

set_option autoImplicit false

namespace DecompilerBridge

/-- How much a record matters. -/
inductive Level where
  | trace | debug | info | warn | error
deriving DecidableEq, Repr

/-- The spelling of a level in front of a record. -/
def Level.name : Level → String
  | trace => "TRACE"
  | debug => "DEBUG"
  | info => "INFO"
  | warn => "WARN"
  | error => "ERROR"

/-- One noted event. -/
structure LogRecord where
  level : Level
  message : String
deriving DecidableEq, Repr

namespace LogRecord

def trace (message : String) : LogRecord := ⟨.trace, message⟩

def debug (message : String) : LogRecord := ⟨.debug, message⟩

def warn (message : String) : LogRecord := ⟨.warn, message⟩

def error (message : String) : LogRecord := ⟨.error, message⟩

/-- The record as one line: level, space, message. -/
def line (r : LogRecord) : String := r.level.name ++ " " ++ r.message

end LogRecord

end DecompilerBridge
