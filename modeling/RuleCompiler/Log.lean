/-!
Log records: what is told about a compilation besides its results.
-/

namespace RuleCompiler

inductive LogLevel where
  | debug
  | info
  | warn
  | error
  deriving DecidableEq, Repr

structure LogRecord where
  level : LogLevel
  message : String
  deriving DecidableEq, Repr

def LogLevel.name : LogLevel → String
  | .debug => "debug"
  | .info => "info"
  | .warn => "warn"
  | .error => "error"

namespace ProviderLog

def channel : String := "rulesets::provider"

/-- A provider's record names its destination first. -/
def record (destination : String) (level : LogLevel) (message : String) : LogRecord :=
  { level, message := "[" ++ destination ++ "] " ++ message }

end ProviderLog

end RuleCompiler
