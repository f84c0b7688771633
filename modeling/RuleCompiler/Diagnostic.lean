import RuleCompiler.Record

/-!
Findings. Every check reports a code, a severity and a message, and optionally what was expected,
what was found and how to mend it.
-/

namespace RuleCompiler

inductive Severity where
  | error
  | warning
  | info
  deriving DecidableEq, Repr

structure Diagnostic where
  code : String
  severity : Severity
  message : String
  expected : Option String := none
  actual : Option String := none
  remediation : List String := []
  deriving DecidableEq, Repr

namespace Severity

def name : Severity → String
  | .error => "error"
  | .warning => "warning"
  | .info => "info"

def ofName? : String → Option Severity
  | "error" => some .error
  | "warning" => some .warning
  | "info" => some .info
  | _ => none

theorem ofName?_name (severity : Severity) : ofName? severity.name = some severity := by
  cases severity <;> rfl

end Severity

namespace Diagnostic

def isError (finding : Diagnostic) : Bool :=
  finding.severity = .error

def summary (finding : Diagnostic) : String :=
  finding.code ++ ": " ++ finding.message

def anyError (findings : List Diagnostic) : Bool :=
  findings.any isError

def summarize (findings : List Diagnostic) : String :=
  String.intercalate "; " (findings.map summary)

/-- Absent options and an empty list of steps are left out. -/
def toValue (finding : Diagnostic) : Value :=
  .ofPresent
    [("code", some (.string finding.code)),
     ("severity", some (.string finding.severity.name)),
     ("message", some (.string finding.message)),
     ("expected", finding.expected.map .string),
     ("actual", finding.actual.map .string),
     ("remediation",
       if finding.remediation.isEmpty then none else some (.ofStrings finding.remediation))]

def fields : Record.Field Diagnostic := do
  let code ← Record.required "code" Value.asString?
  let severity ← Record.required "severity" (Record.choice Severity.ofName?)
  let message ← Record.required "message" Value.asString?
  let expected ← Record.optional "expected" Value.asString?
  let actual ← Record.optional "actual" Value.asString?
  let remediation ← Record.defaulted "remediation" [] (Record.listOf Value.asString?)
  return { code, severity, message, expected, actual, remediation }

def ofValue? : Value → Option Diagnostic :=
  Record.read fields

end Diagnostic

end RuleCompiler
