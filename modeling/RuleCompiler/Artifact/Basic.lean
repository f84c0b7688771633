import RuleCompiler.Capability
import RuleCompiler.Diagnostic
import RuleCompiler.Path.Basic

/-!
Artifacts: the texts that a provider makes of a document, each with the path that it is meant for,
and what is reported once one is written.
-/

namespace RuleCompiler

/-- Where a provider is asked to put its output, and the capabilities that this needs. -/
structure Target where
  providerId : String
  outputPath : Path
  capabilities : List String
  deriving DecidableEq, Repr

structure Artifact where
  target : Target
  contents : String
  diagnostics : List Diagnostic := []
  deriving Repr

inductive WriteStatus where
  | written
  /-- The file held the same text already. -/
  | unchanged
  deriving DecidableEq, Repr

structure WrittenArtifact where
  path : Path
  digest : String
  /-- The length of the text in UTF-8. -/
  bytes : Nat
  status : WriteStatus
  deriving DecidableEq, Repr

namespace Target

def toValue (target : Target) : Value :=
  .ofFields
    [("providerId", .string target.providerId),
     ("outputPath", .string target.outputPath.text),
     ("capabilities", .ofStrings target.capabilities)]

end Target

namespace Artifact

def toValue (artifact : Artifact) : Value :=
  .ofFields
    [("target", artifact.target.toValue),
     ("contents", .string artifact.contents),
     ("diagnostics", .array (artifact.diagnostics.map Diagnostic.toValue))]

end Artifact

namespace WriteStatus

def name : WriteStatus → String
  | .written => "written"
  | .unchanged => "unchanged"

end WriteStatus

namespace WrittenArtifact

def toValue (artifact : WrittenArtifact) : Value :=
  .ofFields
    [("path", .string artifact.path.text),
     ("digest", .string artifact.digest),
     ("bytes", .ofNat artifact.bytes),
     ("status", .string artifact.status.name)]

end WrittenArtifact

end RuleCompiler
