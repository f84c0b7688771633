import RuleCompiler.Provider.Basic
import RuleCompiler.Templating

/-!
Reports of compilations: for each destination what was written or why nothing was, and the outcome
of the whole. A compilation fails as a whole only when it has destinations and every one failed.
-/

namespace RuleCompiler

inductive DestinationError where
  | unknownProvider (id : String)
  | preparation (destination : String) (cause : ProviderError)
  | rendering (source destination : String) (cause : TemplateError)
  | provider (cause : ProviderError)
  deriving Repr

structure Delivery where
  written : List WrittenArtifact
  templating : Templating.Decision
  deriving Repr

structure DestinationResult where
  destinationId : String
  delivery : Except DestinationError Delivery

inductive Outcome where
  | empty
  | success
  | partialSuccess (succeeded failed : Nat)
  | failed (failed : Nat)
  deriving DecidableEq, Repr

/-- What tells one compilation from another. -/
structure RunStamp where
  id : String
  /-- The date and time in UTC, without the zone. -/
  startedAt : String
  deriving DecidableEq, Repr

structure Report where
  run : RunStamp
  source : String
  results : List DestinationResult

structure TotalFailure where
  source : String
  results : List DestinationResult

def DestinationError.message (wording : Wording) : DestinationError → String
  | .unknownProvider id => "No provider registered for destination '" ++ id ++ "'"
  | .preparation destination cause =>
      "Preparation hook failed for '" ++ destination ++ "': " ++ cause.message wording
  | .rendering source destination cause =>
      "Failed to render " ++ source ++ " for '" ++ destination ++ "': " ++ cause.message wording
  | .provider cause => cause.message wording

namespace DestinationResult

def success (result : DestinationResult) : Bool :=
  result.delivery.isOk

def error? (result : DestinationResult) : Option DestinationError :=
  match result.delivery with
  | .ok _ => none
  | .error cause => some cause

def templating? (result : DestinationResult) : Option Templating.Decision :=
  result.delivery.toOption.map Delivery.templating

/-- What was written; nothing counts as written for a destination that failed. -/
def written (result : DestinationResult) : List WrittenArtifact :=
  match result.delivery with
  | .ok delivery => delivery.written
  | .error _ => []

def toValue (wording : Wording) (result : DestinationResult) : Value :=
  .ofPresent
    [("destinationId", some (.string result.destinationId)),
     ("success", some (.bool result.success)),
     ("error", result.error?.map fun cause => .string (cause.message wording)),
     ("templating", result.templating?.map Templating.Decision.toValue),
     ("written", some (.array (result.written.map WrittenArtifact.toValue)))]

end DestinationResult

namespace Outcome

def ofResults (results : List DestinationResult) : Outcome :=
  let failures := results.countP fun result => !result.success
  if results.isEmpty then .empty
  else if failures = 0 then .success
  else if failures = results.length then .failed failures
  else .partialSuccess (results.length - failures) failures

def toValue : Outcome → Value
  | .empty => .ofFields [("status", .string "empty")]
  | .success => .ofFields [("status", .string "success")]
  | .partialSuccess succeeded failures =>
      .ofFields
        [("status", .string "partial"), ("succeeded", .ofNat succeeded),
         ("failed", .ofNat failures)]
  | .failed failures => .ofFields [("status", .string "failed"), ("failed", .ofNat failures)]

end Outcome

namespace Report

def outcome (report : Report) : Outcome :=
  Outcome.ofResults report.results

def result? (report : Report) (destination : String) : Option DestinationResult :=
  report.results.find? fun result => result.destinationId == destination

def toValue (wording : Wording) (report : Report) : Value :=
  .ofFields
    [("runId", .string report.run.id),
     ("sourcePath", .string report.source),
     ("startedAt", .string (report.run.startedAt ++ "Z")),
     ("results", .array (report.results.map (DestinationResult.toValue wording)))]

end Report

namespace TotalFailure

def message (wording : Wording) (failure : TotalFailure) : String :=
  let causes := failure.results.filterMap fun result =>
    result.error?.map fun cause => result.destinationId ++ ": " ++ cause.message wording
  "All " ++ toString failure.results.length ++ " destination(s) failed for " ++ failure.source ++
    ": " ++ "; ".intercalate causes

end TotalFailure

end RuleCompiler
