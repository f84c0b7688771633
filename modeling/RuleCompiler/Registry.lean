import RuleCompiler.Provider.SharedFile

/-!
The registry of providers. A provider is active when it speaks the expected SDK. Each id has one
active provider, the last that was accepted under it, at the place of the first; the providers that
were refused are kept with the reasons.
-/

namespace RuleCompiler

structure RejectedProvider where
  handshake : Handshake
  findings : List Diagnostic
  deriving Repr

structure Registry where
  expectedSdk : String := sdkVersion
  /-- The active providers, in the order in which their ids were first accepted. -/
  active : List Provider := []
  /-- The refused ones, in the order in which they came. -/
  rejected : List RejectedProvider := []

namespace RejectedProvider

def toValue (refused : RejectedProvider) : Value :=
  .ofFields
    [("providerId", .string refused.handshake.providerId),
     ("handshake", refused.handshake.toValue),
     ("diagnostics", .array (refused.findings.map Diagnostic.toValue))]

end RejectedProvider

namespace Registry

def ids (registry : Registry) : List String :=
  registry.active.map Provider.id

def get? (registry : Registry) (id : String) : Option Provider :=
  registry.active.find? fun provider => provider.id == id

def contains (registry : Registry) (id : String) : Bool :=
  (registry.get? id).isSome

def size (registry : Registry) : Nat :=
  registry.active.length

/-- Put a provider in the place of the one with its id, or else at the end. -/
def enlist (provider : Provider) : (active : List Provider) → List Provider
  | [] => [provider]
  | other :: active =>
      if other.id = provider.id then provider :: active else other :: enlist provider active

/-- Accept a provider, or refuse it with the findings against it. -/
def register (registry : Registry) (provider : Provider) : Registry × List Diagnostic :=
  match Handshake.incompatibilities registry.expectedSdk provider.handshake with
  | [] => ({ registry with active := enlist provider registry.active }, [])
  | finding :: findings =>
      let refused := { handshake := provider.handshake, findings := finding :: findings }
      ({ registry with rejected := registry.rejected ++ [refused] }, finding :: findings)

def load (candidates : List Provider) : Registry :=
  candidates.foldl (fun registry provider => (registry.register provider).1) {}

def builtin : Registry :=
  load Provider.builtin

end Registry

end RuleCompiler
