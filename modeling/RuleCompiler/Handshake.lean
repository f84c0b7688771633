import RuleCompiler.Capability
import RuleCompiler.Version

/-!
Handshakes: what a provider says about itself, and whether that is compatible with the compiler.
Two SDK versions are compatible when their major numbers are equal.
-/

namespace RuleCompiler

/-- The version of the compiler and of its built-in providers. -/
def engineVersion : String := "1.0.0"

def sdkVersion : String := "1.0.0"

inductive SandboxMode where
  | inProcess
  | isolated
  deriving DecidableEq, Repr

structure Sandbox where
  mode : SandboxMode
  permissions : List String := []
  deriving DecidableEq, Repr

structure RuntimeInfo where
  name : String
  version : Option String := none
  deriving DecidableEq, Repr

structure Handshake where
  providerId : String
  version : String
  sdkVersion : String
  capabilities : List Capability
  sandbox : Option Sandbox := none
  runtime : Option RuntimeInfo := none
  deriving DecidableEq, Repr

namespace SandboxMode

def name : SandboxMode → String
  | .inProcess => "in-process"
  | .isolated => "isolated"

def ofName? : String → Option SandboxMode
  | "in-process" => some .inProcess
  | "isolated" => some .isolated
  | _ => none

end SandboxMode

namespace Sandbox

def toValue (sandbox : Sandbox) : Value :=
  .ofFields
    [("mode", .string sandbox.mode.name), ("permissions", .ofStrings sandbox.permissions)]

def fields : Record.Field Sandbox := do
  let mode ← Record.required "mode" (Record.choice SandboxMode.ofName?)
  let permissions ← Record.defaulted "permissions" [] (Record.listOf Value.asString?)
  return { mode, permissions }

end Sandbox

namespace RuntimeInfo

def toValue (runtime : RuntimeInfo) : Value :=
  .ofPresent
    [("name", some (.string runtime.name)), ("version", runtime.version.map .string)]

def fields : Record.Field RuntimeInfo := do
  let name ← Record.required "name" Value.asString?
  let version ← Record.optional "version" Value.asString?
  return { name, version }

end RuntimeInfo

namespace Handshake

/-- A provider that runs inside the compiler and may write files. -/
def inProcess (providerId version : String) (capabilities : List String) : Handshake :=
  { providerId, version
    sdkVersion := RuleCompiler.sdkVersion
    capabilities := capabilities.map Capability.describe
    sandbox := some { mode := .inProcess, permissions := ["fs.write"] }
    runtime := some { name := "native" } }

def supports (handshake : Handshake) (capability : String) : Bool :=
  handshake.capabilities.any fun declared => declared.id == capability

def toValue (handshake : Handshake) : Value :=
  .ofPresent
    [("providerId", some (.string handshake.providerId)),
     ("version", some (.string handshake.version)),
     ("sdkVersion", some (.string handshake.sdkVersion)),
     ("capabilities", some (.array (handshake.capabilities.map Capability.toValue))),
     ("sandbox", handshake.sandbox.map Sandbox.toValue),
     ("runtime", handshake.runtime.map RuntimeInfo.toValue)]

def fields : Record.Field Handshake := do
  let providerId ← Record.required "providerId" Value.asString?
  let version ← Record.required "version" Value.asString?
  let sdkVersion ← Record.required "sdkVersion" Value.asString?
  let capabilities ← Record.required "capabilities" (Record.listOf Capability.ofValue?)
  let sandbox ← Record.optional "sandbox" (Record.read Sandbox.fields)
  let runtime ← Record.optional "runtime" (Record.read RuntimeInfo.fields)
  return { providerId, version, sdkVersion, capabilities, sandbox, runtime }

def ofValue? : Value → Option Handshake :=
  Record.read fields

/-- The findings against a handshake when SDK `expected` is spoken; none when it is compatible. An
expected version that cannot be read is reported before a declared one. -/
def incompatibilities (expected : String) (handshake : Handshake) : List Diagnostic :=
  let declared := handshake.sdkVersion
  match Version.major? expected with
  | none =>
      [{ code := "sdk.invalid-version"
         severity := .error
         message := "Invalid expected SDK version '" ++ expected ++ "'"
         actual := some expected }]
  | some expectedMajor =>
      match Version.major? declared with
      | none =>
          [{ code := "sdk.invalid-version"
             severity := .error
             message := "Provider '" ++ handshake.providerId ++
               "' declares invalid SDK version '" ++ declared ++ "'"
             actual := some declared }]
      | some declaredMajor =>
          if expectedMajor = declaredMajor then []
          else
            [{ code := "sdk.incompatible"
               severity := .error
               message := "Provider '" ++ handshake.providerId ++ "' targets SDK " ++ declared ++
                 " but the compiler expects SDK " ++ expected
               expected := some expected
               actual := some declared
               remediation :=
                 ["Upgrade '" ++ handshake.providerId ++ "' to a release built against SDK " ++
                   toString expectedMajor ++ ".x"] }]

end Handshake

end RuleCompiler
