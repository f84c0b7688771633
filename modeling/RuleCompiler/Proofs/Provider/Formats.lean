import RuleCompiler.Proofs.Provider.Writing

/-!
Formats that a provider does not declare. Each format needs a capability, which carries its name. A
provider that asks for it refuses the request before it does anything. Some providers never look at
the format, and Cursor looks at the ones it knows: to it, any other format is an extension.
-/

namespace RuleCompiler

/-- The capability that a format needs. -/
def Capability.ofFormat (format : String) : String :=
  if format = "markdown" ∨ format = "md" then outputMarkdown else "output." ++ format

namespace Provider

theorem formatCapability_some (format : String) :
    formatCapability (some format) = Capability.ofFormat format := by
  unfold formatCapability Capability.ofFormat
  split
  · next none => cases none
  · next markdown =>
      cases markdown
      rfl
  · next md =>
      cases md
      rfl
  · next xml =>
      cases xml
      rfl
  · next mdc =>
      cases mdc
      rfl
  · next other notMarkdown notMd notXml notMdc isOther =>
      cases isOther
      rw [if_neg]
      rintro (isMarkdown | isMd)
      · exact notMarkdown isMarkdown
      · exact notMd isMd

/-- The first capability of a target decides when it is not declared. -/
theorem ensureCapabilities_undeclared {handshake : Handshake} {target : Target} {missing : String}
    {others : List String} (first : target.capabilities = missing :: others)
    (undeclared : handshake.supports missing = false) :
    ensureCapabilities handshake target =
      .error (.compile [Capability.unsupported handshake.providerId missing]) := by
  unfold ensureCapabilities
  rw [first, List.find?_cons_of_pos]
  rw [undeclared]
  rfl

theorem ensureCapabilities_declared {handshake : Handshake} {target : Target}
    (declared : ∀ capability ∈ target.capabilities, handshake.supports capability = true) :
    ensureCapabilities handshake target = .ok () := by
  unfold ensureCapabilities
  rw [List.find?_eq_none.mpr]
  intro capability member
  rw [declared capability member]
  exact Bool.false_ne_true

/-- A write that is not refused for its capabilities. -/
def Admits (provider : Provider) (request : WriteRequest) (workspace : Workspace) : Prop :=
  ∀ findings after, (provider.write request).run workspace ≠ (.error (.compile findings), after)

section RuleFile

variable {provider : Provider} {mode : WriteMode}
  {contents : DestinationConfig → CompiledDocument → String}

theorem IsRuleFile.admits (ruleFile : IsRuleFile provider mode contents) {request : WriteRequest}
    {workspace : Workspace}
    (granted : ensureCapabilities provider.handshake (provider.target workspace.files request) =
      .ok ()) : provider.Admits request workspace := by
  intro findings after refused
  rcases persisted : Persist.outcome workspace.files (provider.outputPath workspace.files request)
    (contents request.config request.document) mode with ⟨answer, files⟩
  obtain ⟨log, ran⟩ := ruleFile.write_run_of_granted request workspace granted persisted
  rw [ran] at refused
  exact persisted_ne_refusal answer _ findings (congrArg Prod.fst refused)

/-- The capability of the format is all that the provider asks for. -/
def AsksForFormat (provider : Provider) : Prop :=
  ∀ config, provider.requestedCapabilities config = [formatCapability config.format?]

theorem IsRuleFile.refuses_format (ruleFile : IsRuleFile provider mode contents)
    (asks : provider.AsksForFormat) {request : WriteRequest} {format : String}
    (asked : request.config.format? = some format)
    (undeclared : provider.handshake.supports (Capability.ofFormat format) = false)
    (workspace : Workspace) :
    (provider.write request).run workspace =
      (.error (.compile [Capability.unsupported provider.id (Capability.ofFormat format)]),
        workspace) := by
  apply ruleFile.write_run_of_refused
  have only : provider.requestedCapabilities request.config = [Capability.ofFormat format] := by
    rw [asks, asked, formatCapability_some]
  exact ensureCapabilities_undeclared only undeclared

end RuleFile

/-! ### Cursor -/

namespace Cursor

theorem requested_xml {config : DestinationConfig} (xml : config.format? = some "xml") :
    ∃ others, requested config = Capability.outputXml :: others := by
  unfold requested
  rw [xml]
  exact ⟨_, rfl⟩

theorem supports_requested {config : DestinationConfig} (notXml : config.format? ≠ some "xml") :
    ∀ capability ∈ requested config, handshake.supports capability = true := by
  intro capability member
  unfold requested at member
  rcases List.mem_cons.mp member with output | globs
  · rw [output]
    split
    · next xml => exact absurd xml notXml
    · rfl
    · rfl
    · rfl
  · split at globs
    · rw [List.mem_singleton.mp globs]
      rfl
    · cases globs

end Cursor

/-! ### Providers that share a file -/

theorem AgentsMd.admits (request : WriteRequest) (workspace : Workspace) :
    AgentsMd.provider.Admits request workspace := by
  intro findings after refused
  obtain ⟨persistAnswer, _, answer, _⟩ := AgentsMd.write_inv refused
  exact persisted_ne_refusal persistAnswer _ findings answer.symm

theorem Codex.admits (request : WriteRequest) (workspace : Workspace) :
    Codex.provider.Admits request workspace := by
  intro findings after refused
  rcases Codex.write_inv refused with ⟨_, _, impossible, _⟩ | ⟨_, _, sharedAnswer, _, _, answer, _⟩
  · cases impossible
  · exact persisted_ne_refusal sharedAnswer _ findings answer.symm

/-! ### All built-in providers -/

/-- The provider refuses this format when it does not declare it. -/
def MindsFormat (provider : Provider) (format : String) : Prop :=
  provider.id ∈ ["windsurf", "copilot", "cline", "roo-code"] ∨
    provider.id = "cursor" ∧ format = "xml"

section Builtin

variable {provider : Provider} {request : WriteRequest} {format : String}

theorem refuses_of_mindsFormat (member : provider ∈ builtin)
    (asked : request.config.format? = some format)
    (undeclared : provider.handshake.supports (Capability.ofFormat format) = false)
    (minds : provider.MindsFormat format) (workspace : Workspace) :
    (provider.write request).run workspace =
      (.error (.compile [Capability.unsupported provider.id (Capability.ofFormat format)]),
        workspace) := by
  simp only [builtin, List.mem_cons, List.not_mem_nil, or_false] at member
  rcases minds with listed | ⟨isCursor, xml⟩
  · have listedRuleFile : ∃ mode contents, IsRuleFile provider mode contents ∧
        provider.AsksForFormat := by
      rcases member with rfl | rfl | rfl | rfl | rfl | rfl | rfl | rfl
      · exact absurd listed (by decide)
      · exact ⟨_, _, Windsurf.isRuleFile, fun _ => rfl⟩
      · exact absurd listed (by decide)
      · exact ⟨_, _, Copilot.isRuleFile, fun _ => rfl⟩
      · exact ⟨_, _, Cline.isRuleFile, fun _ => rfl⟩
      · exact ⟨_, _, RooCode.isRuleFile, fun _ => rfl⟩
      · exact absurd listed (by decide)
      · exact absurd listed (by decide)
    obtain ⟨mode, contents, ruleFile, asks⟩ := listedRuleFile
    exact ruleFile.refuses_format asks asked undeclared workspace
  · rcases member with rfl | others
    · subst xml
      obtain ⟨others, first⟩ := Cursor.requested_xml asked
      exact Cursor.isRuleFile.write_run_of_refused request workspace
        (ensureCapabilities_undeclared first undeclared)
    · rcases others with rfl | rfl | rfl | rfl | rfl | rfl | rfl
      all_goals exact absurd isCursor (by decide)

theorem admits_of_not_mindsFormat (member : provider ∈ builtin)
    (asked : request.config.format? = some format) (minds : ¬ provider.MindsFormat format)
    (workspace : Workspace) : provider.Admits request workspace := by
  simp only [builtin, List.mem_cons, List.not_mem_nil, or_false] at member
  rcases member with rfl | rfl | rfl | rfl | rfl | rfl | rfl | rfl
  · apply Cursor.isRuleFile.admits
    apply ensureCapabilities_declared
    apply Cursor.supports_requested
    intro xml
    rw [asked] at xml
    exact minds (Or.inr ⟨rfl, Option.some.inj xml⟩)
  · exact absurd (Or.inl (by decide)) minds
  · exact ClaudeCode.isRuleFile.admits rfl
  · exact absurd (Or.inl (by decide)) minds
  · exact absurd (Or.inl (by decide)) minds
  · exact absurd (Or.inl (by decide)) minds
  · exact AgentsMd.admits request workspace
  · exact Codex.admits request workspace

end Builtin

/-- A format that a provider does not declare is refused, with nothing done, by the providers that
mind it; by the others nothing is refused. -/
theorem write_undeclared_format {provider : Provider} (member : provider ∈ builtin)
    {request : WriteRequest} {format : String} (asked : request.config.format? = some format)
    (undeclared : provider.handshake.supports (Capability.ofFormat format) = false)
    (workspace : Workspace) :
    (provider.MindsFormat format → (provider.write request).run workspace =
      (.error (.compile [Capability.unsupported provider.id (Capability.ofFormat format)]),
        workspace)) ∧
    (¬ provider.MindsFormat format → ∀ findings after,
      (provider.write request).run workspace ≠ (.error (.compile findings), after)) :=
  ⟨fun minds => refuses_of_mindsFormat member asked undeclared minds workspace,
    fun minds => admits_of_not_mindsFormat member asked minds workspace⟩

/-- A note of four letters, to be written under this configuration. -/
def noteRequest (config : DestinationConfig) : WriteRequest :=
  { document :=
      { source := { id := "a.md", contents := "Body" }
        metadata := {}
        outline := {}
        content := "Body"
        destinationId := ""
        mergedConfig := .object [] }
    destination := ⟨"/p/rules"⟩
    config
    projectRoot := ⟨"/p"⟩ }

def formatConfig (format : String) : DestinationConfig :=
  { fields := [("format", .string format)] }

theorem cline_refuses_html :
    Cline.provider ∈ builtin ∧ (formatConfig "html").format? = some "html" ∧
    Cline.handshake.supports (Capability.ofFormat "html") = false ∧
    (Cline.provider.write (noteRequest (formatConfig "html"))).run {} =
      (.error (.compile [Capability.unsupported "cline" "output.html"]), {}) := by
  have member : Cline.provider ∈ builtin := by
    simp only [builtin, List.mem_cons, true_or, or_true]
  have asked : (noteRequest (formatConfig "html")).config.format? = some "html" := rfl
  have undeclared : Cline.handshake.supports (Capability.ofFormat "html") = false := by decide
  have minds : Cline.provider.MindsFormat "html" := Or.inl (by decide)
  exact ⟨member, asked, undeclared, (write_undeclared_format member asked undeclared {}).1 minds⟩

/-- Cursor does not declare the capability of this format and writes a file all the same. -/
theorem cursor_writes_html :
    Cursor.provider ∈ builtin ∧ (formatConfig "html").format? = some "html" ∧
    Cursor.handshake.supports (Capability.ofFormat "html") = false ∧
    ((Cursor.provider.write (noteRequest (formatConfig "html"))).run {}).2.files.fileAt?
        ["p", "rules", "a.html"] ≠
      ({} : Workspace).files.fileAt? ["p", "rules", "a.html"] := by
  have member : Cursor.provider ∈ builtin := by
    simp only [builtin, List.mem_cons, true_or]
  exact ⟨member, rfl, by decide, by decide +kernel⟩

end Provider

end RuleCompiler
