import Mathlib.Data.List.Basic
import RuleCompiler.Proofs.Provider.Accounting
import RuleCompiler.Proofs.Registry.History

/-!
Bodies in the texts of the built-in providers. Every provider but the one for `AGENTS.md` writes the
body of the rule into a text of its own: trimmed at its end, and between two texts that do not
depend on it. So two bodies give one text only if they are the same once trimmed at the end.
-/

namespace RuleCompiler

/-- The text around a body, and the body trimmed at its end. -/
def Wraps (lead tail : String) (text : String → String) : Prop :=
  ∀ body, text body = lead ++ Text.trimmedEnd body ++ tail

theorem Wraps.injective {lead tail : String} {text : String → String} (wraps : Wraps lead tail text)
    {body other : String} (same : text body = text other) :
    Text.trimmedEnd body = Text.trimmedEnd other := by
  rw [wraps, wraps] at same
  have lists := congrArg String.toList same
  simp only [String.toList_append] at lists
  exact String.toList_injective (List.append_cancel_left (List.append_cancel_right lists))

/-- The document with this body, both as it came and as it is to be written. -/
def CompiledDocument.withBody (document : CompiledDocument) (body : String) : CompiledDocument :=
  { document with source := { document.source with contents := body }, content := body }

namespace Provider

theorem wraps_withFrontmatter (entries : List (String × Yaml.Entry)) :
    ∃ lead, Wraps lead "\n" (withFrontmatter entries) := by
  cases empty : entries.isEmpty with
  | true =>
      refine ⟨"", fun body => ?_⟩
      rw [withFrontmatter, withFrontmatterBy, empty, if_pos rfl, String.empty_append]
  | false =>
      refine ⟨"---\n" ++ Yaml.mappingText entries ++ "---\n\n", fun body => ?_⟩
      rw [withFrontmatter, withFrontmatterBy, empty, if_neg Bool.false_ne_true]
      rfl

theorem wraps_xmlText (trigger : String) (globs : List String) :
    ∃ lead, Wraps lead "\n</rule>\n" (Windsurf.xmlText trigger globs) :=
  ⟨_, fun _ => rfl⟩

/-- The texts of a provider wrap the body of the document, however the rest of it looks. -/
def KeepsBody (contents : DestinationConfig → CompiledDocument → String) : Prop :=
  ∀ (config : DestinationConfig) (document : CompiledDocument), ∃ lead tail,
    Wraps lead tail fun body => contents config (document.withBody body)

theorem keepsBody_withFrontmatter
    (entries : DestinationConfig → CompiledDocument → List (String × Yaml.Entry))
    (bodiless : ∀ config document body, entries config (document.withBody body) =
      entries config document) :
    KeepsBody fun config document =>
      withFrontmatter (entries config document) document.content := by
  intro config document
  obtain ⟨lead, wraps⟩ := wraps_withFrontmatter (entries config document)
  refine ⟨lead, "\n", fun body => ?_⟩
  dsimp only
  rw [bodiless]
  exact wraps body

theorem keepsBody_bodyText : KeepsBody fun _ => bodyText :=
  keepsBody_withFrontmatter (fun _ _ => []) fun _ _ _ => rfl

theorem Windsurf.keepsBody : KeepsBody Windsurf.contents := by
  intro config document
  let globs := textList (setting? config document "globs")
  let said := Windsurf.trigger config document globs
  have text : ∀ body, Windsurf.contents config (document.withBody body) =
      if Windsurf.isXml config then Windsurf.xmlText said globs body
      else Windsurf.markdownText said globs body :=
    fun _ => rfl
  cases isXml : Windsurf.isXml config with
  | true =>
      obtain ⟨lead, wraps⟩ := wraps_xmlText said globs
      refine ⟨lead, "\n</rule>\n", fun body => ?_⟩
      dsimp only
      rw [text, isXml, if_pos rfl]
      exact wraps body
  | false =>
      obtain ⟨lead, wraps⟩ := wraps_withFrontmatter
        (("trigger", .text said) ::
          (if globs.isEmpty then [] else [("globs", .text (",".intercalate globs))]))
      refine ⟨lead, "\n", fun body => ?_⟩
      dsimp only
      rw [text, isXml, if_neg Bool.false_ne_true]
      exact wraps body

/-- The rule's own text, as a provider other than the one for `AGENTS.md` persists it. -/
theorem own_text_cases {provider : Provider} (member : provider ∈ builtin)
    (notMerged : provider ≠ AgentsMd.provider) :
    (∃ mode contents, IsRuleFile provider mode contents ∧ KeepsBody contents) ∨
      provider = Codex.provider := by
  simp only [builtin, List.mem_cons, List.not_mem_nil, or_false] at member
  rcases member with rfl | rfl | rfl | rfl | rfl | rfl | rfl | rfl
  · exact Or.inl ⟨_, _, Cursor.isRuleFile,
      keepsBody_withFrontmatter Cursor.entries fun _ _ _ => rfl⟩
  · exact Or.inl ⟨_, _, Windsurf.isRuleFile, Windsurf.keepsBody⟩
  · exact Or.inl ⟨_, _, ClaudeCode.isRuleFile, keepsBody_bodyText⟩
  · exact Or.inl ⟨_, _, Copilot.isRuleFile, keepsBody_withFrontmatter
      (fun config document => [("applyTo", .text (Copilot.appliesTo config document))])
      fun _ _ _ => rfl⟩
  · exact Or.inl ⟨_, _, Cline.isRuleFile, keepsBody_bodyText⟩
  · exact Or.inl ⟨_, _, RooCode.isRuleFile, keepsBody_bodyText⟩
  · exact absurd rfl notMerged
  · exact Or.inr rfl

/-- What a write tells first is that it persisted this text. -/
def PersistsFirst (files : FileTree) (text : String) (written : List WrittenArtifact) : Prop :=
  ∃ told rest mode made, written = told :: rest ∧
    Persist.outcome files told.path text mode = (.ok told, made)

/-- A write that succeeds has persisted the body, trimmed at its end, between two texts that do not
depend on it. -/
theorem write_wraps {provider : Provider} (member : provider ∈ builtin)
    (notMerged : provider ≠ AgentsMd.provider) (config : DestinationConfig)
    (document : CompiledDocument) :
    ∃ lead tail text, Wraps lead tail text ∧
      ∀ request body workspace written after, request.config = config →
        request.document = document.withBody body →
        (provider.write request).run workspace = (.ok written, after) →
        PersistsFirst workspace.files (text body) written := by
  rcases own_text_cases member notMerged with ⟨mode, contents, ruleFile, keeps⟩ | rfl
  · obtain ⟨lead, tail, wraps⟩ := keeps config document
    refine ⟨lead, tail, _, wraps, ?_⟩
    intro request body workspace written after isConfig isDocument ran
    rcases persisted : Persist.outcome workspace.files
      (provider.outputPath workspace.files request)
      (contents request.config request.document) mode with ⟨answer, files⟩
    rcases ruleFile.write_run request workspace persisted with ⟨findings, refused⟩ | ⟨log, wrote⟩
    · rw [refused] at ran
      cases ran
    · rw [wrote] at ran
      cases answer with
      | error cause => cases ran
      | ok told =>
          cases ran
          refine ⟨told, [], mode, files, rfl, ?_⟩
          rw [Persist.path_of_outcome persisted, ← isConfig, ← isDocument]
          exact persisted
  · obtain ⟨lead, tail, wraps⟩ := keepsBody_bodyText config document
    refine ⟨lead, tail, _, wraps, ?_⟩
    intro request body workspace written after isConfig isDocument ran
    rcases Codex.write_inv ran with
      ⟨cause, _, failed, _⟩ | ⟨own, made, sharedAnswer, persisted, _, answered, _⟩
    · cases failed
    · cases sharedAnswer with
      | error cause => cases answered
      | ok shared =>
          cases answered
          refine ⟨own, [shared], .direct, made, rfl, ?_⟩
          rw [Persist.path_of_outcome persisted, ← isDocument]
          exact persisted

end Provider

end RuleCompiler
