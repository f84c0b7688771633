import RuleCompiler.Document.Basic
import RuleCompiler.Handshake
import RuleCompiler.Proofs.Record

/-!
Documents and handshakes, read from the values that they are written as. Each part of them is read
back as it was, and so is the whole. The level of a heading and the numbers of lines have to fit
their words.
-/

namespace RuleCompiler

open Record (Reads)

/-! ### Findings -/

theorem Diagnostic.ofValue?_toValue (finding : Diagnostic) :
    ofValue? finding.toValue = some finding := by
  obtain ⟨code, severity, message, expected, actual, remediation⟩ := finding
  refine Record.read_ofPresent (of_decide_eq_true rfl) ?_
  unfold fields
  refine Reads.bind (Reads.required rfl rfl) ?_
  refine Reads.bind (Reads.required rfl severity.ofName?_name) ?_
  refine Reads.bind (Reads.required rfl rfl) ?_
  refine Reads.bind (Reads.optional rfl fun _ _ => rfl) ?_
  refine Reads.bind (Reads.optional rfl fun _ _ => rfl) ?_
  cases remediation with
  | nil => exact Reads.bind (Reads.missing rfl) (Reads.pure _)
  | cons step steps =>
      have back := Record.listOf_ofStrings (step :: steps)
      exact Reads.bind (Reads.defaulted rfl back) (Reads.pure _)

/-! ### Handshakes -/

theorem SandboxMode.ofName?_name (mode : SandboxMode) : ofName? mode.name = some mode := by
  cases mode <;> rfl

theorem Capability.ofValue?_toValue (capability : Capability) :
    ofValue? capability.toValue = some capability := by
  refine Record.read_ofFields (of_decide_eq_true rfl) ?_
  unfold fields
  refine Reads.bind (Reads.required rfl rfl) ?_
  refine Reads.bind (Reads.required rfl rfl) ?_
  refine Reads.bind (Reads.defaulted rfl rfl) ?_
  exact Reads.bind (Reads.defaulted rfl rfl) (Reads.pure _)

theorem Sandbox.read_toValue (sandbox : Sandbox) :
    Record.read fields sandbox.toValue = some sandbox := by
  have permissions := Record.listOf_ofStrings sandbox.permissions
  refine Record.read_ofFields (of_decide_eq_true rfl) ?_
  unfold fields
  refine Reads.bind (Reads.required rfl sandbox.mode.ofName?_name) ?_
  exact Reads.bind (Reads.defaulted rfl permissions) (Reads.pure _)

theorem RuntimeInfo.read_toValue (runtime : RuntimeInfo) :
    Record.read fields runtime.toValue = some runtime := by
  refine Record.read_ofPresent (of_decide_eq_true rfl) ?_
  unfold fields
  refine Reads.bind (Reads.required rfl rfl) ?_
  exact Reads.bind (Reads.optional rfl fun _ _ => rfl) (Reads.pure _)

theorem Handshake.ofValue?_toValue (handshake : Handshake) :
    ofValue? handshake.toValue = some handshake := by
  have capabilities := Record.listOf_map
    fun capability (_ : capability ∈ handshake.capabilities) => capability.ofValue?_toValue
  refine Record.read_ofPresent (of_decide_eq_true rfl) ?_
  unfold fields
  refine Reads.bind (Reads.required rfl rfl) ?_
  refine Reads.bind (Reads.required rfl rfl) ?_
  refine Reads.bind (Reads.required rfl rfl) ?_
  refine Reads.bind (Reads.required rfl capabilities) ?_
  refine Reads.bind (Reads.optional rfl fun sandbox _ =>
    Record.nullable_object sandbox.read_toValue) ?_
  exact Reads.bind (Reads.optional rfl fun runtime _ =>
    Record.nullable_object runtime.read_toValue) (Reads.pure _)

/-! ### Documents -/

theorem SourceFormat.ofName?_name (format : SourceFormat) :
    ofName? format.name = some format := by
  cases format <;> rfl

theorem Value.asNat?_ofNat {most value : Nat} (fits : value ≤ most) :
    asNat? most (ofNat value) = some value := by
  unfold asNat? ofNat
  dsimp only
  rw [if_pos ⟨Int.natCast_nonneg value, Int.ofNat_le.mpr fits⟩, Int.toNat_natCast]

theorem Value.nullable_asPath? (path : Option Path) :
    Record.nullable asPath? (ofString? (path.map Path.text)) = some path := by
  cases path <;> rfl

theorem DocumentSource.read_toValue (source : DocumentSource) :
    Record.read fields source.toValue = some source := by
  refine Record.read_ofFields (of_decide_eq_true rfl) ?_
  unfold fields
  refine Reads.bind (Reads.required rfl rfl) ?_
  refine Reads.bind (Reads.defaulted rfl (Value.nullable_asPath? source.path)) ?_
  refine Reads.bind (Reads.required rfl rfl) ?_
  exact Reads.bind (Reads.defaulted rfl source.format.ofName?_name) (Reads.pure _)

theorem DocumentMetadata.read_toValue (metadata : DocumentMetadata) :
    Record.read fields metadata.toValue = some metadata := by
  refine Record.read_ofFields (of_decide_eq_true rfl) ?_
  unfold fields
  refine Reads.bind (Reads.defaulted rfl rfl) ?_
  exact Reads.bind (Reads.defaulted rfl (Record.nullable_ofString? _)) (Reads.pure _)

/-- A heading whose level fits eight bits and whose line fits a word. -/
structure Section.Fits (heading : Section) : Prop where
  level : heading.level ≤ maxLevel
  line : heading.line ≤ maxLine

theorem Section.read_toValue {heading : Section} (fits : heading.Fits) :
    Record.read fields heading.toValue = some heading := by
  refine Record.read_ofFields (of_decide_eq_true rfl) ?_
  unfold fields
  refine Reads.bind (Reads.required rfl rfl) ?_
  refine Reads.bind (Reads.required rfl (Value.asNat?_ofNat fits.level)) ?_
  exact Reads.bind (Reads.required rfl (Value.asNat?_ofNat fits.line)) (Reads.pure _)

theorem Marker.read_toValue {marker : Marker} (fits : marker.line ≤ maxLine) :
    Record.read fields marker.toValue = some marker := by
  refine Record.read_ofFields (of_decide_eq_true rfl) ?_
  unfold fields
  refine Reads.bind (Reads.required rfl rfl) ?_
  exact Reads.bind (Reads.required rfl (Value.asNat?_ofNat fits)) (Reads.pure _)

/-- An outline whose numbers fit the words that hold them. -/
structure Outline.Fits (outline : Outline) : Prop where
  sections : ∀ heading ∈ outline.sections, heading.Fits
  markers : ∀ marker ∈ outline.markers, marker.line ≤ maxLine

theorem Outline.read_toValue {outline : Outline} (fits : outline.Fits) :
    Record.read fields outline.toValue = some outline := by
  have sections := Record.listOf_map fun heading member =>
    Section.read_toValue (fits.sections heading member)
  have markers := Record.listOf_map fun marker member =>
    Marker.read_toValue (fits.markers marker member)
  refine Record.read_ofFields (of_decide_eq_true rfl) ?_
  unfold fields
  refine Reads.bind (Reads.defaulted rfl sections) ?_
  refine Reads.bind (Reads.defaulted rfl (Record.listOf_ofStrings _)) ?_
  refine Reads.bind (Reads.defaulted rfl (Record.listOf_ofStrings _)) ?_
  exact Reads.bind (Reads.defaulted rfl markers) (Reads.pure _)

theorem Document.ofValue?_toValue {document : Document} (fits : document.outline.Fits) :
    ofValue? document.toValue = some document := by
  have diagnostics := Record.listOf_map
    fun finding (_ : finding ∈ document.diagnostics) => finding.ofValue?_toValue
  refine Record.read_ofFields (of_decide_eq_true rfl) ?_
  unfold fields
  refine Reads.bind (Reads.required rfl document.source.read_toValue) ?_
  refine Reads.bind (Reads.required rfl document.metadata.read_toValue) ?_
  refine Reads.bind (Reads.defaulted rfl (Outline.read_toValue fits)) ?_
  exact Reads.bind (Reads.defaulted rfl diagnostics) (Reads.pure _)

/-- Whatever a document or a handshake holds, reading the value that it is written as gives it
back. -/
theorem written_reads_back :
    (∀ document : Document, document.outline.Fits →
      Document.ofValue? document.toValue = some document) ∧
    ∀ handshake : Handshake, Handshake.ofValue? handshake.toValue = some handshake :=
  ⟨fun _ fits => Document.ofValue?_toValue fits, Handshake.ofValue?_toValue⟩

/-- The greatest numbers, null for the frontmatter, and options that are partly missing. -/
theorem outlined_note_reads_back :
    let document : Document :=
      { source := { id := "note", contents := "# Note\n", format := .xml }
        metadata := { frontmatter := .null, version := some "2" }
        outline :=
          { sections := [{ title := "Note", level := 255, line := 18446744073709551615 }]
            imports := ["other"]
            markers := [{ name := "here", line := 0 }] }
        diagnostics :=
          [{ code := "note", severity := .info, message := "", actual := some "" },
           { code := "note", severity := .warning, message := "", remediation := ["mend"] }] }
    let handshake : Handshake :=
      { providerId := "note"
        version := "1"
        sdkVersion := "1"
        capabilities := [{ id := "notes", description := "", isOptional := true }]
        sandbox := some { mode := .isolated }
        runtime := some { name := "native" } }
    document.outline.Fits ∧ Document.ofValue? document.toValue = some document ∧
      Handshake.ofValue? handshake.toValue = some handshake := by
  intro document handshake
  have fits : document.outline.Fits := by
    constructor
    · intro heading member
      rw [List.mem_singleton.mp member]
      exact ⟨by decide, by decide⟩
    · intro marker member
      rw [List.mem_singleton.mp member]
      decide
  exact ⟨fits, written_reads_back.1 document fits, written_reads_back.2 handshake⟩

end RuleCompiler
