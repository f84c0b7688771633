import RuleCompiler.Proofs.Path.FileName
import RuleCompiler.Proofs.Provider.Formats

/-!
Where the providers that have a directory put the file of a rule, when no other path is configured.
The file is named after the rule, and what it is named is joined to the directory as it is: a name
without a slash lies in it, one with a slash may lie anywhere. The directory of a mode is named
after the mode; it counts as a file as soon as that name has an extension.
-/

namespace RuleCompiler

namespace OutputPath

theorem override?_of_blank {configured : Option String}
    (blank : ∀ text, configured = some text → Text.trimmed text = "") :
    override? configured = none := by
  cases configured with
  | none => rfl
  | some text => exact if_pos (blank text rfl)

theorem looksLikeDirectory_join (root : Path) {tail name : String} {above : List String}
    (relative : tail.toList.head? ≠ some '/') (pieces : Text.pieces '/' tail = above ++ [name])
    (isName : Path.IsName name) (noDot : '.' ∉ name.toList.tail) :
    looksLikeDirectory (root.join tail).text = true := by
  obtain ⟨before, segments, _⟩ := Path.segments_join root relative
  rw [pieces, ← List.append_assoc] at segments
  exact (looksLikeDirectory_of_segments segments isName).mpr noDot

end OutputPath

namespace Provider

theorem pathUnder_of_blank {configured : Option String}
    (blank : ∀ text, configured = some text → Text.trimmed text = "") {base : Path}
    {check : DirectoryCheck} {files : FileTree}
    (isDirectory : OutputPath.looksLikeDirectory base.text = true ∨
      check = .stat ∧ files.isDirectory base = true) (fallback : String) :
    pathUnder base configured fallback check files =
      (base.join fallback).absolutize files.workingPath := by
  unfold pathUnder OutputPath.resolve OutputPath.candidate
  rw [OutputPath.override?_of_blank blank]
  dsimp only
  rcases isDirectory with looks | ⟨rfl, isThere⟩
  · rw [looks, Bool.true_or, if_pos rfl]
  · rw [isThere, Bool.and_true, decide_eq_true rfl, Bool.or_true, if_pos rfl]

theorem pathUnder_lexical_of_blank {configured : Option String}
    (blank : ∀ text, configured = some text → Text.trimmed text = "") {base : Path}
    (looks : OutputPath.looksLikeDirectory base.text = false) (fallback : String)
    (files : FileTree) :
    pathUnder base configured fallback .lexical files = base.absolutize files.workingPath := by
  unfold pathUnder OutputPath.resolve OutputPath.candidate
  rw [OutputPath.override?_of_blank blank]
  dsimp only
  rw [looks]
  rfl

/-! ### Rules in directories -/

/-- A provider puts the file of a rule into its directory; `ending` is what comes behind the rule's
name. -/
inductive FilesRules : (provider : Provider) → (ending : DestinationConfig → String) → Prop
  | cursor : FilesRules Cursor.provider fun config => "." ++ Cursor.extension config.format?
  | windsurf :
      FilesRules Windsurf.provider fun config => if Windsurf.isXml config then ".xml" else ".md"
  | copilot : FilesRules Copilot.provider fun _ => ".instructions.md"
  | cline : FilesRules Cline.provider fun _ => ".md"
  | codex : FilesRules Codex.provider fun _ => ".md"

namespace FilesRules

variable {provider : Provider} {ending : DestinationConfig → String}

/-- The directory of a provider has no extension. -/
theorem defaultDestination_isDirectory (filesRules : FilesRules provider ending) :
    provider.defaultDestination.toList.head? ≠ some '/' ∧
    ∃ above name, Text.pieces '/' provider.defaultDestination = above ++ [name] ∧
      Path.IsName name ∧ '.' ∉ name.toList.tail := by
  cases filesRules with
  | cursor => exact ⟨by decide, [".cursor"], "rules", rfl, ⟨rfl, by decide, by decide⟩, by decide⟩
  | windsurf =>
      exact ⟨by decide, [".windsurf"], "rules", rfl, ⟨rfl, by decide, by decide⟩, by decide⟩
  | copilot =>
      exact ⟨by decide, [".github"], "instructions", rfl, ⟨rfl, by decide, by decide⟩, by decide⟩
  | cline => exact ⟨by decide, [], ".clinerules", rfl, ⟨rfl, by decide, by decide⟩, by decide⟩
  | codex => exact ⟨by decide, [".codex"], "rules", rfl, ⟨rfl, by decide, by decide⟩, by decide⟩

theorem outputPath_eq (filesRules : FilesRules provider ending) (files : FileTree)
    {request : WriteRequest} {root : Path}
    (base : request.destination = root.join provider.defaultDestination)
    (blank : ∀ text, request.config.outputOverride? = some text → Text.trimmed text = "") :
    provider.outputPath files request =
      (request.destination.join (ruleName request.document ++ ending request.config)).absolutize
        files.workingPath := by
  obtain ⟨relative, above, name, pieces, isName, noDot⟩ := filesRules.defaultDestination_isDirectory
  have looks : OutputPath.looksLikeDirectory request.destination.text = true := by
    rw [base]
    exact OutputPath.looksLikeDirectory_join root relative pieces isName noDot
  cases filesRules with
  | cursor =>
      rw [← String.append_assoc]
      exact pathUnder_of_blank blank (Or.inl looks) _
  | windsurf => exact pathUnder_of_blank blank (Or.inl looks) _
  | copilot => exact pathUnder_of_blank blank (Or.inl looks) _
  | cline => exact pathUnder_of_blank blank (Or.inl looks) _
  | codex => exact pathUnder_of_blank blank (Or.inl looks) _

/-- Only a format of Cursor can bring a slash into the ending, or leave it a mere dot. -/
theorem ending_cases (filesRules : FilesRules provider ending) (config : DestinationConfig) :
    (2 ≤ (ending config).length ∧ '/' ∉ (ending config).toList) ∨
    (provider.id = "cursor" ∧ ∃ format, config.format? = some format ∧
      ending config = "." ++ format) := by
  have markdown : 2 ≤ ".md".length ∧ '/' ∉ ".md".toList := by decide
  cases filesRules with
  | cursor =>
      unfold Cursor.extension
      dsimp only
      split
      · exact Or.inl (by decide)
      · exact Or.inl (by decide)
      · exact Or.inl (by decide)
      · exact Or.inl (by decide)
      · rename_i format _ _ _ asked
        exact Or.inr ⟨rfl, format, asked, rfl⟩
  | windsurf =>
      dsimp only
      split
      · exact Or.inl (by decide)
      · exact Or.inl markdown
  | copilot =>
      have instructions : 2 ≤ ".instructions.md".length ∧ '/' ∉ ".instructions.md".toList := by
        decide
      exact Or.inl instructions
  | cline => exact Or.inl markdown
  | codex => exact Or.inl markdown

theorem isName_file (filesRules : FilesRules provider ending) {request : WriteRequest}
    (plainName : (request.document.source.path.bind Path.fileName?).isSome = true ∨
      '/' ∉ request.document.source.id.toList)
    (plainFormat : provider.id = "cursor" → ∀ format, request.config.format? = some format →
      '/' ∉ format.toList ∧ (format = "" → ruleName request.document ≠ ".")) :
    Path.IsName (ruleName request.document ++ ending request.config) := by
  have nameSome : ruleName request.document ≠ "" := RuleName.stem_ne_empty _ _
  have nameNoSlash : '/' ∉ (ruleName request.document).toList :=
    RuleName.slash_not_mem_stem plainName
  rcases filesRules.ending_cases request.config with
    ⟨long, noSlash⟩ | ⟨isCursor, format, asked, endingEq⟩
  · exact Path.isName_append_of_long nameSome long nameNoSlash noSlash
  · obtain ⟨formatNoSlash, notDots⟩ := plainFormat isCursor format asked
    have endingSome : "." ++ format ≠ "" := by
      intro empty
      have letters := congrArg String.toList empty
      rw [String.toList_append] at letters
      cases letters
    have endingNoSlash : '/' ∉ ("." ++ format).toList := by
      rw [String.toList_append, List.mem_append, not_or]
      exact ⟨by decide, formatNoSlash⟩
    rw [endingEq]
    apply Path.isName_append nameSome endingSome nameNoSlash endingNoSlash
    intro up
    obtain ⟨dot, empty⟩ := Path.eq_dot_of_append nameSome up
    exact notDots empty dot

end FilesRules

/-- Without an override, the directory of the provider is the parent of a rule's file exactly when
the file's name, joined to it, leads to something right in it. It does, unless the name has a slash
from the document's id or from a format of Cursor, or is `..`, made of the rule's name and an empty
format. -/
theorem parent?_outputPath {provider : Provider} {ending : DestinationConfig → String}
    (filesRules : FilesRules provider ending) (files : FileTree) {request : WriteRequest}
    {root : Path} (base : request.destination = root.join provider.defaultDestination)
    (blank : ∀ text, request.config.outputOverride? = some text → Text.trimmed text = "") :
    let directory := request.destination.absolutize files.workingPath
    let name := ruleName request.document ++ ending request.config
    let path := provider.outputPath files request
    (path.parent? = some directory ↔
      ∃ last, ((request.destination.join name).absolutize files.workingPath).names =
        directory.names ++ [last]) ∧
    (((request.document.source.path.bind Path.fileName?).isSome = true ∨
        '/' ∉ request.document.source.id.toList) →
      (provider.id = "cursor" → ∀ format, request.config.format? = some format →
        '/' ∉ format.toList ∧ (format = "" → ruleName request.document ≠ ".")) →
      path.parent? = some directory) := by
  intro directory name path
  have absolute : files.workingPath.isAbsolute = true := Path.isAbsolute_ofNames _
  have pathEq : path = (request.destination.join name).absolutize files.workingPath :=
    filesRules.outputPath_eq files base blank
  have directoryNormal : directory.IsNormal := Path.isNormal_absolutize _ absolute
  have pathNormal : path.IsNormal := by
    rw [pathEq]
    exact Path.isNormal_absolutize _ absolute
  have parentIff : path.parent? = some directory ↔
      ∃ last, ((request.destination.join name).absolutize files.workingPath).names =
        directory.names ++ [last] := by
    rw [← pathEq]
    exact Path.parent?_eq_some_iff pathNormal directoryNormal
  refine ⟨parentIff, fun plainName plainFormat => parentIff.mpr ⟨name, ?_⟩⟩
  have isName : Path.IsName name := filesRules.isName_file plainName plainFormat
  exact Path.names_absolutize_join request.destination absolute isName

/-- A rule in the project at `/p`, of this document and for this provider. -/
def ruleRequest (provider : Provider) (source : DocumentSource) (config : DestinationConfig) :
    WriteRequest :=
  { document := { (noteRequest config).document with source }
    destination := (Path.mk "/p").join provider.defaultDestination
    config
    projectRoot := ⟨"/p"⟩ }

theorem cursor_rule_in_directory :
    let source : DocumentSource :=
      { id := "a/b", path := some ⟨"/p/docs/style.rules.md"⟩, contents := "" }
    let request := ruleRequest Cursor.provider source (formatConfig "md")
    FilesRules Cursor.provider (fun config => "." ++ Cursor.extension config.format?) ∧
    request.destination = (Path.mk "/p").join Cursor.provider.defaultDestination ∧
    (∀ text, request.config.outputOverride? = some text → Text.trimmed text = "") ∧
    (source.path.bind Path.fileName?).isSome = true ∧
    (∀ format, request.config.format? = some format →
      '/' ∉ format.toList ∧ (format = "" → ruleName request.document ≠ ".")) ∧
    (Cursor.provider.outputPath {} request).parent? =
      some (request.destination.absolutize ({} : FileTree).workingPath) := by
  intro source request
  have blank : ∀ text, request.config.outputOverride? = some text → Text.trimmed text = "" := nofun
  have plainName : (source.path.bind Path.fileName?).isSome = true := by decide +kernel
  have plainFormat : ∀ format, request.config.format? = some format →
      '/' ∉ format.toList ∧ (format = "" → ruleName request.document ≠ ".") := by
    intro format asked
    cases asked
    exact ⟨by decide, by decide⟩
  have base : request.destination = (Path.mk "/p").join Cursor.provider.defaultDestination := rfl
  exact ⟨.cursor, base, blank, plainName, plainFormat,
    (parent?_outputPath .cursor {} base blank).2 (Or.inl plainName) fun _ => plainFormat⟩

/-- An id may lead out of the directory of a provider, which refuses nothing here. -/
theorem cline_rule_outside_directory :
    let source : DocumentSource := { id := "../notes", contents := "" }
    let request := ruleRequest Cline.provider source {}
    request.destination = (Path.mk "/p").join Cline.provider.defaultDestination ∧
    request.config.outputOverride? = none ∧
    ensureCapabilities Cline.handshake (Cline.provider.target {} request) = .ok () ∧
    Cline.provider.outputPath {} request = ⟨"/p/notes.md"⟩ ∧
    (Cline.provider.outputPath {} request).parent? ≠
      some (request.destination.absolutize ({} : FileTree).workingPath) :=
  ⟨rfl, rfl, rfl, by decide +kernel, by decide +kernel⟩

/-! ### Modes -/

namespace RooCode

/-- A rule of a mode in the project at `root`. -/
structure InMode (root : Path) (mode : String) (request : WriteRequest) : Prop where
  base : request.destination = root.join provider.defaultDestination
  blank : ∀ text, request.config.outputOverride? = some text → Text.trimmed text = ""
  setting : ∃ text, (setting? request.config request.document "mode").bind Value.asString? =
    some text ∧ Text.trimmed text = mode
  named : (request.document.source.path.bind Path.fileName?).isSome = true

variable {root : Path} {mode : String}

theorem isName_roo : Path.IsName ".roo" := ⟨rfl, by decide, by decide⟩

theorem isName_rules_of_mode (isName : Path.IsName mode) : Path.IsName ("rules-" ++ mode) := by
  apply Path.isName_append (by decide) isName.ne_empty (by decide) isName.noSlash
  intro up
  have letters := congrArg (fun text => text.toList.head?) up
  rw [String.toList_append] at letters
  cases letters

/-- The directory of a mode lies in `.roo`, under a name that starts with `rules-`. -/
theorem modeBase_of_mode (absolute : root.isAbsolute = true) (isName : Path.IsName mode)
    {text : String} (isMode : Text.trimmed text = mode) :
    ∃ before, (modeBase (root.join ".roo/rules") (some text)).segments =
        before ++ ["rules-" ++ mode] ∧
      (modeBase (root.join ".roo/rules") (some text)).isAbsolute = true ∧
      (modeBase (root.join ".roo/rules") (some text)).names =
        root.names ++ [".roo", "rules-" ++ mode] := by
  have relative : ".roo/rules".toList.head? ≠ some '/' := by decide
  have rules : Path.IsName "rules" := ⟨rfl, by decide, by decide⟩
  have rulesOfMode := isName_rules_of_mode isName
  obtain ⟨before, segments, walked⟩ := Path.segments_join root relative
  have split : (root.join ".roo/rules").segments = (before ++ [".roo"]) ++ ["rules"] := by
    rw [segments, List.append_assoc]
    rfl
  obtain ⟨above, isParent, aboveAbsolute, aboveNames⟩ :=
    Path.parent?_of_segments (Path.isAbsolute_join absolute _) split nofun rules
  -- The parent of `.roo/rules` is taken as text, before `..` in the root is resolved.
  have baseEq : modeBase (root.join ".roo/rules") (some text) = above.join ("rules-" ++ mode) := by
    unfold modeBase
    rw [Option.map_some, isMode, Option.filter_some, if_pos (by simpa using isName.ne_empty)]
    dsimp only
    rw [isParent, Option.getD_some]
  obtain ⟨lead, joined, _⟩ := Path.segments_join above rulesOfMode.relative
  rw [baseEq]
  refine ⟨lead, ?_, Path.isAbsolute_join aboveAbsolute _, ?_⟩
  · rw [joined, rulesOfMode.pieces]
  · unfold Path.names at aboveNames ⊢
    rw [Path.foldl_walk_join_name above rulesOfMode, List.reverse_cons, aboveNames,
      List.foldl_append, walked, List.foldl_cons, List.foldl_nil, Path.walk_of_isName _ isName_roo,
      List.reverse_cons, List.append_assoc]
    rfl

theorem mem_dot_rules_of_mode : '.' ∈ ("rules-" ++ mode).toList.tail ↔ '.' ∈ mode.toList := by
  have noDot : '.' ∉ "ules-".toList := by decide
  have letters : ("rules-" ++ mode).toList.tail = "ules-".toList ++ mode.toList := by
    rw [String.toList_append]
    rfl
  rw [letters, List.mem_append]
  exact or_iff_right noDot

theorem InMode.isName_file {request : WriteRequest} (inMode : InMode root mode request) :
    Path.IsName (markdownName request.document) :=
  Path.isName_append_of_long (RuleName.stem_ne_empty _ _) (by decide)
    (RuleName.slash_not_mem_stem (Or.inl inMode.named)) (by decide)

theorem outputPath_inMode (absolute : root.isAbsolute = true) (isName : Path.IsName mode)
    (files : FileTree) {request : WriteRequest} (inMode : InMode root mode request) :
    provider.outputPath files request =
      Path.ofNames true (root.names ++ [".roo", "rules-" ++ mode] ++
        if '.' ∈ mode.toList then [] else [markdownName request.document]) := by
  obtain ⟨text, isSet, isMode⟩ := inMode.setting
  obtain ⟨before, segments, baseAbsolute, baseNames⟩ := modeBase_of_mode absolute isName isMode
  have looks := OutputPath.looksLikeDirectory_of_segments segments (isName_rules_of_mode isName)
  rw [mem_dot_rules_of_mode] at looks
  have pathEq : provider.outputPath files request =
      pathUnder (modeBase (root.join ".roo/rules") (some text)) request.config.outputOverride?
        (markdownName request.document) .lexical files := by
    rw [← isSet]
    exact congrArg (fun base => pathUnder (modeBase base _) _ _ .lexical files) inMode.base
  rw [pathEq, ← baseNames]
  by_cases dotted : '.' ∈ mode.toList
  · -- The dot starts an extension wherever it stands, since `rules-` comes before it.
    have looksLikeFile := Bool.eq_false_iff.mpr fun isDirectory => looks.mp isDirectory dotted
    rw [pathUnder_lexical_of_blank inMode.blank looksLikeFile, if_pos dotted, List.append_nil]
    exact Path.absolutize_of_isAbsolute baseAbsolute _
  · rw [pathUnder_of_blank inMode.blank (Or.inl (looks.mpr dotted)), if_neg dotted,
      ← Path.names_join _ inMode.isName_file]
    exact Path.absolutize_of_isAbsolute (Path.isAbsolute_join baseAbsolute _) _

theorem areNames_of_mode (root : Path) (isName : Path.IsName mode) :
    Path.AreNames (root.names ++ [".roo", "rules-" ++ mode]) := by
  have above := (Path.areNames_names root).concat isName_roo
  have areNames := above.concat (isName_rules_of_mode isName)
  rw [List.append_assoc] at areNames
  exact areNames

/-- The rules of a mode lie under names of their own in the mode's directory, unless the mode's name
has a dot: then the directory is taken for a file, and all rules of the mode go there. -/
theorem outputPath_of_mode (absolute : root.isAbsolute = true) (isName : Path.IsName mode)
    (files : FileTree) {request : WriteRequest} (inMode : InMode root mode request) :
    provider.outputPath files request =
      Path.ofNames true (root.names ++ [".roo", "rules-" ++ mode] ++
        if '.' ∈ mode.toList then [] else [ruleName request.document ++ ".md"]) ∧
    ∀ other, InMode root mode other → ruleName other.document ≠ ruleName request.document →
      (provider.outputPath files other ≠ provider.outputPath files request ↔
        '.' ∉ mode.toList) := by
  have pathEq := outputPath_inMode absolute isName files inMode
  refine ⟨pathEq, fun other otherInMode different => ?_⟩
  rw [pathEq, outputPath_inMode absolute isName files otherInMode]
  by_cases dotted : '.' ∈ mode.toList
  · rw [if_pos dotted, if_pos dotted]
    exact iff_of_false (fun apart => apart rfl) (fun absent => absent dotted)
  · rw [if_neg dotted, if_neg dotted]
    refine iff_of_true (fun same => different ?_) dotted
    have directory := areNames_of_mode root isName
    have names := Path.ofNames_injective (directory.concat otherInMode.isName_file)
      (directory.concat inMode.isName_file) same
    have files := List.singleton_inj.mp (List.append_cancel_left names)
    exact (String.append_left_inj ".md").mp files

/-- A rule in the project at `/p`, of the document at this path, whose mode is set. -/
def modeRequest (path mode : String) : WriteRequest :=
  ruleRequest provider { id := "", path := some ⟨path⟩, contents := "" }
    { fields := [("mode", .string mode)] }

theorem rules_of_review_apart :
    (Path.mk "/p").isAbsolute = true ∧ Path.IsName "review" ∧
    InMode ⟨"/p"⟩ "review" (modeRequest "/p/a.md" "review ") ∧
    InMode ⟨"/p"⟩ "review" (modeRequest "/p/b.md" "review") ∧
    provider.outputPath {} (modeRequest "/p/a.md" "review ") = ⟨"/p/.roo/rules-review/a.md"⟩ ∧
    provider.outputPath {} (modeRequest "/p/b.md" "review") ≠
      provider.outputPath {} (modeRequest "/p/a.md" "review ") := by
  have absolute : (Path.mk "/p").isAbsolute = true := by decide
  have isName : Path.IsName "review" := ⟨rfl, by decide, by decide⟩
  have first : InMode ⟨"/p"⟩ "review" (modeRequest "/p/a.md" "review ") :=
    ⟨rfl, nofun, ⟨"review ", rfl, by decide⟩, by decide +kernel⟩
  have second : InMode ⟨"/p"⟩ "review" (modeRequest "/p/b.md" "review") :=
    ⟨rfl, nofun, ⟨"review", rfl, by decide⟩, by decide +kernel⟩
  obtain ⟨pathEq, apartIff⟩ := outputPath_of_mode absolute isName {} first
  exact ⟨absolute, isName, first, second, pathEq.trans (by decide +kernel),
    (apartIff _ second (by decide +kernel)).mpr (by decide)⟩

/-- Two rules of a mode that is named like a version are written to one file. -/
theorem rules_of_version_in_one_file :
    Path.IsName "v1.2" ∧
    InMode ⟨"/p"⟩ "v1.2" (modeRequest "/p/a.md" "v1.2") ∧
    InMode ⟨"/p"⟩ "v1.2" (modeRequest "/p/b.md" "v1.2") ∧
    ruleName (modeRequest "/p/a.md" "v1.2").document = "a" ∧
    ruleName (modeRequest "/p/b.md" "v1.2").document = "b" ∧
    provider.outputPath {} (modeRequest "/p/a.md" "v1.2") = ⟨"/p/.roo/rules-v1.2"⟩ ∧
    provider.outputPath {} (modeRequest "/p/b.md" "v1.2") = ⟨"/p/.roo/rules-v1.2"⟩ :=
  ⟨⟨rfl, by decide, by decide⟩, ⟨rfl, nofun, ⟨"v1.2", rfl, by decide⟩, by decide +kernel⟩,
    ⟨rfl, nofun, ⟨"v1.2", rfl, by decide⟩, by decide +kernel⟩, by decide +kernel,
    by decide +kernel, by decide +kernel, by decide +kernel⟩

end RooCode

end Provider

end RuleCompiler
