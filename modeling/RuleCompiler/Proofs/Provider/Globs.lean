import RuleCompiler.Proofs.KeyedList
import RuleCompiler.Proofs.Provider.Agreement
import RuleCompiler.Proofs.Text.Blank
import RuleCompiler.Proofs.Text.Piece

/-!
Patterns as a list or as one text with commas. The two are cut differently where a pattern has a
comma itself, but the providers look only at the patterns joined again and at whether there are any.
So requests that differ in nothing else are compiled alike.
-/

namespace RuleCompiler.Provider

/-! ### Joining and cutting -/

/-- A pattern between commas: not empty, and without blanks around it. -/
structure IsPattern (segment : String) : Prop where
  nonempty : segment ≠ ""
  starts : Text.StartsClear segment.toList
  ends : Text.EndsClear segment.toList

instance (segment : String) : Decidable (IsPattern segment) :=
  decidable_of_iff
    (segment ≠ "" ∧ Text.StartsClear segment.toList ∧ Text.EndsClear segment.toList)
    ⟨fun ⟨nonempty, starts, ends⟩ => ⟨nonempty, starts, ends⟩,
      fun isPattern => ⟨isPattern.nonempty, isPattern.starts, isPattern.ends⟩⟩

theorem IsPattern.trimmed {segment : String} (isPattern : IsPattern segment) :
    Text.trimmed segment = segment := by
  have kept : Text.trim ([] ++ segment.toList ++ []) = segment.toList :=
    Text.trim_of_clear (fun _ => nofun) isPattern.starts isPattern.ends fun _ => nofun
  rw [List.nil_append, List.append_nil] at kept
  rw [Text.trimmed, kept, String.ofList_toList]

theorem intercalate_pieces (text : String) : ",".intercalate (Text.pieces ',' text) = text := by
  have backAndForth : String.toList ∘ String.ofList = fun letters => letters :=
    funext fun _ => String.toList_ofList
  apply String.toList_injective
  rw [String.toList_intercalate, Text.pieces, List.map_map, backAndForth, List.map_id']
  exact Text.intercalate_splitOn ',' text.toList

theorem pieces_intercalate {globs : List String} (nonempty : globs ≠ []) :
    Text.pieces ',' (",".intercalate globs) = globs.flatMap (Text.pieces ',') := by
  have letters : (",".intercalate globs).toList = [','].intercalate (globs.map String.toList) :=
    String.toList_intercalate
  rw [Text.pieces, letters,
    Text.splitOn_intercalate_flatMap (mt List.map_eq_nil_iff.mp nonempty), List.flatMap_map,
    List.map_flatMap]
  rfl

theorem textList_text {text : String}
    (clean : ∀ segment ∈ Text.pieces ',' text, IsPattern segment) :
    textList (some (.string text)) = Text.pieces ',' text := by
  have untouched : (Text.pieces ',' text).map Text.trimmed = Text.pieces ',' text := by
    rw [List.map_congr_left fun segment member => (clean segment member).trimmed, List.map_id']
  unfold textList
  dsimp only
  rw [untouched, List.filter_eq_self]
  exact fun segment member => decide_eq_true (clean segment member).nonempty

theorem textList_array (texts : List String) : textList (some (.ofStrings texts)) = texts := by
  unfold textList Value.ofStrings Value.strings
  dsimp only
  induction texts with
  | nil => rfl
  | cons text rest ih =>
      have isText : Value.asString? (.string text) = some text := rfl
      rw [List.map_cons, List.filterMap_cons_some isText, ih]

/-- Two lists of patterns that no provider tells apart. -/
structure SameGlobs (first second : List String) : Prop where
  empty : first.isEmpty = second.isEmpty
  joined : ",".intercalate first = ",".intercalate second

theorem SameGlobs.refl (globs : List String) : SameGlobs globs globs :=
  ⟨rfl, rfl⟩

theorem sameGlobs_joined {globs : List String} (nonempty : globs ≠ [])
    (clean : ∀ glob ∈ globs, ∀ segment ∈ Text.pieces ',' glob, IsPattern segment) :
    SameGlobs (textList (some (.ofStrings globs)))
      (textList (some (.string (",".intercalate globs)))) := by
  have cleanJoined : ∀ segment ∈ Text.pieces ',' (",".intercalate globs), IsPattern segment := by
    intro segment member
    rw [pieces_intercalate nonempty] at member
    obtain ⟨glob, inside, inGlob⟩ := List.mem_flatMap.mp member
    exact clean glob inside segment inGlob
  have piecesNonempty : Text.pieces ',' (",".intercalate globs) ≠ [] := by
    unfold Text.pieces
    exact mt List.map_eq_nil_iff.mp (Text.splitOn_ne_nil ',' _)
  rw [textList_array, textList_text cleanJoined]
  constructor
  · rw [List.isEmpty_eq_false_iff.mpr nonempty, List.isEmpty_eq_false_iff.mpr piecesNonempty]
  · exact (intercalate_pieces (",".intercalate globs)).symm

/-! ### Requests that differ in how the patterns are given -/

/-- All that the providers look at is the same, and the patterns are not told apart. -/
structure AlikeButGlobs (first second : WriteRequest) : Prop where
  source : first.document.source = second.document.source
  content : first.document.content = second.document.content
  destination : first.destination = second.destination
  configured : ∀ key, key ≠ "globs" → first.config.get? key = second.config.get? key
  given : (first.config.get? "globs").isSome = (second.config.get? "globs").isSome
  settings : ∀ key, key ≠ "globs" →
    setting? first.config first.document key = setting? second.config second.document key
  globs : SameGlobs (textList (setting? first.config first.document "globs"))
    (textList (setting? second.config second.document "globs"))

namespace AlikeButGlobs

variable {first second : WriteRequest}

theorem config_string? (alike : AlikeButGlobs first second) {key : String} (other : key ≠ "globs") :
    first.config.string? key = second.config.string? key := by
  rw [DestinationConfig.string?, DestinationConfig.string?, alike.configured key other]

theorem format? (alike : AlikeButGlobs first second) :
    first.config.format? = second.config.format? :=
  alike.config_string? (by decide)

theorem outputPathFor (alike : AlikeButGlobs first second) (fallback : String)
    (check : DirectoryCheck) (files : FileTree) :
    Provider.outputPathFor first fallback check files =
      Provider.outputPathFor second fallback check files := by
  have override : first.config.outputOverride? = second.config.outputOverride? :=
    alike.config_string? (by decide)
  rw [Provider.outputPathFor, Provider.outputPathFor, alike.destination, override]

theorem ruleName (alike : AlikeButGlobs first second) :
    Provider.ruleName first.document = Provider.ruleName second.document := by
  rw [Provider.ruleName, Provider.ruleName, alike.source]

/-! #### Cursor -/

theorem cursor_target (alike : AlikeButGlobs first second) (files : FileTree) :
    Cursor.provider.target files first = Cursor.provider.target files second := by
  unfold target Cursor.provider Cursor.requested
  dsimp only
  rw [alike.outputPathFor, alike.ruleName, alike.format?, alike.given]

theorem cursor_entries (alike : AlikeButGlobs first second) :
    Cursor.entries first.config first.document = Cursor.entries second.config second.document := by
  unfold Cursor.entries
  dsimp only
  rw [alike.settings "alwaysApply" (by decide), alike.settings "description" (by decide),
    alike.globs.empty, alike.globs.joined]

/-! #### Windsurf -/

theorem windsurf_target (alike : AlikeButGlobs first second) (files : FileTree) :
    Windsurf.provider.target files first = Windsurf.provider.target files second := by
  unfold target Windsurf.provider Windsurf.isXml
  dsimp only
  rw [alike.outputPathFor, alike.ruleName, alike.format?]

theorem windsurf_contents (alike : AlikeButGlobs first second) :
    Windsurf.contents first.config first.document =
      Windsurf.contents second.config second.document := by
  unfold Windsurf.contents Windsurf.isXml Windsurf.xmlText Windsurf.markdownText Windsurf.trigger
  dsimp only
  rw [alike.settings "trigger" (by decide), alike.globs.empty, alike.globs.joined, alike.format?,
    alike.content]

/-! #### GitHub Copilot -/

theorem copilot_target (alike : AlikeButGlobs first second) (files : FileTree) :
    Copilot.provider.target files first = Copilot.provider.target files second := by
  unfold target Copilot.provider
  dsimp only
  rw [alike.outputPathFor, alike.ruleName, alike.format?]

theorem copilot_appliesTo (alike : AlikeButGlobs first second) :
    Copilot.appliesTo first.config first.document =
      Copilot.appliesTo second.config second.document := by
  have empty := alike.globs.empty
  have joined := alike.globs.joined
  unfold Copilot.appliesTo
  rw [alike.settings "applyTo" (by decide)]
  generalize textList (setting? first.config first.document "globs") = left at *
  generalize textList (setting? second.config second.document "globs") = right at *
  cases left with
  | nil =>
      rw [List.isEmpty_iff.mp empty.symm]
  | cons glob rest =>
      cases right with
      | nil => cases empty
      | cons other others =>
          dsimp only
          rw [joined]

end AlikeButGlobs

theorem IsRuleFile.compile_congr {provider : Provider} {mode : WriteMode}
    {contents : DestinationConfig → CompiledDocument → String}
    (ruleFile : IsRuleFile provider mode contents) {first second : WriteRequest}
    {workspace : Workspace}
    (sameTarget : provider.target workspace.files first = provider.target workspace.files second)
    (sameContents : contents first.config first.document = contents second.config second.document) :
    (provider.compile (provider.compileRequest workspace.files first)).run workspace =
      (provider.compile (provider.compileRequest workspace.files second)).run workspace := by
  rw [ruleFile.compile_run, ruleFile.compile_run, sameTarget, sameContents]

/-- The providers that look at patterns. -/
def patterned : List Provider :=
  [Cursor.provider, Windsurf.provider, Copilot.provider]

theorem AlikeButGlobs.compile_eq {first second : WriteRequest} (alike : AlikeButGlobs first second)
    {provider : Provider} (member : provider ∈ patterned) (workspace : Workspace) :
    (provider.compile (provider.compileRequest workspace.files first)).run workspace =
      (provider.compile (provider.compileRequest workspace.files second)).run workspace := by
  simp only [patterned, List.mem_cons, List.not_mem_nil, or_false] at member
  rcases member with rfl | rfl | rfl
  · apply Cursor.isRuleFile.compile_congr (alike.cursor_target workspace.files)
    rw [alike.cursor_entries, alike.content]
  · exact Windsurf.isRuleFile.compile_congr (alike.windsurf_target workspace.files)
      alike.windsurf_contents
  · apply Copilot.isRuleFile.compile_congr (alike.copilot_target workspace.files)
    rw [alike.copilot_appliesTo, alike.content]

/-! ### Where the patterns are given -/

/-- The request with these patterns in its configuration. -/
def configured (request : WriteRequest) (globs : Value) : WriteRequest :=
  { request with config := { fields := request.config.fields.insert "globs" globs } }

/-- The request for a document whose frontmatter has these fields and patterns. -/
def described (request : WriteRequest) (fields : Fields) (globs : Value) : WriteRequest :=
  let frontmatter := Value.object (fields.insert "globs" globs)
  { request with
    document :=
      { request.document with metadata := { request.document.metadata with frontmatter } } }

theorem alike_configured (request : WriteRequest) {first second : Value}
    (same : SameGlobs (textList (some first)) (textList (some second))) :
    AlikeButGlobs (configured request first) (configured request second) := by
  have atGlobs : ∀ globs, (configured request globs).config.get? "globs" = some globs :=
    fun globs => KeyedList.get?_insert_self _ _ globs
  have elsewhere : ∀ key, key ≠ "globs" →
      (configured request first).config.get? key = (configured request second).config.get? key :=
    fun key other => KeyedList.get?_insert_either request.config.fields other.symm first second
  constructor
  case source => rfl
  case content => rfl
  case destination => rfl
  case configured => exact elsewhere
  case given => rw [atGlobs, atGlobs, Option.isSome_some, Option.isSome_some]
  case settings =>
    intro key other
    unfold setting?
    rw [elsewhere key other]
    rfl
  case globs =>
    unfold setting?
    rw [atGlobs, atGlobs]
    exact same

theorem alike_described (request : WriteRequest) (fields : Fields) {first second : Value}
    (same : SameGlobs (textList (some first)) (textList (some second))) :
    AlikeButGlobs (described request fields first) (described request fields second) := by
  have atGlobs : ∀ globs,
      (described request fields globs).document.metadata.frontmatter.get? "globs" = some globs :=
    fun globs => KeyedList.get?_insert_self _ _ globs
  have elsewhere : ∀ key, key ≠ "globs" →
      (described request fields first).document.metadata.frontmatter.get? key =
        (described request fields second).document.metadata.frontmatter.get? key :=
    fun key other => KeyedList.get?_insert_either fields other.symm first second
  have sameConfig : (described request fields first).config =
      (described request fields second).config := rfl
  constructor
  case source => rfl
  case content => rfl
  case destination => rfl
  case configured => exact fun key _ => rfl
  case given => rfl
  case settings =>
    intro key other
    unfold setting?
    rw [elsewhere key other, sameConfig]
  case globs =>
    unfold setting?
    rw [sameConfig, atGlobs, atGlobs]
    cases (described request fields second).config.get? "globs" with
    | none => exact same
    | some configured => exact SameGlobs.refl _

/-- A list of patterns and the text that joins them by commas are compiled alike, in the
configuration and in the frontmatter, also where the patterns have commas themselves. -/
theorem compile_globs_joined {provider : Provider} (member : provider ∈ patterned)
    {globs : List String} (nonempty : globs ≠ [])
    (clean : ∀ glob ∈ globs, ∀ segment ∈ Text.pieces ',' glob, IsPattern segment)
    (request : WriteRequest) (fields : Fields) (workspace : Workspace) :
    let compiled := fun request =>
      (provider.compile (provider.compileRequest workspace.files request)).run workspace
    let listed := Value.ofStrings globs
    let joined := Value.string (",".intercalate globs)
    compiled (configured request listed) = compiled (configured request joined) ∧
      compiled (described request fields listed) = compiled (described request fields joined) := by
  have same := sameGlobs_joined nonempty clean
  exact ⟨(alike_configured request same).compile_eq member workspace,
    (alike_described request fields same).compile_eq member workspace⟩

/-- Braces with commas inside, as patterns often have them. -/
def braceGlobs : List String :=
  ["src/\x7ba,b\x7d/**", "*.rs"]

theorem compile_brace_globs_joined :
    Cursor.provider ∈ patterned ∧ braceGlobs ≠ [] ∧
    (∀ glob ∈ braceGlobs, ∀ segment ∈ Text.pieces ',' glob, IsPattern segment) ∧
    let compiled := fun request : WriteRequest =>
      (Cursor.provider.compile (Cursor.provider.compileRequest {} request)).run {}
    let listed := Value.ofStrings braceGlobs
    let joined := Value.string "src/\x7ba,b\x7d/**,*.rs"
    compiled (configured (noteRequest {}) listed) = compiled (configured (noteRequest {}) joined) ∧
      compiled (described (noteRequest {}) [] listed) =
        compiled (described (noteRequest {}) [] joined) := by
  have member : Cursor.provider ∈ patterned := List.mem_cons_self
  have nonempty : braceGlobs ≠ [] := by decide
  have clean : ∀ glob ∈ braceGlobs, ∀ segment ∈ Text.pieces ',' glob, IsPattern segment := by
    decide
  exact ⟨member, nonempty, clean,
    compile_globs_joined member nonempty clean (noteRequest {}) [] {}⟩

end RuleCompiler.Provider
