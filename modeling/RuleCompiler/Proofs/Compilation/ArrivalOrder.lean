import RuleCompiler.Proofs.Artifact.InTurn
import RuleCompiler.Proofs.Collection.Permutation
import RuleCompiler.Proofs.Compilation.Delivery
import RuleCompiler.Proofs.Compilation.Run
import RuleCompiler.Proofs.Path.Label
import RuleCompiler.Proofs.Provider.Accounting

/-!
Documents that are merged into one file, in two orders. The texts that are written depend on the
order, but at the end the file holds all documents, or the placeholder when the last one does not
emit; so two orders leave the same files exactly if their last documents agree on that.
-/

namespace RuleCompiler

theorem Provider.AgentsMd.tellsSilence_style : style.TellsSilence := by
  intro collection same
  have heading : Text.trimmedEnd "# AGENTS.md" = "# AGENTS.md" := by decide
  have letters := congrArg (fun text => text.toList.head?) same
  unfold Collection.text style at letters
  dsimp only at letters
  rw [heading] at letters
  simp only [String.toList_append, String.append_assoc] at letters
  cases letters

namespace Compiler

structure Arrival where
  run : RunStamp
  document : Document

/-- Compile documents for the merged file, one after the other. -/
def compileInTurn (compiler : Compiler) (project : ProjectConfig) (options : CompileOptions) :
    (arrivals : List Arrival) → Action TotalFailure (List Report)
  | [] => return []
  | arrival :: rest => do
      let report ← compiler.compile arrival.run arrival.document (.only ["agents-md"]) project
        options
      return report :: (← compileInTurn compiler project options rest)

/-- What a document submits to the merged file when its body is no template. -/
def submission (project : ProjectConfig) (document : Document) : Submission :=
  { source := document.source
    contents := document.source.contents
    diagnostics := []
    emit := Provider.AgentsMd.emits
      (DestinationConfig.resolve "agents-md" document.frontmatter project) }

variable {compiler : Compiler} {project : ProjectConfig} {options : CompileOptions}

theorem eq_agentsMd (builtin : compiler.registry = Registry.builtin) {provider : Provider}
    (found : compiler.registry.get? "agents-md" = some provider) :
    provider = Provider.AgentsMd.provider := by
  have member := mem_builtin builtin found
  have named : provider.id = "agents-md" := Registry.id_of_get? found
  simp only [Provider.builtin, List.mem_cons, List.not_mem_nil, or_false] at member
  rcases member with rfl | rfl | rfl | rfl | rfl | rfl | rfl | rfl
  all_goals first
    | rfl
    | exact absurd named (by decide)

private theorem delivered_of_compile_ok {run : RunStamp} {document : Document}
    {workspace after : Workspace} {report : Report}
    (ran : (compiler.compile run document (.only ["agents-md"]) project options).run workspace =
      (.ok report, after)) :
    ∃ log delivery delivered,
      (compiler.compileFor run document project options "agents-md").run
        { workspace := { workspace with log } } = (.ok delivery, delivered) ∧
      report.results = [{ destinationId := "agents-md", delivery := .ok delivery }] ∧
      after.Alike delivered.workspace := by
  have notFailed := not_failed_of_compile_ok compiler run document project options ran
  obtain ⟨log, opened⟩ := compile_run compiler run document project options (.only ["agents-md"])
    workspace
  obtain ⟨results, alike⟩ := opened _ rfl
  rw [ran] at results alike
  have only : compiler.destinations document project (.only ["agents-md"]) = ["agents-md"] := rfl
  rw [only, resultsFor_cons] at results alike
  dsimp only at results alike
  rcases delivering : (compiler.compileFor run document project options "agents-md").run
    { workspace := { workspace with log } } with ⟨delivery, delivered⟩
  rw [delivering] at results alike
  have logged := onlyLogs_tellResult compiler run document.label
    { destinationId := "agents-md", delivery } delivered.workspace
  have reported : report.results = [{ destinationId := "agents-md", delivery }] := results
  cases delivery with
  | error cause =>
      rw [reported] at notFailed
      exact absurd rfl (notFailed 1)
  | ok delivery => exact ⟨log, delivery, delivered, delivering, reported, alike.trans logged⟩

theorem compile_agentsMd (builtin : compiler.registry = Registry.builtin) {run : RunStamp}
    {document : Document}
    (plain : (Templating.decide none document.frontmatter project).enabled = false)
    {workspace after : Workspace} {report : Report}
    (ran : (compiler.compile run document (.only ["agents-md"]) project options).run workspace =
      (.ok report, after)) :
    ∃ artifact updated, (∃ result ∈ report.results, artifact ∈ result.written) ∧
      updated = (workspace.collected .agentsMd).submit workspace.files.workingPath
        compiler.projectRoot (submission project document) ∧
      artifact.path.IsNormal ∧
      Persist.outcome workspace.files artifact.path
        (updated.merged Provider.AgentsMd.style (submission project document).emit).contents
        .atomic = (.ok artifact, after.files) ∧
      after.collected .agentsMd = updated := by
  obtain ⟨log, delivery, delivered, delivering, reported, alike⟩ := delivered_of_compile_ok ran
  rcases compileFor_cases (.ofPlain builtin plain) delivering with
    ⟨_, _, failed⟩ | ⟨provider, told, found, ⟨_, _, failed⟩ |
      ⟨content, answer, written, rendered, wrote, isAnswer, isAfter⟩⟩
  · cases failed
  · cases failed
  · have isAgentsMd := eq_agentsMd builtin found
    subst isAgentsMd
    rw [contentWith_of_plain run options (mem_builtin builtin found) plain] at rendered
    cases rendered
    let request := compiler.writeRequest workspace.files.workingPath document
      (settled Provider.AgentsMd.provider document project) document.source.contents
    let path := Provider.AgentsMd.outputPath workspace.files request
    let updated := (workspace.collected .agentsMd).submit workspace.files.workingPath
      compiler.projectRoot (submission project document)
    rcases persisted : Persist.outcome workspace.files path
        (updated.merged Provider.AgentsMd.style (submission project document).emit).contents
        .atomic with ⟨outcome, files⟩
    obtain ⟨writeLog, writeRan⟩ := Provider.AgentsMd.write_run request
      { workspace with log := told } persisted
    have sameRun := wrote.symm.trans writeRan
    cases sameRun
    cases outcome with
    | error cause => cases isAnswer
    | ok artifact =>
        cases isAnswer
        have isPath := Persist.path_of_outcome persisted
        refine ⟨artifact, updated, ?_, rfl, ?_, ?_, ?_⟩
        · rw [reported]
          exact ⟨_, List.mem_cons_self, List.mem_cons_self⟩
        · rw [isPath]
          exact Provider.isNormal_pathUnder _ _ _ _ _
        · rw [isPath, persisted, alike.files, isAfter]
        · rw [alike.collected, isAfter]
          exact Provider.collectedWith_self .agentsMd request.document request.projectRoot
            { workspace with log := told }

theorem compileInTurn_persists (builtin : compiler.registry = Registry.builtin)
    {arrivals : List Arrival}
    (plain : ∀ arrival ∈ arrivals,
      (Templating.decide none arrival.document.frontmatter project).enabled = false)
    {workspace after : Workspace} {reports : List Report}
    (ran : (compileInTurn compiler project options arrivals).run workspace = (.ok reports, after))
    {path : Path}
    (onePath : ∀ report ∈ reports, ∀ result ∈ report.results, ∀ artifact ∈ result.written,
      artifact.path = path) :
    (arrivals ≠ [] → path.IsNormal) ∧
      Persist.InTurn path workspace.files
        ((Collection.answers Provider.AgentsMd.style workspace.files.workingPath
          compiler.projectRoot (workspace.collected .agentsMd)
          (arrivals.map fun arrival => submission project arrival.document)).map
            MergedOutput.contents) after.files := by
  induction arrivals generalizing workspace reports with
  | nil =>
      cases ran
      exact ⟨fun some => absurd rfl some, .nil _⟩
  | cons arrival rest ih =>
      unfold compileInTurn at ran
      rcases compiled : (compiler.compile arrival.run arrival.document (.only ["agents-md"])
        project options).run workspace with ⟨failure | report, middle⟩
      · rw [run_bind_error compiled] at ran
        cases ran
      · rw [run_bind_ok compiled, run_bind_pure] at ran
        rcases onward : (compileInTurn compiler project options rest).run middle with
          ⟨failure | later, final⟩
        · rw [onward] at ran
          cases ran
        · rw [onward] at ran
          cases ran
          have isPlain := plain arrival List.mem_cons_self
          obtain ⟨artifact, updated, ⟨result, inside, written⟩, isUpdated, normal, persisted,
            collected⟩ := compile_agentsMd builtin isPlain compiled
          have isPath := onePath report List.mem_cons_self result inside artifact written
          have sameDirectory : middle.files.workingPath = workspace.files.workingPath :=
            congrArg (Path.ofNames true) (Persist.workingDirectory_outcome persisted)
          have plainRest : ∀ other ∈ rest,
              (Templating.decide none other.document.frontmatter project).enabled = false :=
            fun other member => plain other (List.mem_cons_of_mem arrival member)
          have onePathRest : ∀ report ∈ later, ∀ result ∈ report.results,
              ∀ artifact ∈ result.written, artifact.path = path :=
            fun other member => onePath other (List.mem_cons_of_mem report member)
          obtain ⟨_, ranRest⟩ := ih plainRest onward onePathRest
          rw [sameDirectory, collected] at ranRest
          rw [isPath] at normal persisted
          refine ⟨fun _ => normal, ?_⟩
          rw [List.map_cons, Collection.answers, List.map_cons, ← isUpdated]
          exact .cons persisted ranRest

/-- The texts that a run over fresh collections hands out. -/
def handedOut (compiler : Compiler) (project : ProjectConfig) (files : FileTree)
    (arrivals : List Arrival) : List String :=
  Collection.texts Provider.AgentsMd.style files.workingPath compiler.projectRoot
    (arrivals.map fun arrival => submission project arrival.document)

def emitsLast (project : ProjectConfig) (arrivals : List Arrival) : Option Bool :=
  arrivals.getLast?.map fun arrival => (submission project arrival.document).emit

theorem ownLabels_of_paths (compiler : Compiler) (project : ProjectConfig) (files : FileTree)
    {arrivals : List Arrival}
    (located : ∀ arrival ∈ arrivals, arrival.document.source.path.isSome = true)
    (distinct : (arrivals.map fun arrival =>
      arrival.document.source.path.map files.absolutize).Nodup) :
    Collection.OwnLabels files.workingPath compiler.projectRoot
      (arrivals.map fun arrival => submission project arrival.document) := by
  constructor
  · intro submitted member
    obtain ⟨arrival, inside, rfl⟩ := List.mem_map.mp member
    exact Or.inl (located arrival inside)
  · rw [List.map_map]
    rw [List.Nodup, List.pairwise_map] at distinct ⊢
    apply distinct.imp_of_mem
    intro first second firstInside secondInside different same
    obtain ⟨firstPath, isFirst⟩ := Option.isSome_iff_exists.mp (located first firstInside)
    obtain ⟨secondPath, isSecond⟩ := Option.isSome_iff_exists.mp (located second secondInside)
    have labels : firstPath.relativeLabel files.workingPath compiler.projectRoot =
        secondPath.relativeLabel files.workingPath compiler.projectRoot := by
      simp only [Function.comp_apply, Submission.label?, submission, DocumentSource.ownLabel?,
        isFirst, isSecond, Option.some.injEq] at same
      exact same
    rw [isFirst, isSecond] at different
    apply different
    have absolute : files.workingPath.isAbsolute = true :=
      Path.isAbsolute_ofNames files.workingDirectory
    exact congrArg some (Path.absolutize_eq_of_relativeLabel absolute labels)

private theorem allThere_of_perm {first second : List Submission} {files : FileTree} {path : Path}
    {workingDirectory root : Path}
    (own : Collection.OwnLabels workingDirectory root first) (perm : first.Perm second)
    (allThere : Persist.AllThere files path
      (Collection.texts Provider.AgentsMd.style workingDirectory root first)) :
    Persist.AllThere files path
      (Collection.texts Provider.AgentsMd.style workingDirectory root second) := by
  intro text member
  have positive := List.length_pos_of_mem member
  rw [Collection.length_texts, ← perm.length_eq,
    ← Collection.length_texts Provider.AgentsMd.style workingDirectory root] at positive
  obtain ⟨shared, inside⟩ := List.exists_mem_of_length_pos positive
  have alike : ∀ other ∈ Collection.texts Provider.AgentsMd.style workingDirectory root first,
      other = shared := fun other otherInside => allThere.eq allThere otherInside inside
  rw [own.texts_alike_perm Provider.AgentsMd.tellsSilence_style perm alike text member]
  exact allThere shared inside

/-- The documents of a project, compiled to one merged file in two orders: the files at the end are
the same exactly if both or neither of the last documents emit. -/
theorem compileInTurn_files_eq_iff (compiler : Compiler)
    (builtin : compiler.registry = Registry.builtin) (project : ProjectConfig) (options : CompileOptions) (files : FileTree)
    (rooted : files.Rooted) (first second : List Arrival)
    (sameDocuments : (first.map Arrival.document).Perm (second.map Arrival.document))
    (located : ∀ arrival ∈ first, arrival.document.source.path.isSome = true)
    (distinct : (first.map fun arrival =>
      arrival.document.source.path.map files.absolutize).Nodup)
    (plain : ∀ arrival ∈ first,
      (Templating.decide none arrival.document.frontmatter project).enabled = false)
    (firstReports secondReports : List Report) (firstAfter secondAfter : Workspace)
    (firstRan : (compileInTurn compiler project options first).run { files } =
      (.ok firstReports, firstAfter))
    (secondRan : (compileInTurn compiler project options second).run { files } =
      (.ok secondReports, secondAfter))
    (path : Path)
    (onePath : ∀ report ∈ firstReports ++ secondReports, ∀ result ∈ report.results,
      ∀ artifact ∈ result.written, artifact.path = path)
    (apart : Sha256.TellsApart (Persist.textsAt files path ++
      (handedOut compiler project files first ++ handedOut compiler project files second))) :
    firstAfter.files = secondAfter.files ↔ emitsLast project first = emitsLast project second := by
  have perm : (first.map fun arrival => submission project arrival.document).Perm
      (second.map fun arrival => submission project arrival.document) := by
    have submitted := sameDocuments.map (submission project)
    rw [List.map_map, List.map_map] at submitted
    exact submitted
  have plainSecond : ∀ arrival ∈ second,
      (Templating.decide none arrival.document.frontmatter project).enabled = false := by
    intro arrival member
    have inside := sameDocuments.mem_iff.mpr (List.mem_map_of_mem member)
    obtain ⟨other, otherInside, same⟩ := List.mem_map.mp inside
    rw [← same]
    exact plain other otherInside
  obtain ⟨normal, firstPersists⟩ := compileInTurn_persists builtin plain firstRan
    fun report member => onePath report (List.mem_append_left _ member)
  obtain ⟨_, secondPersists⟩ := compileInTurn_persists builtin plainSecond secondRan
    fun report member => onePath report (List.mem_append_right _ member)
  have own := ownLabels_of_paths compiler project files located distinct
  have tells := Provider.AgentsMd.tellsSilence_style
  have lastTexts : (handedOut compiler project files first).getLast? =
      (handedOut compiler project files second).getLast? ↔
        emitsLast project first = emitsLast project second := by
    have iff := own.getLast?_texts_iff tells perm
    rw [List.getLast?_map, List.getLast?_map, Option.map_map, Option.map_map] at iff
    exact iff
  rw [← lastTexts]
  by_cases empty : first = []
  · subst empty
    have alsoEmpty : second = [] := List.map_eq_nil_iff.mp sameDocuments.nil_eq.symm
    subst alsoEmpty
    cases firstRan
    cases secondRan
    exact iff_of_true rfl rfl
  · apply Persist.InTurn.files_eq_iff (normal empty) rooted apart firstPersists secondPersists
    · unfold handedOut
      rw [Collection.length_texts, Collection.length_texts, perm.length_eq]
    · constructor
      · exact allThere_of_perm own perm
      · exact allThere_of_perm (own.perm perm) perm.symm

/-! ### Notes in two orders -/

def notesProject : Compiler :=
  Compiler.forProject Registry.builtin {} ⟨"/p"⟩ ⟨"/p"⟩

def notesFiles : FileTree where
  workingDirectory := ["p"]

/-- The notes compiled in a project without files. The proofs below evaluate this in the kernel
only. -/
@[irreducible]
def notesRun (arrivals : List Arrival) : Except TotalFailure (List Report) × Workspace :=
  (compileInTurn notesProject {} {} arrivals).run { files := notesFiles }

theorem notesRun_eq (arrivals : List Arrival) :
    (compileInTurn notesProject {} {} arrivals).run { files := notesFiles } =
      notesRun arrivals := by
  rw [notesRun]

def note (name body : String) (options : Fields) : Arrival where
  run := ⟨name, "2024-05-01T10:00:00"⟩
  document :=
    { source := { id := name, path := some ⟨"/p/" ++ name⟩, contents := body }
      metadata := { frontmatter := .object [("agents-md", .object options)] } }

def alpha : Arrival := note "a.md" "Alpha" []

def alphaElsewhere : Arrival := note "a.md" "Alpha" [("outputPath", .string "TEAM.md")]

def beta : Arrival := note "b.md" "Beta" []

def betaSilent : Arrival := note "b.md" "Beta" [("emit", .bool false)]

theorem builtin_notesProject : notesProject.registry = Registry.builtin := by
  unfold notesProject
  dsimp only [forProject]

def allReport (path : Path) : Except TotalFailure (List Report) → Bool
  | .error _ => false
  | .ok reports => reports.all fun report => report.results.all fun result =>
      result.written.all fun artifact => artifact.path = path

theorem exists_of_allReport {path : Path} {answer : Except TotalFailure (List Report)}
    (reported : allReport path answer = true) :
    ∃ reports, answer = .ok reports ∧ ∀ report ∈ reports, ∀ result ∈ report.results,
      ∀ artifact ∈ result.written, artifact.path = path := by
  cases answer with
  | error failure => cases reported
  | ok reports =>
      refine ⟨reports, rfl, ?_⟩
      intro report isReport result isResult artifact isArtifact
      have inReport := List.all_eq_true.mp reported report isReport
      have inResult := List.all_eq_true.mp inReport result isResult
      exact of_decide_eq_true (List.all_eq_true.mp inResult artifact isArtifact)

theorem swapped_notes_leave_same_files :
    (notesRun [alpha, beta]).2.files = (notesRun [beta, alpha]).2.files := by
  have firstReported : allReport ⟨"/p/AGENTS.md"⟩ (notesRun [alpha, beta]).1 = true := by
    decide +kernel
  have secondReported : allReport ⟨"/p/AGENTS.md"⟩ (notesRun [beta, alpha]).1 = true := by
    decide +kernel
  obtain ⟨firstReports, firstAnswer, firstPath⟩ := exists_of_allReport firstReported
  obtain ⟨secondReports, secondAnswer, secondPath⟩ := exists_of_allReport secondReported
  have firstRan : (compileInTurn notesProject {} {} [alpha, beta]).run { files := notesFiles } =
      (.ok firstReports, (notesRun [alpha, beta]).2) := by
    rw [notesRun_eq, ← firstAnswer]
  have secondRan : (compileInTurn notesProject {} {} [beta, alpha]).run { files := notesFiles } =
      (.ok secondReports, (notesRun [beta, alpha]).2) := by
    rw [notesRun_eq, ← secondAnswer]
  have onePath : ∀ report ∈ firstReports ++ secondReports, ∀ result ∈ report.results,
      ∀ artifact ∈ result.written, artifact.path = ⟨"/p/AGENTS.md"⟩ := by
    intro report member
    rcases List.mem_append.mp member with inFirst | inSecond
    · exact firstPath report inFirst
    · exact secondPath report inSecond
  have apart : Sha256.TellsApart (Persist.textsAt notesFiles ⟨"/p/AGENTS.md"⟩ ++
      (handedOut notesProject {} notesFiles [alpha, beta] ++
        handedOut notesProject {} notesFiles [beta, alpha])) := by
    have distinct : ((handedOut notesProject {} notesFiles [alpha, beta] ++
        (handedOut notesProject {} notesFiles [beta, alpha]).take 1).map
          Sha256.contentDigest).Nodup := by
      decide +kernel
    apply (Sha256.tellsApart_of_nodup distinct).mono
    decide +kernel
  exact (compileInTurn_files_eq_iff notesProject builtin_notesProject {} {} notesFiles
    ⟨[], rfl⟩ [alpha, beta] [beta, alpha] (List.Perm.swap _ _ _) (by decide) (by decide +kernel)
    (by decide +kernel) firstReports secondReports (notesRun [alpha, beta]).2
    (notesRun [beta, alpha]).2 firstRan secondRan ⟨"/p/AGENTS.md"⟩ onePath apart).mpr rfl

/-- Two orders of the same notes, all of which compile, leave different contents in some file. -/
def OrderShows (first second : List Arrival) : Prop :=
  (first.map Arrival.document).Perm (second.map Arrival.document) ∧
    (∀ arrival ∈ first, arrival.document.source.path.isSome = true) ∧
    (first.map fun arrival => arrival.document.source.path.map notesFiles.absolutize).Nodup ∧
    (∀ arrival ∈ first,
      (Templating.decide none arrival.document.frontmatter {}).enabled = false) ∧
    (notesRun first).1.isOk = true ∧ (notesRun second).1.isOk = true ∧
    ∃ names, (notesRun first).2.files.fileAt? names ≠ (notesRun second).2.files.fileAt? names

/-- The order shows when only one note emits, and when one note goes to a file of its own. -/
theorem order_of_notes_shows :
    OrderShows [alpha, betaSilent] [betaSilent, alpha] ∧
      OrderShows [alphaElsewhere, beta] [beta, alphaElsewhere] := by
  constructor
  · have ran : (notesRun [alpha, betaSilent]).1.isOk = true ∧
        (notesRun [betaSilent, alpha]).1.isOk = true ∧
        (notesRun [alpha, betaSilent]).2.files.fileAt? ["p", "AGENTS.md"] ≠
          (notesRun [betaSilent, alpha]).2.files.fileAt? ["p", "AGENTS.md"] := by
      decide +kernel
    exact ⟨List.Perm.swap _ _ _, by decide, by decide +kernel, by decide +kernel, ran.1, ran.2.1,
      ["p", "AGENTS.md"], ran.2.2⟩
  · have ran : (notesRun [alphaElsewhere, beta]).1.isOk = true ∧
        (notesRun [beta, alphaElsewhere]).1.isOk = true ∧
        (notesRun [alphaElsewhere, beta]).2.files.fileAt? ["p", "AGENTS.md"] ≠
          (notesRun [beta, alphaElsewhere]).2.files.fileAt? ["p", "AGENTS.md"] := by
      decide +kernel
    exact ⟨List.Perm.swap _ _ _, by decide, by decide +kernel, by decide +kernel, ran.1, ran.2.1,
      ["p", "AGENTS.md"], ran.2.2⟩

end Compiler

end RuleCompiler
