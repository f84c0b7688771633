import RuleCompiler.Proofs.Compilation.Outcome
import RuleCompiler.Proofs.Provider.Again

/-!
Compiling a document once more. When the first compilation served every destination and no two of
its artifacts have one path, all that it wrote is still there at its end; so the second one settles
the same paths, finds the same texts, and leaves files and collections as they are.
-/

namespace RuleCompiler

def Delivery.unchanged (delivery : Delivery) : Delivery :=
  { delivery with written := delivery.written.map WrittenArtifact.unchanged }

/-- The same result, with everything found in its place. -/
def DestinationResult.unchanged (result : DestinationResult) : DestinationResult :=
  { result with delivery := result.delivery.map Delivery.unchanged }

theorem DestinationResult.success_unchanged (result : DestinationResult) :
    result.unchanged.success = result.success := by
  unfold unchanged success
  cases result.delivery with
  | ok delivery => rfl
  | error cause => rfl

namespace Compiler

/-- What a compilation records of a document whose body is no template. -/
def noteOf (compiler : Compiler) (document : Document) : Note :=
  { root := compiler.projectRoot
    source := document.source
    contents := document.source.contents }

variable {compiler : Compiler} {run : RunStamp} {document : Document} {project : ProjectConfig}
  {options : CompileOptions}

/-- One destination: what its compilation leaves, and what compiling it later does. -/
theorem compileFor_settles (registry : compiler.registry = Registry.builtin)
    (named : document.source.IsNamed)
    (plain : (Templating.decide none document.frontmatter project).enabled = false)
    {destination : String} {state after : RunState} {delivery : Delivery}
    (linkFree : state.workspace.files.LinkFree) (rooted : state.workspace.files.Rooted)
    (ran : (compiler.compileFor run document project options destination).run state =
      (.ok delivery, after)) :
    Leaves (compiler.noteOf document) state.workspace after.workspace delivery.written ∧
    ∀ (again : RunStamp) (later : RunState),
      Workspace.Onward (compiler.noteOf document) after.workspace later.workspace →
      (∀ told ∈ delivery.written, Persist.Holds later.workspace.files told) →
      ∃ final, (compiler.compileFor again document project options destination).run later =
          (.ok delivery.unchanged, final) ∧
        final.workspace.Alike later.workspace := by
  have serves : compiler.ServesBuiltin document project := .ofPlain registry plain
  rcases compileFor_cases serves ran with
    ⟨_, _, failed⟩ | ⟨provider, log, found, ⟨_, _, failed⟩ |
      ⟨content, answer, workspace, rendered, wrote, isAnswer, isAfter⟩⟩
  · cases failed
  · cases failed
  · have member := mem_builtin registry found
    rw [contentWith_of_plain run options member plain] at rendered
    cases rendered
    cases answer with
    | error cause => cases isAnswer
    | ok written =>
        cases isAnswer
        have destinationNormal : (compiler.writeRequest state.workspace.files.workingPath document
            (settled provider document project) document.source.contents).destination.IsNormal :=
          Path.isNormal_absolutize _ (Path.isAbsolute_ofNames _)
        have startsLinkFree : ({ state.workspace with log } : Workspace).files.LinkFree := linkFree
        have startsRooted : ({ state.workspace with log } : Workspace).files.Rooted := rooted
        have settles := Provider.settles member named startsLinkFree startsRooted destinationNormal
          wrote
        have afterAlike : after.workspace.Alike workspace := by
          rw [isAfter]
          exact Workspace.Alike.refl workspace
        have startAlike : state.workspace.Alike { state.workspace with log } := ⟨rfl, rfl⟩
        have leaves := settles.leaves.congr startAlike afterAlike
        refine ⟨leaves, ?_⟩
        intro again later onward holds
        obtain ⟨laterLog, delivered⟩ := deliver_of_ok again document project options later serves
          member (contentWith_of_plain again options member plain _)
        have laterAlike : Workspace.Alike { later.workspace with log := laterLog }
          later.workspace := ⟨rfl, rfl⟩
        obtain ⟨finalLog, wroteAgain⟩ := settles.again _ (onward.congr afterAlike.symm laterAlike)
          holds
        -- The request is made with the working directory, which stays.
        rw [← leaves.onward.workingPath, ← onward.workingPath] at wroteAgain
        have isDelivery : compiler.compileFor again document project options destination =
            compiler.deliver again document project options provider := by
          unfold compileFor
          rw [found]
        rw [isDelivery]
        exact ⟨_, delivered _ _ wroteAgain, rfl, rfl⟩

/-- All destinations in order, and all of them again later on. -/
theorem resultsFor_settles (registry : compiler.registry = Registry.builtin)
    (named : document.source.IsNamed)
    (plain : (Templating.decide none document.frontmatter project).enabled = false)
    (destinations : List String) {state after : RunState} {results : List DestinationResult}
    (linkFree : state.workspace.files.LinkFree) (rooted : state.workspace.files.Rooted)
    (ran : compiler.resultsFor run document project options destinations state =
      (results, after))
    (succeeded : ∀ result ∈ results, result.success = true) :
    Leaves (compiler.noteOf document) state.workspace after.workspace
        (results.flatMap DestinationResult.written) ∧
    ∀ (again : RunStamp) (later : RunState),
      Workspace.Onward (compiler.noteOf document) after.workspace later.workspace →
      (∀ told ∈ results.flatMap DestinationResult.written,
        Persist.Holds later.workspace.files told) →
      ∃ final, compiler.resultsFor again document project options destinations later =
          (results.map DestinationResult.unchanged, final) ∧
        final.workspace.Alike later.workspace := by
  -- The rest starts from what the first destination left, and the first is compiled again only
  -- after the rest; so its part of the conclusion is carried over what the rest leaves.
  induction destinations generalizing state results after with
  | nil =>
      cases ran
      refine ⟨Leaves.nothing _ _, ?_⟩
      intro again later _ _
      exact ⟨later, rfl, Workspace.Alike.refl _⟩
  | cons destination rest ih =>
      rw [resultsFor_cons] at ran
      dsimp only at ran
      rcases first : (compiler.compileFor run document project options destination).run state with
        ⟨delivery, middle⟩
      rw [first] at ran
      dsimp only at ran
      have told := onlyLogs_tellResult compiler run document.label
        { destinationId := destination, delivery } middle.workspace
      generalize (compiler.tellResult run document.label
        { destinationId := destination, delivery } middle.workspace).2 = workspace at ran told
      rcases onwardRan : compiler.resultsFor run document project options rest
        { middle with workspace } with ⟨later, final⟩
      rw [onwardRan] at ran
      cases ran
      have firstSucceeded := succeeded _ List.mem_cons_self
      cases delivery with
      | error cause => cases firstSucceeded
      | ok delivery =>
          obtain ⟨firstLeaves, firstAgain⟩ :=
            compileFor_settles registry named plain linkFree rooted first
          have middleLeaves := firstLeaves.congr (Workspace.Alike.refl _) told
          have grows := middleLeaves.onward.files
          obtain ⟨restLeaves, restAgain⟩ := ih (grows.linkFree linkFree) (grows.rooted rooted)
            onwardRan fun result member => succeeded result (List.mem_cons_of_mem _ member)
          rw [List.flatMap_cons]
          refine ⟨Leaves.append named linkFree middleLeaves restLeaves, ?_⟩
          intro again seen onward holds
          have firstOnward := (restLeaves.onward.trans named onward).congr told.symm
            (Workspace.Alike.refl _)
          obtain ⟨afterFirst, firstRan, firstAlike⟩ := firstAgain again seen firstOnward
            fun told member => holds told (List.mem_append_left _ member)
          rw [resultsFor_cons, firstRan]
          dsimp only
          have toldAgain := onlyLogs_tellResult compiler again document.label
            { destinationId := destination, delivery := .ok delivery.unchanged }
            afterFirst.workspace
          generalize (compiler.tellResult again document.label
            { destinationId := destination, delivery := .ok delivery.unchanged }
            afterFirst.workspace).2 = seenNext at toldAgain
          have seenAlike := toldAgain.trans firstAlike
          obtain ⟨final, restRan, restAlike⟩ := restAgain again
            { afterFirst with workspace := seenNext }
            (onward.congr (Workspace.Alike.refl _) seenAlike)
            (fun told member => by
              rw [seenAlike.files]
              exact holds told (List.mem_append_right _ member))
          rw [restRan]
          exact ⟨final, rfl, restAlike.trans seenAlike⟩

/-- A compilation that served every destination, told once more, changes nothing. -/
theorem recompile_changes_nothing (registry : compiler.registry = Registry.builtin)
    (named : document.source.IsNamed)
    (plain : (Templating.decide none document.frontmatter project).enabled = false)
    {choice : DestinationChoice} {workspace after : Workspace} {report : Report}
    (linkFree : workspace.files.LinkFree) (rooted : workspace.files.Rooted)
    (ran : (compiler.compile run document choice project options).run workspace =
      (.ok report, after))
    (succeeded : ∀ result ∈ report.results, result.success = true)
    (distinct :
      ((report.results.flatMap DestinationResult.written).map WrittenArtifact.path).Nodup)
    (again : RunStamp) :
    ∃ secondReport secondAfter,
      (compiler.compile again document choice project options).run after =
        (.ok secondReport, secondAfter) ∧
      secondReport.results = report.results.map DestinationResult.unchanged ∧
      secondAfter.files = after.files ∧ secondAfter.collected = after.collected := by
  obtain ⟨log, opened⟩ := compile_run compiler run document project options choice workspace
  rcases first : compiler.resultsFor run document project options
    (compiler.destinations document project choice) { workspace := { workspace with log } } with
    ⟨results, state⟩
  obtain ⟨sameResults, endsAlike⟩ := opened _ first
  rw [ran] at sameResults endsAlike
  dsimp only [resultsOf] at sameResults endsAlike
  subst sameResults
  have startsLinkFree :
      ({ workspace := { workspace with log } } : RunState).workspace.files.LinkFree := linkFree
  have startsRooted :
      ({ workspace := { workspace with log } } : RunState).workspace.files.Rooted := rooted
  obtain ⟨leaves, settles⟩ := resultsFor_settles registry named plain
    (compiler.destinations document project choice) startsLinkFree startsRooted first succeeded
  obtain ⟨secondLog, openedAgain⟩ :=
    compile_run compiler again document project options choice after
  have seenAlike : Workspace.Alike { after with log := secondLog } state.workspace :=
    ⟨endsAlike.files, endsAlike.collected⟩
  obtain ⟨final, second, finalAlike⟩ := settles again
    { workspace := { after with log := secondLog } }
    ((Workspace.Onward.refl _ state.workspace).congr (Workspace.Alike.refl _) seenAlike)
    (fun told member => by
      rw [seenAlike.files]
      exact leaves.holds distinct told member)
  obtain ⟨secondResults, secondEnds⟩ := openedAgain _ second
  rcases answered : (compiler.compile again document choice project options).run after with
    ⟨answer, secondAfter⟩
  rw [answered] at secondResults secondEnds
  cases answer with
  | error failure =>
      -- All results would have failed, but they are those of the first compilation.
      obtain ⟨some, failed⟩ := allFailed_of_compile_error answered
      have isUnchanged : failure.results = report.results.map DestinationResult.unchanged :=
        secondResults
      obtain ⟨result, others, shape⟩ := List.exists_cons_of_ne_nil some
      have member : result ∈ failure.results := by
        rw [shape]
        exact List.mem_cons_self
      have notSucceeded := failed result member
      rw [isUnchanged] at member
      obtain ⟨earlier, inside, rfl⟩ := List.mem_map.mp member
      rw [DestinationResult.success_unchanged, succeeded earlier inside] at notSucceeded
      cases notSucceeded
  | ok secondReport =>
      exact ⟨secondReport, secondAfter, rfl, secondResults,
        secondEnds.files.trans finalAlike.files, secondEnds.collected.trans finalAlike.collected⟩

/-! ### One rule compiled twice -/

def twiceProject : Compiler :=
  Compiler.forProject Registry.builtin {} ⟨"/p"⟩ ⟨"/p"⟩

def twiceRule : Document :=
  { source := { id := "a.md", path := some ⟨"/p/a.md"⟩, contents := "Body\n" }, metadata := {} }

def twiceFiles : FileTree where
  workingDirectory := ["p"]

/-- The rule compiled for a file of its own and for the two files of Codex. The proof below
evaluates this in the kernel only. -/
@[irreducible]
def ruleRun (run : RunStamp) (workspace : Workspace) : Except TotalFailure Report × Workspace :=
  (twiceProject.compile run twiceRule (.only ["cursor", "codex"]) {} {}).run workspace

theorem ruleRun_eq (run : RunStamp) (workspace : Workspace) :
    (twiceProject.compile run twiceRule (.only ["cursor", "codex"]) {} {}).run workspace =
      ruleRun run workspace := by
  unfold ruleRun
  rfl

/-- Every destination is served, and no two artifacts have one path. -/
def servesApart : Except TotalFailure Report → Bool
  | .error _ => false
  | .ok report => report.results.all DestinationResult.success &&
      ((report.results.flatMap DestinationResult.written).map WrittenArtifact.path).Nodup

theorem exists_of_servesApart {answer : Except TotalFailure Report}
    (served : servesApart answer = true) :
    ∃ report, answer = .ok report ∧ (∀ result ∈ report.results, result.success = true) ∧
      ((report.results.flatMap DestinationResult.written).map WrittenArtifact.path).Nodup := by
  cases answer with
  | error failure => cases served
  | ok report =>
      obtain ⟨succeeded, distinct⟩ := Bool.and_eq_true_iff.mp served
      exact ⟨report, rfl, List.all_eq_true.mp succeeded, of_decide_eq_true distinct⟩

theorem recompiled_rule_changes_nothing :
    ∃ report after secondReport secondAfter,
      ruleRun ⟨"1", "2024-05-01T10:00:00"⟩ { files := twiceFiles } = (.ok report, after) ∧
      report.results.map DestinationResult.destinationId = ["cursor", "codex"] ∧
      ruleRun ⟨"2", "2024-05-01T10:00:09"⟩ after = (.ok secondReport, secondAfter) ∧
      secondReport.results = report.results.map DestinationResult.unchanged ∧
      secondAfter.files = after.files ∧ secondAfter.collected = after.collected := by
  have served : servesApart
      (ruleRun ⟨"1", "2024-05-01T10:00:00"⟩ { files := twiceFiles }).1 = true := by
    decide +kernel
  have asked : (resultsOf (ruleRun ⟨"1", "2024-05-01T10:00:00"⟩ { files := twiceFiles }).1).map
      DestinationResult.destinationId = ["cursor", "codex"] := by
    decide +kernel
  rcases ran : ruleRun ⟨"1", "2024-05-01T10:00:00"⟩ { files := twiceFiles } with ⟨answer, after⟩
  rw [ran] at served asked
  obtain ⟨report, rfl, succeeded, distinct⟩ := exists_of_servesApart served
  rw [← ruleRun_eq] at ran
  have registry : twiceProject.registry = Registry.builtin :=
    (isBuiltin_forProject {} ⟨"/p"⟩ ⟨"/p"⟩).registry
  have named : twiceRule.source.IsNamed := Or.inl (by simp [twiceRule])
  have plain : (Templating.decide none twiceRule.frontmatter {}).enabled = false := by
    decide +kernel
  obtain ⟨secondReport, secondAfter, secondRan, unchanged⟩ :=
    recompile_changes_nothing registry named plain (FileTree.linkFree_empty ["p"]) ⟨[], rfl⟩ ran
      succeeded distinct
      ⟨"2", "2024-05-01T10:00:09"⟩
  rw [ruleRun_eq] at secondRan
  exact ⟨report, after, secondReport, secondAfter, rfl, asked, secondRan, unchanged⟩

end Compiler

end RuleCompiler
