import RuleCompiler.Proofs.Compilation.Delivery
import RuleCompiler.Proofs.Compilation.Outcome
import RuleCompiler.Proofs.Compilation.Overrides
import RuleCompiler.Proofs.Provider.Outside
import RuleCompiler.Proofs.Provider.Verbatim

/-!
Compiling a document that is no template. The body reaches the providers as it is: the engine is not
asked, and partials, those of the caller, of the directories and of the preparations, are not looked
at. So two compilations that differ in these alone have the same results and write the same files,
as long as no output path leads through a place where their files differ.
-/

namespace RuleCompiler

/-- Preparations that settle the same before the body is looked at: what overrides the project
configuration, and whether the body is rendered at all. -/
structure Preparation.SettlesAs (preparation settled : Preparation) : Prop where
  projectOverrides : preparation.projectOverrides = settled.projectOverrides
  force : preparation.template.force = settled.template.force

/-- The built-in provider, with a preparation of its own. It may contribute helpers, partials and
modes to the rendering, and else settles what is given, and no more than logs. -/
structure Provider.PreparedAs (builtin : Provider) (settled : PrepareRequest → Preparation)
    (provider : Provider) : Prop where
  same : provider = { builtin with preparation := provider.preparation }
  unhooked : provider.preparation = none → ∀ request,
    Preparation.SettlesAs {} (settled request)
  hooked : ∀ prepare, provider.preparation = some prepare → ∀ request workspace,
    ∃ preparation log, (prepare request).run workspace =
        (.ok preparation, { workspace with log }) ∧
      preparation.SettlesAs (settled request)

namespace Provider.PreparedAs

variable {builtin provider : Provider} {settled : PrepareRequest → Preparation}

/-- The built-in providers settle nothing. -/
theorem itself (member : builtin ∈ Provider.builtin) :
    PreparedAs builtin (fun _ => {}) builtin where
  same := rfl
  unhooked _ _ := ⟨rfl, rfl⟩
  hooked prepare hook request workspace := by
    have quiet := preparesQuietly member
    obtain ⟨log, prepared⟩ := quiet.answer prepare hook request workspace
    exact ⟨_, log, prepared, rfl, quiet.force request⟩

theorem id_eq (prepared : PreparedAs builtin settled provider) : provider.id = builtin.id := by
  rw [prepared.same]
  rfl

theorem write_eq (prepared : PreparedAs builtin settled provider) (request : WriteRequest) :
    provider.write request = builtin.write request := by
  rw [prepared.same]
  unfold Provider.write
  cases builtin.writing with
  | artifacts mode => rfl
  | own write => rfl

end Provider.PreparedAs

/-- The document with other contents. -/
def Document.withContents (document : Document) (contents : String) : Document :=
  { document with source := { document.source with contents } }

namespace Compiler

/-! ### One destination -/

def prepareRequest (document : Document) (project : ProjectConfig) (provider : Provider) :
    PrepareRequest :=
  { document
    project
    destination := DestinationConfig.resolve provider.id document.frontmatter project }

section Deliver

variable (settled : PrepareRequest → Preparation) (document : Document) (project : ProjectConfig)

/-- What is settled for a provider whose preparation settles this. -/
def scopeBy (provider : Provider) : DestinationScope :=
  scopeOf provider document project (settled (prepareRequest document project provider))

/-- What a provider is asked to write of a document that is no template. -/
def plainRequest (compiler : Compiler) (workingDirectory : Path) (provider : Provider) :
    WriteRequest :=
  compiler.writeRequest workingDirectory document (scopeBy settled document project provider)
    document.source.contents

variable {settled} {builtin provider : Provider}

theorem prepare_preparedAs (prepared : builtin.PreparedAs settled provider) (state : RunState) :
    ∃ preparation log, (prepare provider document project).run state =
        (.ok preparation, { state with workspace := { state.workspace with log } }) ∧
      preparation.SettlesAs (settled (prepareRequest document project provider)) := by
  unfold prepare
  cases hook : provider.preparation with
  | none => exact ⟨{}, state.workspace.log, rfl, prepared.unhooked hook _⟩
  | some prepare =>
      obtain ⟨preparation, log, answered, settles⟩ :=
        prepared.hooked prepare hook (prepareRequest document project provider) state.workspace
      refine ⟨preparation, log, ?_, settles⟩
      unfold prepareRequest at answered
      dsimp only
      rw [RunState.attempt_run, answered]
      rfl

section Scope

variable {preparation : Preparation} (prepared : builtin.PreparedAs settled provider)
  (settles : preparation.SettlesAs (settled (prepareRequest document project provider)))

include prepared settles

theorem templating_preparedAs :
    (scopeOf provider document project preparation).templating =
      (scopeBy settled document project builtin).templating := by
  unfold scopeBy scopeOf
  unfold prepareRequest at settles ⊢
  rw [settles.projectOverrides, settles.force, prepared.id_eq]

theorem writeRequest_preparedAs (compiler : Compiler) (workingDirectory : Path) :
    compiler.writeRequest workingDirectory document
        (scopeOf provider document project preparation) document.source.contents =
      compiler.plainRequest settled document project workingDirectory builtin := by
  have base : provider.defaultDestination = builtin.defaultDestination := by
    rw [prepared.same]
  unfold plainRequest writeRequest scopeBy scopeOf
  unfold prepareRequest at settles ⊢
  dsimp only
  rw [settles.projectOverrides, prepared.id_eq, base]

end Scope

theorem content_plain (compiler : Compiler) (run : RunStamp) (options : CompileOptions)
    {scope : DestinationScope} (plain : scope.templating.enabled = false) :
    compiler.content run document options scope = pure document.source.contents := by
  unfold content
  rw [plain]
  rfl

/-- A destination of a document that is no template is the write of its body. -/
theorem deliver_plain (compiler : Compiler) (run : RunStamp) (options : CompileOptions)
    (prepared : builtin.PreparedAs settled provider)
    (plain : (scopeBy settled document project builtin).templating.enabled = false)
    (state : RunState) :
    ∃ log, (compiler.deliver run document project options provider).run state =
      let wrote := (builtin.write (compiler.plainRequest settled document project
        state.workspace.files.workingPath builtin)).run { state.workspace with log }
      ((wrote.1.mapError DestinationError.provider).map fun written =>
          { written, templating := (scopeBy settled document project builtin).templating },
        { state with workspace := wrote.2 }) := by
  obtain ⟨preparation, prepareLog, answered, settles⟩ :=
    prepare_preparedAs document project prepared state
  have decided := templating_preparedAs document project prepared settles
  have asked := writeRequest_preparedAs document project prepared settles compiler
  unfold deliver
  rw [run_bind_ok answered]
  generalize scopeOf provider document project preparation = scope at decided asked ⊢
  dsimp only
  have told : (ExceptT.lift (RunState.act (tellTemplating provider.id scope.templating)) :
        RunAction Unit).run
        { state with workspace := { state.workspace with log := prepareLog } } =
      (.ok (), { state with workspace := { state.workspace with log := prepareLog ++ [_] } }) := rfl
  rw [run_bind_ok told]
  generalize prepareLog ++ [_] = log
  refine ⟨log, ?_⟩
  rw [content_plain document compiler run options (decided ▸ plain), pure_bind,
    run_bind_ok (run_get _), run_bind_pure, RunState.attempt_run]
  dsimp only
  rw [asked, prepared.write_eq, decided]

end Deliver

/-! ### Two compilations -/

section TwoRuns

variable (settled : Provider → PrepareRequest → Preparation)

/-- Compilers of one project with the same ids, whose built-in providers settle the same. Their
engines, their partials and what their providers contribute to rendering are their own. -/
structure SameButRendering (first second : Compiler) : Prop where
  projectRoot : first.projectRoot = second.projectRoot
  ids : first.registry.ids = second.registry.ids
  prepared : ∀ builtin ∈ Provider.builtin, ∀ one other,
    first.registry.get? builtin.id = some one → second.registry.get? builtin.id = some other →
    builtin.PreparedAs (settled builtin) one ∧ builtin.PreparedAs (settled builtin) other

/-- A destination is unknown, or it is the one of a built-in provider, for which the document is no
template, and which stays outside some places. -/
def PlainOutside (compiler : Compiler) (origin : FileTree) (places : List (List String))
    (document : Document) (project : ProjectConfig) (destination : String) : Prop :=
  destination ∈ compiler.registry.ids → ∃ builtin ∈ Provider.builtin, builtin.id = destination ∧
    (scopeBy (settled builtin) document project builtin).templating.enabled = false ∧
    Provider.StaysOutside origin places builtin
      (compiler.plainRequest (settled builtin) document project origin.workingPath builtin)

/-- Another provider in the place of a built-in one may contribute what it likes to rendering. -/
theorem sameButRendering_equipped {first second : Compiler}
    (registry : first.registry = Registry.builtin)
    (sameRoot : first.projectRoot = second.projectRoot)
    {builtin hooked : Provider} (member : builtin ∈ Provider.builtin)
    (prepared : builtin.PreparedAs (fun _ => {}) hooked)
    (equips : second.registry = (first.equipped hooked).registry) :
    SameButRendering (fun _ _ => {}) first second where
  projectRoot := sameRoot
  ids := by
    have known : Provider.builtin.all (fun provider =>
        Registry.builtin.ids.contains provider.id) = true := by decide +kernel
    have inIds := List.contains_iff_mem.mp (List.all_eq_true.mp known builtin member)
    rw [equips]
    refine (Registry.ids_enlist_of_mem ?_).symm
    rw [prepared.id_eq, registry]
    exact inIds
  prepared other otherMember one two inFirst inSecond := by
    have isOther : one = other :=
      Provider.eq_of_builtin_id (mem_builtin registry inFirst) otherMember
        (Registry.id_of_get? inFirst)
    rw [isOther]
    refine ⟨.itself otherMember, ?_⟩
    rw [equips] at inSecond
    change (Registry.enlist hooked first.registry.active).find? _ = _ at inSecond
    rw [Registry.find?_enlist, prepared.id_eq] at inSecond
    by_cases here : builtin.id = other.id
    · rw [if_pos here] at inSecond
      cases inSecond
      rw [← Provider.eq_of_builtin_id member otherMember here]
      exact prepared
    · rw [if_neg here] at inSecond
      have unhooked : two = one := Option.some.inj (inSecond.symm.trans inFirst)
      rw [unhooked, isOther]
      exact .itself otherMember

variable {settled} {first second : Compiler} (run : RunStamp) {document : Document}
  {project : ProjectConfig} (options others : CompileOptions) {origin : FileTree}
  {places : List (List String)}

theorem SameButRendering.get?_cases (same : SameButRendering settled first second)
    (destination : String) :
    (first.registry.get? destination = none ∧ second.registry.get? destination = none) ∨
    ∃ one other, first.registry.get? destination = some one ∧
      second.registry.get? destination = some other ∧ destination ∈ first.registry.ids := by
  by_cases known : destination ∈ first.registry.ids
  · obtain ⟨one, inFirst⟩ := Registry.get?_of_mem_ids known
    obtain ⟨other, inSecond⟩ := Registry.get?_of_mem_ids (same.ids ▸ known)
    exact Or.inr ⟨one, other, inFirst, inSecond, known⟩
  · exact Or.inl ⟨Registry.get?_of_not_mem_ids known,
      Registry.get?_of_not_mem_ids (same.ids ▸ known)⟩

theorem compileFor_abreast (same : SameButRendering settled first second) {destination : String}
    (outside : first.PlainOutside settled origin places document project destination)
    {one other : RunState}
    (abreast : Workspace.Abreast origin places one.workspace other.workspace) :
    let ran := (first.compileFor run document project options destination).run one
    let again := (second.compileFor run document project others destination).run other
    ran.1 = again.1 ∧ Workspace.Abreast origin places ran.2.workspace again.2.workspace := by
  unfold compileFor
  rcases same.get?_cases destination with
    ⟨inFirst, inSecond⟩ | ⟨provider, hooked, inFirst, inSecond, known⟩
  · rw [inFirst, inSecond]
    exact ⟨rfl, abreast⟩
  · obtain ⟨builtin, member, rfl, plain, stays⟩ := outside known
    obtain ⟨prepared, preparedToo⟩ := same.prepared builtin member _ _ inFirst inSecond
    rw [inFirst, inSecond]
    dsimp only
    obtain ⟨firstLog, firstRan⟩ :=
      deliver_plain document project first run options prepared plain one
    obtain ⟨secondLog, secondRan⟩ :=
      deliver_plain document project second run others preparedToo plain other
    have firstHere : one.workspace.files.workingPath = origin.workingPath :=
      congrArg (Path.ofNames true) abreast.files.links.workingDirectory
    have secondHere : other.workspace.files.workingPath = origin.workingPath :=
      congrArg (Path.ofNames true) (Provider.workingDirectory_abreast abreast.files)
    have sameRequest : second.plainRequest (settled builtin) document project origin.workingPath
        builtin = first.plainRequest (settled builtin) document project origin.workingPath
        builtin := by
      unfold plainRequest writeRequest
      rw [same.projectRoot]
    obtain ⟨sameAnswer, stillAbreast⟩ := Provider.respects_write member stays
      { one.workspace with log := firstLog } { other.workspace with log := secondLog }
      ⟨abreast.files, abreast.collected⟩
    rw [firstRan, secondRan, firstHere, secondHere, sameRequest]
    dsimp only
    rw [sameAnswer]
    exact ⟨rfl, stillAbreast⟩

theorem resultsFor_abreast (same : SameButRendering settled first second)
    {destinations : List String}
    (outside : ∀ destination ∈ destinations,
      first.PlainOutside settled origin places document project destination)
    (one other : RunState)
    (abreast : Workspace.Abreast origin places one.workspace other.workspace) :
    let ran := first.resultsFor run document project options destinations one
    let again := second.resultsFor run document project others destinations other
    ran.1 = again.1 ∧ Workspace.Abreast origin places ran.2.workspace again.2.workspace := by
  induction destinations generalizing one other with
  | nil => exact ⟨rfl, abreast⟩
  | cons destination rest ih =>
      rw [resultsFor_cons, resultsFor_cons]
      dsimp only
      obtain ⟨here, onward⟩ := List.forall_mem_cons.mp outside
      obtain ⟨sameAnswer, stillAbreast⟩ := compileFor_abreast run options others same here abreast
      rw [← sameAnswer]
      generalize (first.compileFor run document project options destination).run one = ran,
        (second.compileFor run document project others destination).run other = again
        at sameAnswer stillAbreast ⊢
      let result : DestinationResult := { destinationId := destination, delivery := ran.1 }
      have told := stillAbreast.ofAlike
        (onlyLogs_tellResult first run document.label result ran.2.workspace)
        (onlyLogs_tellResult second run document.label result again.2.workspace)
      generalize (first.tellResult run document.label result ran.2.workspace).2 = oneTold,
        (second.tellResult run document.label result again.2.workspace).2 = otherTold at told ⊢
      have next := ih onward { ran.2 with workspace := oneTold }
        { again.2 with workspace := otherTold } told
      rw [next.1]
      exact ⟨rfl, next.2⟩

theorem destinations_eq (same : SameButRendering settled first second)
    (choice : DestinationChoice) :
    first.destinations document project choice = second.destinations document project choice := by
  cases choice with
  | only ids => rfl
  | selected =>
      unfold destinations select
      rw [same.ids]

theorem compile_abreast (same : SameButRendering settled first second)
    {choice : DestinationChoice} {one other : Workspace}
    (outside : ∀ destination ∈ first.destinations document project choice,
      first.PlainOutside settled origin places document project destination)
    (abreast : Workspace.Abreast origin places one other) :
    let ran := (first.compile run document choice project options).run one
    let again := (second.compile run document choice project others).run other
    ran.1 = again.1 ∧ Workspace.Abreast origin places ran.2 again.2 := by
  intro ran again
  obtain ⟨firstLog, firstRan⟩ := compile_run first run document project options choice one
  obtain ⟨secondLog, secondRan⟩ := compile_run second run document project others choice other
  obtain ⟨firstResults, firstAfter⟩ := firstRan _ rfl
  obtain ⟨secondResults, secondAfter⟩ := secondRan _ rfl
  have atStart : Workspace.Abreast origin places { one with log := firstLog }
      { other with log := secondLog } := ⟨abreast.files, abreast.collected⟩
  have delivered := resultsFor_abreast run options others same outside
    { workspace := { one with log := firstLog } } { workspace := { other with log := secondLog } }
    atStart
  rw [← destinations_eq same choice, ← delivered.1] at secondResults
  rw [← destinations_eq same choice] at secondAfter
  refine ⟨?_, delivered.2.ofAlike firstAfter secondAfter⟩
  exact (compile_answer_of_results first run document project options firstResults).trans
    (compile_answer_of_results second run document project others secondResults).symm

end TwoRuns

/-! ### The body in the texts -/

section Wrapping

variable {settled : PrepareRequest → Preparation} {document : Document} {project : ProjectConfig}
  {builtin : Provider}

/-- For other contents for which the same is settled, the rest of the scope is the same. -/
theorem scopeBy_withContents {contents : String}
    (settles : (settled (prepareRequest (document.withContents contents) project builtin)).SettlesAs
      (settled (prepareRequest document project builtin))) :
    (scopeBy settled (document.withContents contents) project builtin).destination =
        (scopeBy settled document project builtin).destination ∧
      (scopeBy settled (document.withContents contents) project builtin).project =
        (scopeBy settled document project builtin).project ∧
      (scopeBy settled (document.withContents contents) project builtin).templating =
        (scopeBy settled document project builtin).templating := by
  unfold scopeBy scopeOf
  dsimp only
  rw [settles.projectOverrides, settles.force]
  exact ⟨rfl, rfl, rfl⟩

theorem compileFor_wraps (compiler : Compiler) (run : RunStamp) (options : CompileOptions)
    (prepared : ∀ provider, compiler.registry.get? builtin.id = some provider →
      builtin.PreparedAs settled provider)
    (plain : (scopeBy settled document project builtin).templating.enabled = false)
    (member : builtin ∈ Provider.builtin) (notMerged : builtin ≠ Provider.AgentsMd.provider) :
    ∃ lead tail text, Wraps lead tail text ∧ ∀ contents state delivery after,
      (settled (prepareRequest (document.withContents contents) project builtin)).SettlesAs
        (settled (prepareRequest document project builtin)) →
      (compiler.compileFor run (document.withContents contents) project options builtin.id).run
          state = (.ok delivery, after) →
      Provider.PersistsFirst state.workspace.files (text contents) delivery.written := by
  let request := compiler.plainRequest settled document project ⟨""⟩ builtin
  obtain ⟨lead, tail, text, wraps, persists⟩ :=
    Provider.write_wraps member notMerged request.config request.document
  refine ⟨lead, tail, text, wraps, ?_⟩
  intro contents state delivery after settles ran
  obtain ⟨sameConfig, sameProject, sameDecision⟩ := scopeBy_withContents settles
  unfold compileFor at ran
  cases found : compiler.registry.get? builtin.id with
  | none =>
      rw [found] at ran
      cases ran
  | some provider =>
      rw [found] at ran
      dsimp only at ran
      obtain ⟨log, delivered⟩ := deliver_plain (document.withContents contents) project compiler run
        options (prepared provider found) (sameDecision ▸ plain) state
      rw [delivered] at ran
      generalize asked : compiler.plainRequest settled (document.withContents contents) project
        state.workspace.files.workingPath builtin = another at ran
      have isConfig : another.config = request.config := by
        rw [← asked]
        exact sameConfig
      have isDocument : another.document = request.document.withBody contents := by
        rw [← asked]
        unfold plainRequest writeRequest
        rw [sameProject]
        rfl
      rcases wrote : (builtin.write another).run { state.workspace with log } with ⟨answer, later⟩
      rw [wrote] at ran
      cases answer with
      | error cause => cases ran
      | ok written =>
          cases ran
          exact persists another contents { state.workspace with log } written later isConfig
            isDocument wrote

end Wrapping

/-- Two compilations of a document that is no template, by compilers that differ in their engines,
in the directories and sets of partials, and in what their providers contribute to rendering, with
files that differ in some places, through none of which leads the way to an output of the document.
Both have the same results, and their files still agree outside these places, also where they were
written. Except for `AGENTS.md`, the first text of each destination is the body, trimmed at its end,
between two texts that do not depend on it, so that it tells bodies apart. -/
theorem compile_ignores_rendering (settled : Provider → PrepareRequest → Preparation)
    (first second : Compiler) (same : SameButRendering settled first second) (run : RunStamp)
    (document : Document) (project : ProjectConfig) (choice : DestinationChoice)
    (options others : CompileOptions) (places : List (List String)) (one other : Workspace)
    (alike : FileTree.AlikeOutside places one.files other.files)
    (collected : one.collected = other.collected)
    (outside : ∀ destination ∈ first.destinations document project choice,
      first.PlainOutside settled one.files places document project destination) :
    let ran := (first.compile run document choice project options).run one
    let again := (second.compile run document choice project others).run other
    (ran.1 = again.1 ∧ ran.2.collected = again.2.collected ∧
      FileTree.AlikeOutside places ran.2.files again.2.files ∧
      ∀ path, one.files.Avoids places path →
        ran.2.files.readText path = again.2.files.readText path) ∧
    ∀ builtin ∈ Provider.builtin, builtin.id ≠ Provider.AgentsMd.handshake.providerId →
      builtin.id ∈ first.registry.ids →
      (scopeBy (settled builtin) document project builtin).templating.enabled = false →
      ∃ text : String → String,
        (∃ lead tail, ∀ body, text body = lead ++ Text.trimmedEnd body ++ tail) ∧
        (∀ body different, text body = text different →
          Text.trimmedEnd body = Text.trimmedEnd different) ∧
        ∀ contents state delivery after,
          (settled builtin (prepareRequest (document.withContents contents) project
            builtin)).SettlesAs (settled builtin (prepareRequest document project builtin)) →
          (first.compileFor run (document.withContents contents) project options builtin.id).run
              state = (.ok delivery, after) →
          Provider.PersistsFirst state.workspace.files (text contents) delivery.written := by
  intro ran again
  constructor
  · obtain ⟨sameAnswer, abreast⟩ := compile_abreast run options others same outside
      ⟨⟨alike, FileTree.KeepsLinks.refl one.files⟩, collected⟩
    exact ⟨sameAnswer, abreast.collected, abreast.files.alike,
      fun _ avoids => FileTree.readText_abreast abreast.files avoids⟩
  · intro builtin member otherId known plain
    have notMerged : builtin ≠ Provider.AgentsMd.provider := by
      rintro rfl
      exact otherId rfl
    obtain ⟨other, inSecond⟩ := Registry.get?_of_mem_ids (same.ids ▸ known)
    obtain ⟨lead, tail, text, wraps, persists⟩ := compileFor_wraps first run options
      (fun one inFirst => (same.prepared builtin member one other inFirst inSecond).1) plain member
      notMerged
    exact ⟨text, ⟨lead, tail, wraps⟩, fun _ _ => wraps.injective, persists⟩

/-- A body that refers to a partial, for two destinations: none, or one from the caller, from the
project and from the preparation for one of the destinations. -/
theorem rules_ignore_partials :
    let first := forProject Registry.builtin {} ⟨"/"⟩ ⟨"/p"⟩
    let hooked : Provider := { Provider.Cline.provider with
      preparation := some fun _ => return { template := { partials := [("sig", "Regards")] } } }
    let second : Compiler := { first.equipped hooked with
      engine := ⟨fun _ _ _ => return "Rendered"⟩
      partialDirectories := {} }
    let document : Document :=
      { source :=
          { id := "a.md"
            path := some ⟨"/p/a.md"⟩
            contents := "\x7b\x7b> sig\x7d\x7d" }
        metadata := { frontmatter := .object [] } }
    let run : RunStamp := ⟨"1", "2024-05-01T10:00:00"⟩
    let options : CompileOptions := { partials := some [("sig", "Bye")] }
    let choice : DestinationChoice := .only ["cline", "claude-code"]
    let places := [["p", ".rulesets", "partials"]]
    let one : Workspace :=
      { files := { root := .directory [("p", .directory [(".rulesets", .directory [])])] } }
    let other : Workspace :=
      { files := one.files.put ["p", ".rulesets", "partials"]
          (.directory [("sig.md", .file (.text "Yours"))]) }
    let ran := (first.compile run document choice {} {}).run one
    let again := (second.compile run document choice {} options).run other
    SameButRendering (fun _ _ => {}) first second ∧
      FileTree.AlikeOutside places one.files other.files ∧
      (∀ destination ∈ first.destinations document {} choice,
        first.PlainOutside (fun _ _ => {}) one.files places document {} destination) ∧
      (ran.2.files.readText ⟨"/p/.clinerules/a.md"⟩).toOption = some "\x7b\x7b> sig\x7d\x7d\n" ∧
      ran.1 = again.1 ∧ ran.2.collected = again.2.collected ∧
      FileTree.AlikeOutside places ran.2.files again.2.files ∧
      ∀ path, one.files.Avoids places path →
        ran.2.files.readText path = again.2.files.readText path := by
  intro first hooked second document run options choice places one other
  have prepared : Provider.Cline.provider.PreparedAs (fun _ => {}) hooked := by
    refine ⟨rfl, nofun, ?_⟩
    intro prepare hook request workspace
    cases hook
    exact ⟨_, workspace.log, rfl, rfl, rfl⟩
  have isBuiltin : first.IsBuiltin := isBuiltin_forProject {} ⟨"/"⟩ ⟨"/p"⟩
  have same : SameButRendering (fun _ _ => {}) first second :=
    sameButRendering_equipped isBuiltin.registry rfl (by simp [Provider.builtin]) prepared rfl
  have alike : FileTree.AlikeOutside places one.files other.files :=
    FileTree.alikeOutside_put_inside one.files List.mem_cons_self _
  let request := first.plainRequest (fun _ => {}) document {} one.files.workingPath
  have clineOutside : Provider.StaysOutside one.files places Provider.Cline.provider
      (request Provider.Cline.provider) :=
    .ofEither (fun _ => rfl) (by decide +kernel) (by decide +kernel) (by decide +kernel)
  have claudeOutside : Provider.StaysOutside one.files places Provider.ClaudeCode.provider
      (request Provider.ClaudeCode.provider) :=
    .ofEither (fun _ => rfl) (by decide +kernel) (by decide +kernel) (by decide +kernel)
  have chosen : first.destinations document {} choice = ["cline", "claude-code"] := by
    decide +kernel
  have outside : ∀ destination ∈ first.destinations document {} choice,
      first.PlainOutside (fun _ _ => {}) one.files places document {} destination := by
    rw [chosen]
    intro destination member known
    rcases List.mem_pair.mp member with rfl | rfl
    · exact ⟨_, by simp [Provider.builtin], rfl, rfl, clineOutside⟩
    · exact ⟨_, by simp [Provider.builtin], rfl, rfl, claudeOutside⟩
  have both := compile_ignores_rendering (fun _ _ => {}) first second same run document {} choice {}
    options places one other alike rfl outside
  have written : (((first.compile run document choice {} {}).run one).2.files.readText
      ⟨"/p/.clinerules/a.md"⟩).toOption = some "\x7b\x7b> sig\x7d\x7d\n" := by
    decide +kernel
  generalize (first.compile run document choice {} {}).run one = ran,
    (second.compile run document choice {} options).run other = again at both written ⊢
  exact ⟨same, alike, outside, written, both.1⟩

/-- A configured path that climbs out of a directory for partials, and a rule directory that is a link
into it: what lies among the partials settles on the way whether a directory is found at the end of
the path, and whether there is one behind the link. -/
theorem partials_on_the_way_decide :
    let compiler := forProject Registry.builtin {} ⟨"/"⟩ ⟨"/p"⟩
    let document : Document :=
      { source := { id := "a.md", path := some ⟨"/p/a.md"⟩, contents := "Body" }
        metadata := { frontmatter := .object [] } }
    let project : ProjectConfig :=
      { fields :=
          [("providers", .object [("claude-code", .object
              [("outputPath", .string ".rulesets/partials/d/../../../out.d")])])] }
    let run : RunStamp := ⟨"1", "2024-05-01T10:00:00"⟩
    let choice : DestinationChoice := .only ["claude-code"]
    let places := [["p", ".rulesets", "partials"]]
    let rulesets : FileNode := .directory [("partials", .directory [("d", .directory [])])]
    let one : Workspace :=
      { files :=
          { root := .directory
              [("p", .directory [(".rulesets", rulesets), ("out.d", .directory [])])] } }
    let other : Workspace :=
      { files := one.files.put ["p", ".rulesets", "partials"] (.directory []) }
    let request := compiler.plainRequest (fun _ => {}) document project one.files.workingPath
      Provider.ClaudeCode.provider
    let ran := (compiler.compile run document choice project {}).run one
    let again := (compiler.compile run document choice project {}).run other
    let linked : Workspace :=
      { files :=
          { root := .directory
              [("p", .directory
                [(".clinerules", .link ".rulesets/partials/d"), (".rulesets", rulesets)])] } }
    let unlinked : Workspace :=
      { files := linked.files.put ["p", ".rulesets", "partials"] (.directory []) }
    let linkedRequest := compiler.plainRequest (fun _ => {}) document {} linked.files.workingPath
      Provider.Cline.provider
    compiler.partialDirectories = .projectOnly ⟨"/p"⟩ ∧
      PartialDirectories.projectDirectory ⟨"/p"⟩ =
        Path.ofNames true ["p", ".rulesets", "partials"] ∧
      (FileTree.AlikeOutside places one.files other.files ∧
        (Templating.decide none document.frontmatter project).enabled = false ∧
        Provider.ClaudeCode.provider.outputPath one.files request =
          Path.ofNames true ["p", "out.d", "a.md"] ∧
        Provider.ClaudeCode.provider.outputPath other.files request =
          Path.ofNames true ["p", "out.d"] ∧
        ¬ FileTree.Inside places ["p", "out.d"] ∧
        ¬ FileTree.Inside places ["p", "out.d", "a.md"] ∧
        (resultsOf ran.1).map DestinationResult.success = [true] ∧
        (resultsOf again.1).map DestinationResult.success = [false]) ∧
      FileTree.AlikeOutside places linked.files unlinked.files ∧
      (Templating.decide none document.frontmatter {}).enabled = false ∧
      (∀ files ∈ [linked.files, unlinked.files],
        Provider.Cline.provider.outputPath files linkedRequest =
          Path.ofNames true ["p", ".clinerules", "a.md"]) ∧
      ¬ FileTree.Inside places ["p", ".clinerules", "a.md"] ∧
      (resultsOf ((compiler.compile run document (.only ["cline"]) {} {}).run linked).1).map
        DestinationResult.success = [true] ∧
      (resultsOf ((compiler.compile run document (.only ["cline"]) {} {}).run unlinked).1).map
        DestinationResult.success = [false] := by
  intro compiler document project run choice places rulesets one other request ran again linked
    unlinked linkedRequest
  have alike : FileTree.AlikeOutside places one.files other.files :=
    FileTree.alikeOutside_put_inside one.files List.mem_cons_self _
  have linkedAlike : FileTree.AlikeOutside places linked.files unlinked.files :=
    FileTree.alikeOutside_put_inside linked.files List.mem_cons_self _
  have sameOutput : ∀ files ∈ [linked.files, unlinked.files],
      Provider.Cline.provider.outputPath files linkedRequest =
        Path.ofNames true ["p", ".clinerules", "a.md"] := by
    intro files member
    rcases List.mem_pair.mp member with rfl | rfl
    · decide +kernel
    · decide +kernel
  exact ⟨by decide +kernel, by decide +kernel, ⟨alike, by decide +kernel⟩, linkedAlike,
    by decide +kernel, sameOutput, by decide +kernel⟩

end Compiler

end RuleCompiler
