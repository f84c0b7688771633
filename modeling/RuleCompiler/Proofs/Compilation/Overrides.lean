import RuleCompiler.Proofs.Compilation.Run
import RuleCompiler.Proofs.Compilation.Stages
import RuleCompiler.Proofs.Registry.History

/-!
Overrides of a preparation are one with a merged project configuration. A provider whose preparation
does no more than override the configuration is asked to write what it would be asked to write
without a preparation, when the project has the merged configuration.
-/

namespace RuleCompiler

/-- The provider with a preparation that does no more than override the configuration. -/
def Provider.overriding (provider : Provider) (overrides : Value) : Provider :=
  { provider with preparation := some fun _ => return { projectOverrides := some overrides } }

theorem Provider.eq_of_builtin_id {provider other : Provider} (member : provider ∈ Provider.builtin)
    (otherMember : other ∈ Provider.builtin) (same : provider.id = other.id) : provider = other :=
  List.inj_on_of_nodup_map (f := Provider.id) (by decide) member otherMember same

theorem Provider.id_overriding (provider : Provider) (overrides : Value) :
    (provider.overriding overrides).id = provider.id :=
  rfl

namespace Compiler

/-- The compiler with a provider accepted in the place of the one with its id. -/
def equipped (compiler : Compiler) (provider : Provider) : Compiler :=
  { compiler with
    registry := { compiler.registry with
      active := Registry.enlist provider compiler.registry.active } }

variable {compiler : Compiler} {provider : Provider} {id : String} {run again : RunStamp}

theorem get?_equipped (found : compiler.registry.get? id = some provider) (overrides : Value) :
    (compiler.equipped (provider.overriding overrides)).registry.get? id =
      some (provider.overriding overrides) := by
  have named : (provider.overriding overrides).id = id :=
    (provider.id_overriding overrides).trans (Registry.id_of_get? found)
  unfold equipped Registry.get?
  dsimp only
  rw [Registry.find?_enlist, if_pos named]

theorem ids_equipped (found : compiler.registry.get? id = some provider) (overrides : Value) :
    (compiler.equipped (provider.overriding overrides)).registry.ids = compiler.registry.ids := by
  have member : provider ∈ compiler.registry.active := List.mem_of_find?_eq_some found
  apply Registry.ids_enlist_of_mem
  exact List.mem_map.mpr ⟨provider, member, rfl⟩

/-! ### One destination -/

section Destination

variable (document : Document) (project : ProjectConfig) (overrides : Value)
  (options : CompileOptions)

theorem prepare_overriding :
    prepare (provider.overriding overrides) document project =
      pure { projectOverrides := some overrides } :=
  rfl

theorem prepare_unhooked (unhooked : provider.preparation = none) :
    prepare provider document project = pure {} := by
  unfold prepare
  rw [unhooked]

/-- What is settled with the overrides is what is settled without them over the merged
configuration; only the provider carries the preparation. -/
theorem scopeOf_overriding :
    scopeOf (provider.overriding overrides) document project
        { projectOverrides := some overrides } =
      { scopeOf provider document (project.mergedWith overrides) {} with
        provider := provider.overriding overrides } :=
  rfl

theorem context_overriding (found : compiler.registry.get? id = some provider)
    (sameClock : again.startedAt = run.startedAt) (scope : DestinationScope)
    (served : scope.provider = provider) :
    (compiler.equipped (provider.overriding overrides)).context run document
        { scope with provider := provider.overriding overrides } =
      compiler.context again document scope := by
  unfold context
  rw [ids_equipped found overrides, sameClock, served]
  rfl

theorem call?_overriding (found : compiler.registry.get? id = some provider)
    (sameClock : again.startedAt = run.startedAt) (scope : DestinationScope)
    (served : scope.provider = provider) :
    (compiler.equipped (provider.overriding overrides)).call? run document options
        { scope with provider := provider.overriding overrides } =
      compiler.call? again document options scope := by
  have samePartials : (compiler.equipped (provider.overriding overrides)).partials document options =
      compiler.partials document options := rfl
  unfold call?
  rw [samePartials, context_overriding document overrides found sameClock scope served]

/-- The same decision is taken and the provider is asked to write the same. -/
theorem handed_overriding (found : compiler.registry.get? id = some provider)
    (unhooked : provider.preparation = none) (sameClock : again.startedAt = run.startedAt) :
    (compiler.equipped (provider.overriding overrides)).handed run document project options
        (provider.overriding overrides) =
      compiler.handed again document (project.mergedWith overrides) options provider := by
  unfold handed asked
  rw [prepare_overriding, prepare_unhooked document _ unhooked]
  simp only [bind_assoc, pure_bind, scopeOf_overriding]
  congr 1
  funext told
  rw [call?_overriding document overrides options found sameClock _ rfl]
  congr 1

theorem write_overriding (request : WriteRequest) :
    (provider.overriding overrides).write request = provider.write request := by
  unfold Provider.write Provider.overriding
  cases provider.writing with
  | artifacts mode => rfl
  | own write => rfl

theorem compileFor_overriding (found : compiler.registry.get? id = some provider)
    (unhooked : provider.preparation = none) (sameClock : again.startedAt = run.startedAt) :
    (compiler.equipped (provider.overriding overrides)).compileFor run document project options id =
      compiler.compileFor again document (project.mergedWith overrides) options id := by
  unfold compileFor
  rw [get?_equipped found overrides, found]
  dsimp only
  rw [deliver_eq_handed, deliver_eq_handed,
    handed_overriding document project overrides options found unhooked sameClock]
  simp only [write_overriding]

end Destination

end Compiler

/-! ### Runs that differ in their logs -/

/-- States of compilations that differ in their logs alone. -/
structure RunState.Alike (first second : RunState) : Prop where
  workspace : first.workspace.Alike second.workspace
  ambient : first.ambient = second.ambient

namespace RunState

theorem respects_act {α : Type} {action : StateM Workspace α}
    (ignores : Workspace.IgnoresLog action) : Respects Alike (act action) := by
  intro first second alike
  obtain ⟨sameAnswer, after⟩ := ignores _ _ alike.workspace
  rw [act_run, act_run]
  exact ⟨sameAnswer, after, alike.ambient⟩

theorem respects_attempt {ε α : Type} {change : ε → DestinationError} {action : Action ε α}
    (ignores : Workspace.IgnoresLog action.run) : Respects Alike (attempt change action).run :=
  respects_act (Action.ignoresLog_mapError change ignores)

theorem respects_lift {α : Type} {action : StateM RunState α} (respects : Respects Alike action) :
    Respects Alike (liftM action : RunAction α).run := by
  intro first second alike
  obtain ⟨sameAnswer, after⟩ := respects first second alike
  rw [run_ofState, run_ofState, sameAnswer]
  exact ⟨rfl, after⟩

end RunState

namespace Compiler

/-- Neither the engine nor the write of the provider looks into the log. -/
structure LeavesLogUnread (compiler : Compiler) (provider : Provider) : Prop where
  engine : ∀ body context options,
    Workspace.IgnoresLog (compiler.engine.render body context options).run
  write : ∀ request, Workspace.IgnoresLog (provider.write request).run

theorem IsBuiltin.leavesLogUnread {compiler : Compiler} (isBuiltin : compiler.IsBuiltin)
    {provider : Provider} (member : provider ∈ Provider.builtin) :
    compiler.LeavesLogUnread provider where
  engine body context options := by
    obtain ⟨answer, always⟩ := isBuiltin.engine body context options
    intro first second alike
    rw [always, always]
    exact ⟨rfl, alike⟩
  write := Provider.ignoresLog_write member

variable {compiler : Compiler} {provider : Provider} {id : String} (run : RunStamp)
  (document : Document) (project : ProjectConfig) (options : CompileOptions)

theorem respects_partials (overrides : TemplateOverrides) :
    Respects RunState.Alike (compiler.partials document options overrides) := by
  intro first second alike
  obtain ⟨firstLog, firstRan⟩ := partials_run compiler document options overrides first
  obtain ⟨secondLog, secondRan⟩ := partials_run compiler document options overrides second
  have sameSeen : compiler.seenPartials document first = compiler.seenPartials document second := by
    unfold seenPartials
    rw [alike.ambient, alike.workspace.files]
  rw [firstRan, secondRan, sameSeen, alike.ambient]
  exact ⟨rfl, ⟨alike.workspace.files, alike.workspace.collected⟩, rfl⟩

theorem respects_asked (unhooked : provider.preparation = none) :
    Respects RunState.Alike (compiler.asked run document project options provider).run := by
  unfold asked
  rw [prepare_unhooked document project unhooked, pure_bind]
  apply Respects.bindExcept
    (RunState.respects_lift (RunState.respects_act (Workspace.ignoresLog_tell _)))
  intro told
  refine Respects.bindExcept ?_ fun call => Respects.pure _
  unfold call?
  split
  · apply Respects.bindExcept (RunState.respects_lift (respects_partials document options _))
    exact fun partials => Respects.pure _
  · exact Respects.pure _

theorem respects_compileFor (found : compiler.registry.get? id = some provider)
    (unhooked : provider.preparation = none) (unread : compiler.LeavesLogUnread provider) :
    Respects RunState.Alike (compiler.compileFor run document project options id).run := by
  unfold compileFor
  rw [found]
  dsimp only
  rw [deliver_eq_handed]
  refine Respects.bindExcept ?handed fun answer =>
    Respects.bindExcept (RunState.respects_attempt (unread.write _)) fun written => Respects.pure _
  case handed =>
    apply Respects.bindExcept (respects_asked run document project options unhooked)
    rintro ⟨scope, call⟩
    refine Respects.bindExcept ?answered fun content => ?_
    case answered =>
      cases call with
      | some call => exact RunState.respects_attempt (unread.engine _ _ _)
      | none => exact Respects.pure _
    intro first second alike
    rw [run_bind, run_bind, run_get, run_get]
    dsimp only
    rw [alike.workspace.files]
    exact ⟨rfl, alike⟩

/-- A compilation for one destination gives the result of that destination. -/
private theorem compile_single {choice : DestinationChoice}
    (single : compiler.destinations document project choice = [id]) (workspace : Workspace) :
    ∃ log, ∀ delivered, (compiler.compileFor run document project options id).run
        { workspace := { workspace with log } } = delivered →
      resultsOf ((compiler.compile run document choice project options).run workspace).1 =
          [{ destinationId := id, delivery := delivered.1 }] ∧
        ((compiler.compile run document choice project options).run workspace).2.Alike
          delivered.2.workspace := by
  obtain ⟨log, ran⟩ := compile_run compiler run document project options choice workspace
  refine ⟨log, fun delivered ends => ?_⟩
  obtain ⟨results, alike⟩ := ran _ rfl
  rw [single, resultsFor_cons, ends] at results alike
  exact ⟨results, alike.trans (onlyLogs_tellResult compiler run document.label _ _)⟩

theorem destinations_only_single (compiler : Compiler) (id : String) :
    compiler.destinations document project (.only [id]) = [id] := by
  rw [destinations_only]
  rfl

/-- A preparation that does no more than override the project configuration does what the merged
configuration does without a preparation: the decision about templates, the rendered body, the
configuration of the destination and the merged configuration that reach the provider are the same,
and so are the answer of the compilation and the files and collections that it leaves. -/
theorem compile_overriding (compiler : Compiler) {id : String} {provider : Provider}
    (registered : compiler.registry.get? id = some provider)
    (unhooked : provider.preparation = none) (unread : compiler.LeavesLogUnread provider)
    (run again : RunStamp) (sameClock : again.startedAt = run.startedAt) (document : Document)
    (project : ProjectConfig) (overrides : Value) (options : CompileOptions)
    (workspace : Workspace) :
    let hooked := compiler.equipped (provider.overriding overrides)
    let merged := project.mergedWith overrides
    let one := (hooked.compile run document (.only [id]) project options).run workspace
    let other := (compiler.compile again document (.only [id]) merged options).run workspace
    hooked.registry.get? id = some (provider.overriding overrides) ∧
    hooked.handed run document project options (provider.overriding overrides) =
      compiler.handed again document merged options provider ∧
    one.1 = other.1.map (fun report => { report with run }) ∧
    one.2.files = other.2.files ∧ one.2.collected = other.2.collected := by
  intro hooked merged one other
  obtain ⟨oneLog, oneRan⟩ := compile_single run document project options
    (destinations_only_single document project hooked id) workspace
  obtain ⟨otherLog, otherRan⟩ := compile_single again document merged options
    (destinations_only_single document merged compiler id) workspace
  have sameAction := compileFor_overriding document project overrides options registered unhooked
    sameClock
  obtain ⟨sameAnswer, sameEffects⟩ :=
    respects_compileFor again document merged options registered unhooked unread
      { workspace := { workspace with log := oneLog } }
      { workspace := { workspace with log := otherLog } } ⟨⟨rfl, rfl⟩, rfl⟩
  obtain ⟨oneResults, oneAfter⟩ := oneRan _ (congrFun (congrArg ExceptT.run sameAction) _)
  obtain ⟨otherResults, otherAfter⟩ := otherRan _ rfl
  have sameResults : resultsOf one.1 = resultsOf other.1 := by
    rw [oneResults, otherResults, sameAnswer]
  have alike : one.2.Alike other.2 :=
    oneAfter.trans (sameEffects.workspace.trans otherAfter.symm)
  refine ⟨get?_equipped registered overrides,
    handed_overriding document project overrides options registered unhooked sameClock, ?answer,
    alike.files, alike.collected⟩
  case answer =>
    generalize gave : resultsOf other.1 = results at sameResults
    have oneAnswer := compile_answer_of_results hooked run document project options sameResults
    have otherAnswer := compile_answer_of_results compiler again document merged options gave
    rw [oneAnswer, otherAnswer]
    cases Outcome.ofResults results with
    | empty => rfl
    | success => rfl
    | partialSuccess succeeded failures => rfl
    | failed failures => rfl

/-- Overrides that make the body a template, and name a team in the place of the project's. -/
theorem compile_overriding_team :
    let compiler := forProject Registry.builtin {} ⟨"/"⟩ ⟨"/p"⟩
    let provider := Provider.Cline.provider
    let document : Document :=
      { source :=
          { id := "a.md"
            path := some ⟨"/p/a.md"⟩
            contents := "Ask \x7b\x7bproject.team\x7d\x7d" }
        metadata := { frontmatter := .object [] } }
    let project : ProjectConfig := { fields := [("team", .string "tools")] }
    let overrides : Value :=
      .object [("rule", .object [("template", .bool true)]), ("team", .string "docs")]
    let hooked := compiler.equipped (provider.overriding overrides)
    let merged := project.mergedWith overrides
    let run : RunStamp := ⟨"1", "2024-05-01T10:00:00"⟩
    let again : RunStamp := ⟨"2", "2024-05-01T10:00:00"⟩
    let one := (hooked.compile run document (.only ["cline"]) project {}).run {}
    let other := (compiler.compile again document (.only ["cline"]) merged {}).run {}
    compiler.registry.get? "cline" = some provider ∧ provider.preparation = none ∧
      compiler.LeavesLogUnread provider ∧ again.startedAt = run.startedAt ∧
      (one.2.files.readText ⟨"/p/.clinerules/a.md"⟩).toOption = some "Ask docs\n" ∧
      hooked.handed run document project {} (provider.overriding overrides) =
        compiler.handed again document merged {} provider ∧
      one.1 = other.1.map (fun report => { report with run }) ∧
      one.2.files = other.2.files ∧ one.2.collected = other.2.collected := by
  intro compiler provider document project overrides hooked merged run again one other
  have isBuiltin : compiler.IsBuiltin := isBuiltin_forProject {} ⟨"/"⟩ ⟨"/p"⟩
  have member : provider ∈ Provider.builtin := by simp [provider, Provider.builtin]
  have known : (compiler.registry.get? "cline").isSome = true := by decide +kernel
  have registered : compiler.registry.get? "cline" = some provider := by
    obtain ⟨served, found⟩ := Option.isSome_iff_exists.mp known
    rw [found, Provider.eq_of_builtin_id (mem_builtin isBuiltin.registry found) member
      (Registry.id_of_get? found)]
  have unread : compiler.LeavesLogUnread provider := isBuiltin.leavesLogUnread member
  have same :=
    compile_overriding compiler registered rfl unread run again rfl document project overrides {} {}
  refine ⟨registered, rfl, unread, rfl, by decide +kernel, ?_⟩
  dsimp only [one, other, hooked, merged]
  exact same.2

end Compiler

end RuleCompiler
