import RuleCompiler.Compilation.Run
import RuleCompiler.Proofs.Partial.Discovery
import RuleCompiler.Proofs.Provider.Writing
import RuleCompiler.Proofs.Registry

/-!
What compiling a document for one destination does, when the provider is a built-in one and the
engine is pure. Up to the provider's write only the log and the partials known so far can change,
and the text that reaches the provider is a function of the files.
-/

namespace RuleCompiler

namespace RunState

theorem act_run {α : Type} (action : StateM Workspace α) (state : RunState) :
    act action state =
      ((action state.workspace).1, { state with workspace := (action state.workspace).2 }) :=
  rfl

theorem attempt_run {ε α : Type} (change : ε → DestinationError) (action : Action ε α)
    (state : RunState) :
    (attempt change action).run state =
      ((action.run state.workspace).1.mapError change,
        { state with workspace := (action.run state.workspace).2 }) := by
  unfold attempt
  change act (action.mapError change) state = _
  rw [act_run]
  have mapped := Action.mapError_run change action state.workspace
  rw [ExceptT.run] at mapped
  rw [mapped]

end RunState

theorem TemplateEngine.isPure_standard : TemplateEngine.standard.IsPure :=
  fun body context options =>
    ⟨Template.render body context options, fun workspace => run_ofExcept _ workspace⟩

theorem TemplateEngine.IsPure.render_run {engine : TemplateEngine} (pure : engine.IsPure)
    (body : String) (context : Value) (options : RenderOptions) (workspace : Workspace) :
    (engine.render body context options).run workspace =
      (((engine.render body context options).run {}).1, workspace) := by
  obtain ⟨answer, always⟩ := pure body context options
  rw [always, always]

namespace Compiler

/-- The built-in providers, and an engine that is pure. -/
structure IsBuiltin (compiler : Compiler) : Prop where
  registry : compiler.registry = Registry.builtin
  engine : compiler.engine.IsPure

theorem isBuiltin_forProject (environment : Environment) (workingDirectory root : Path) :
    (forProject Registry.builtin environment workingDirectory root).IsBuiltin where
  registry := by dsimp only [forProject]
  engine := TemplateEngine.isPure_standard

/-- The built-in providers, for a document whose body a pure engine renders if it is a template. -/
structure ServesBuiltin (compiler : Compiler) (document : Document) (project : ProjectConfig) :
    Prop where
  registry : compiler.registry = Registry.builtin
  engine : (Templating.decide none document.frontmatter project).enabled = true →
    compiler.engine.IsPure

theorem IsBuiltin.serves {compiler : Compiler} (isBuiltin : compiler.IsBuiltin)
    {document : Document} {project : ProjectConfig} : compiler.ServesBuiltin document project where
  registry := isBuiltin.registry
  engine _ := isBuiltin.engine

theorem ServesBuiltin.ofPlain {compiler : Compiler} {document : Document} {project : ProjectConfig}
    (builtin : compiler.registry = Registry.builtin)
    (plain : (Templating.decide none document.frontmatter project).enabled = false) :
    compiler.ServesBuiltin document project where
  registry := builtin
  engine enabled := by
    rw [plain] at enabled
    cases enabled

theorem mem_builtin {compiler : Compiler} (registry : compiler.registry = Registry.builtin)
    {id : String} {provider : Provider} (found : compiler.registry.get? id = some provider) :
    provider ∈ Provider.builtin := by
  rw [registry] at found
  exact Registry.mem_builtin_of_get? found

/-- The partials of the directories as a compilation sees them: those that it knows already, or
else those that the files hold. -/
def seenPartials (compiler : Compiler) (document : Document) (state : RunState) :
    KeyedList String :=
  state.ambient.getD
    (compiler.partialDirectories.discovered document.source.path state.workspace.files)

def knownAfter (compiler : Compiler) (document : Document) (options : CompileOptions)
    (templating : Templating.Decision) (state : RunState) : Option (KeyedList String) :=
  if templating.enabled && options.partials.isNone then some (compiler.seenPartials document state)
  else state.ambient

/-- The text for a provider, with these partials of the directories. -/
def contentWith (compiler : Compiler) (run : RunStamp) (document : Document)
    (options : CompileOptions) (scope : DestinationScope) (seen : KeyedList String) :
    Except DestinationError String :=
  if scope.templating.enabled then
    ((compiler.engine.render document.source.contents (compiler.context run document scope)
      { helpers := scope.template.helpers
        partials := scope.template.partials.foldl
          (fun map (name, text) => map.insert name text) (options.partials.getD seen)
        strict := scope.template.strict.getD false
        noEscape := scope.template.noEscape.getD true }).run {}).1.mapError
      (DestinationError.rendering document.label scope.provider.id)
  else .ok document.source.contents

theorem rendering_of_contentWith_error {compiler : Compiler} {run : RunStamp} {document : Document}
    {options : CompileOptions} {scope : DestinationScope} {seen : KeyedList String}
    {cause : DestinationError}
    (failed : compiler.contentWith run document options scope seen = .error cause) :
    ∃ inner, cause = .rendering document.label scope.provider.id inner := by
  unfold contentWith at failed
  split at failed
  · generalize ((compiler.engine.render _ _ _).run {}).1 = rendered at failed
    cases rendered with
    | ok text => cases failed
    | error inner => exact ⟨inner, (Except.error.inj failed).symm⟩
  · cases failed

theorem ambientPartials_run (compiler : Compiler) (document : Document) (state : RunState) :
    ∃ log, compiler.ambientPartials document state =
      (compiler.seenPartials document state,
        { workspace := { state.workspace with log }
          ambient := some (compiler.seenPartials document state) }) := by
  obtain ⟨workspace, ambient⟩ := state
  cases ambient with
  | some known => exact ⟨workspace.log, rfl⟩
  | none =>
      obtain ⟨log, found⟩ := PartialDirectories.discover_run compiler.wording
        compiler.partialDirectories document.source.path workspace
      refine ⟨log, ?_⟩
      change ((compiler.partialDirectories.discover compiler.wording document.source.path
          workspace).1,
        RunState.mk (compiler.partialDirectories.discover compiler.wording document.source.path
          workspace).2 (some (compiler.partialDirectories.discover compiler.wording
            document.source.path workspace).1)) = _
      rw [found]
      rfl

theorem partials_run (compiler : Compiler) (document : Document) (options : CompileOptions)
    (overrides : TemplateOverrides) (state : RunState) :
    ∃ log, compiler.partials document options overrides state =
      (overrides.partials.foldl (fun map (name, text) => map.insert name text)
          (options.partials.getD (compiler.seenPartials document state)),
        { workspace := { state.workspace with log }
          ambient :=
            if options.partials.isNone then some (compiler.seenPartials document state)
            else state.ambient }) := by
  unfold partials
  cases options.partials with
  | some given => exact ⟨state.workspace.log, rfl⟩
  | none =>
      obtain ⟨log, seen⟩ := ambientPartials_run compiler document state
      refine ⟨log, ?_⟩
      change (overrides.partials.foldl (fun map (name, text) => map.insert name text)
        (compiler.ambientPartials document state).1,
        (compiler.ambientPartials document state).2) = _
      rw [seen]
      rfl

theorem content_run {compiler : Compiler} (run : RunStamp) (document : Document)
    (options : CompileOptions) (scope : DestinationScope)
    (engine : scope.templating.enabled = true → compiler.engine.IsPure) (state : RunState) :
    ∃ log, (compiler.content run document options scope).run state =
      (compiler.contentWith run document options scope (compiler.seenPartials document state),
        { workspace := { state.workspace with log }
          ambient := compiler.knownAfter document options scope.templating state }) := by
  unfold content contentWith knownAfter
  cases enabled : scope.templating.enabled with
  | false => exact ⟨state.workspace.log, rfl⟩
  | true =>
      simp only [if_true, Bool.true_and]
      obtain ⟨log, gathered⟩ := partials_run compiler document options scope.template state
      refine ⟨log, ?_⟩
      unfold render
      rw [run_bind_ok (run_ofState _ _), gathered, RunState.attempt_run,
        (engine enabled).render_run]

/-- What the preparation of a built-in provider settles for a destination. -/
def settled (provider : Provider) (document : Document) (project : ProjectConfig) :
    DestinationScope :=
  scopeOf provider document project
    { template := provider.templateFor
        { document
          project
          destination := DestinationConfig.resolve provider.id document.frontmatter project } }

theorem settled_templating {provider : Provider} (member : provider ∈ Provider.builtin)
    (document : Document) (project : ProjectConfig) :
    (settled provider document project).templating =
      Templating.decide none document.frontmatter project := by
  have quiet := Provider.preparesQuietly member
  unfold settled scopeOf
  dsimp only
  rw [quiet.force]

theorem contentWith_of_plain {compiler : Compiler} {document : Document} {project : ProjectConfig}
    (run : RunStamp) (options : CompileOptions) {provider : Provider}
    (member : provider ∈ Provider.builtin)
    (plain : (Templating.decide none document.frontmatter project).enabled = false)
    (seen : KeyedList String) :
    compiler.contentWith run document options (settled provider document project) seen =
      .ok document.source.contents := by
  unfold contentWith
  rw [settled_templating member, plain]
  rfl

theorem prepare_run {provider : Provider} (member : provider ∈ Provider.builtin)
    (document : Document) (project : ProjectConfig) (state : RunState) :
    ∃ preparation log, (prepare provider document project).run state =
        (.ok preparation, { state with workspace := { state.workspace with log } }) ∧
      scopeOf provider document project preparation = settled provider document project := by
  have quiet := Provider.preparesQuietly member
  unfold prepare
  cases hook : provider.preparation with
  | none =>
      refine ⟨{}, state.workspace.log, rfl, ?_⟩
      unfold settled Provider.templateFor
      rw [hook]
  | some prepare =>
      let request : PrepareRequest :=
        { document
          project
          destination := DestinationConfig.resolve provider.id document.frontmatter project }
      obtain ⟨log, prepared⟩ := quiet.answer prepare hook request state.workspace
      refine ⟨{ template := provider.templateFor request }, log, ?_, rfl⟩
      dsimp only
      rw [RunState.attempt_run, prepared]
      rfl

section Deliver

variable {compiler : Compiler} {provider : Provider} (run : RunStamp) (document : Document)
  (project : ProjectConfig) (options : CompileOptions) (state : RunState)

def beforeWrite (compiler : Compiler) (provider : Provider) (document : Document)
    (project : ProjectConfig) (options : CompileOptions) (state : RunState)
    (log : List LogRecord) : RunState :=
  { workspace := { state.workspace with log }
    ambient := compiler.knownAfter document options (settled provider document project).templating
      state }

private theorem deliver_head (serves : compiler.ServesBuiltin document project)
    (member : provider ∈ Provider.builtin) :
    ∃ log, (compiler.deliver run document project options provider).run state =
      (do
        let content ← liftM (compiler.contentWith run document options
          (settled provider document project) (compiler.seenPartials document state))
        let workingDirectory := (← get).workspace.files.workingPath
        let written ← RunState.attempt DestinationError.provider
          (provider.write (compiler.writeRequest workingDirectory document
            (settled provider document project) content))
        return { written, templating := (settled provider document project).templating } :
          RunAction Delivery).run
        (compiler.beforeWrite provider document project options state log) := by
  obtain ⟨preparation, prepareLog, prepared, scope⟩ := prepare_run member document project state
  unfold deliver
  rw [run_bind_ok prepared]
  dsimp only
  rw [scope]
  have told : (ExceptT.lift (RunState.act (tellTemplating provider.id
      (settled provider document project).templating)) : RunAction Unit).run
        { state with workspace := { state.workspace with log := prepareLog } } =
      (.ok (), { state with workspace := { state.workspace with log := prepareLog ++ [_] } }) := rfl
  rw [run_bind_ok told]
  generalize prepareLog ++ [_] = log
  have engine : (settled provider document project).templating.enabled = true →
      compiler.engine.IsPure := by
    rw [settled_templating member]
    exact serves.engine
  obtain ⟨contentLog, contentRan⟩ := content_run run document options
    (settled provider document project) engine
    { state with workspace := { state.workspace with log } }
  refine ⟨contentLog, ?_⟩
  rw [run_bind, contentRan, run_bind, run_ofExcept]
  rfl

theorem deliver_of_error (serves : compiler.ServesBuiltin document project)
    (member : provider ∈ Provider.builtin)
    {cause : DestinationError}
    (failed : compiler.contentWith run document options (settled provider document project)
      (compiler.seenPartials document state) = .error cause) :
    ∃ log, (compiler.deliver run document project options provider).run state =
      (.error cause, compiler.beforeWrite provider document project options state log) := by
  obtain ⟨log, ran⟩ := deliver_head run document project options state serves member
  refine ⟨log, ?_⟩
  rw [ran, failed, run_bind_error (run_ofExcept _ _)]

theorem deliver_of_ok (serves : compiler.ServesBuiltin document project)
    (member : provider ∈ Provider.builtin)
    {content : String}
    (rendered : compiler.contentWith run document options (settled provider document project)
      (compiler.seenPartials document state) = .ok content) :
    ∃ log, ∀ answer after,
      (provider.write (compiler.writeRequest state.workspace.files.workingPath document
        (settled provider document project) content)).run { state.workspace with log } =
          (answer, after) →
      (compiler.deliver run document project options provider).run state =
        ((answer.mapError DestinationError.provider).map fun written =>
            { written, templating := (settled provider document project).templating },
          { compiler.beforeWrite provider document project options state log with
            workspace := after }) := by
  obtain ⟨log, ran⟩ := deliver_head run document project options state serves member
  refine ⟨log, fun answer after wrote => ?_⟩
  rw [ran, rendered, run_bind_ok (run_ofExcept _ _), run_bind_ok (run_get _)]
  dsimp only
  rw [run_bind_pure, RunState.attempt_run]
  dsimp only [beforeWrite]
  rw [wrote]

end Deliver

/-- A compilation for a destination ends before the provider is asked to write, with no more than
the log and the known partials changed; or the write decides how it ends. -/
theorem compileFor_cases {compiler : Compiler} {run : RunStamp} {document : Document}
    {project : ProjectConfig} {options : CompileOptions}
    (serves : compiler.ServesBuiltin document project)
    {destination : String} {state after : RunState} {delivery : Except DestinationError Delivery}
    (ran : (compiler.compileFor run document project options destination).run state =
      (delivery, after)) :
    (after = state ∧ ∃ id, delivery = .error (.unknownProvider id)) ∨
    ∃ provider log, compiler.registry.get? destination = some provider ∧
      ((after = compiler.beforeWrite provider document project options state log ∧
          ∃ cause, delivery = .error (.rendering document.label provider.id cause)) ∨
        ∃ content answer workspace,
          compiler.contentWith run document options (settled provider document project)
            (compiler.seenPartials document state) = .ok content ∧
          (provider.write (compiler.writeRequest state.workspace.files.workingPath document
            (settled provider document project) content)).run { state.workspace with log } =
              (answer, workspace) ∧
          delivery = (answer.mapError DestinationError.provider).map (fun written =>
            { written, templating := (settled provider document project).templating }) ∧
          after = { compiler.beforeWrite provider document project options state log with
            workspace }) := by
  unfold compileFor at ran
  cases found : compiler.registry.get? destination with
  | none =>
      rw [found] at ran
      cases ran
      exact Or.inl ⟨rfl, _, rfl⟩
  | some provider =>
      have member := mem_builtin serves.registry found
      rw [found] at ran
      dsimp only at ran
      right
      cases rendered : compiler.contentWith run document options
          (settled provider document project) (compiler.seenPartials document state) with
      | error cause =>
          obtain ⟨log, delivered⟩ :=
            deliver_of_error run document project options state serves member rendered
          rw [delivered] at ran
          cases ran
          obtain ⟨inner, rfl⟩ := rendering_of_contentWith_error rendered
          exact ⟨provider, log, rfl, Or.inl ⟨rfl, inner, rfl⟩⟩
      | ok content =>
          obtain ⟨log, delivered⟩ :=
            deliver_of_ok run document project options state serves member rendered
          rcases wrote : (provider.write (compiler.writeRequest state.workspace.files.workingPath
            document (settled provider document project) content)).run
              { state.workspace with log } with ⟨answer, workspace⟩
          rw [delivered _ _ wrote] at ran
          cases ran
          exact ⟨provider, log, rfl, Or.inr
            ⟨content, answer, workspace, rendered, wrote, rfl, rfl⟩⟩

end Compiler

end RuleCompiler
