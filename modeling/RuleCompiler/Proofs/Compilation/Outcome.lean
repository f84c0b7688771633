import RuleCompiler.Proofs.Compilation.Delivery
import RuleCompiler.Proofs.Compilation.Run
import RuleCompiler.Proofs.Selection

/-!
How a compilation ends, whatever its providers and its engine do. Each destination gives one result,
in order; the compilation fails only when there are results and all of them failed. A destination
is unknown only if no provider is registered for it, which cannot happen to a selected one.
-/

namespace RuleCompiler

/-! ### Outcomes -/

/-- There are results, and each of them failed. -/
def AllFailed (results : List DestinationResult) : Prop :=
  results ≠ [] ∧ ∀ result ∈ results, result.success = false

/-- There are results, and none of them failed. -/
def AllSucceeded (results : List DestinationResult) : Prop :=
  results ≠ [] ∧ ∀ result ∈ results, result.success = true

namespace Outcome

variable {results : List DestinationResult}

theorem countP_failed_eq_zero_iff :
    (results.countP fun result => !result.success) = 0 ↔
      ∀ result ∈ results, result.success = true := by
  rw [List.countP_eq_zero]
  apply forall₂_congr
  intro result _
  rw [Bool.not_eq_true', Bool.not_eq_false]

theorem countP_failed_eq_length_iff :
    (results.countP fun result => !result.success) = results.length ↔
      ∀ result ∈ results, result.success = false := by
  rw [List.countP_eq_length]
  apply forall₂_congr
  intro result _
  rw [Bool.not_eq_true']

theorem ofResults_nil : ofResults [] = .empty :=
  rfl

theorem ofResults_of_allSucceeded (succeeded : AllSucceeded results) :
    ofResults results = .success := by
  have nonempty : ¬ results.isEmpty = true := fun empty =>
    succeeded.1 (List.isEmpty_iff.mp empty)
  unfold ofResults
  dsimp only
  rw [if_neg nonempty, if_pos (countP_failed_eq_zero_iff.mpr succeeded.2)]

theorem ofResults_of_allFailed (failed : AllFailed results) :
    ofResults results = .failed results.length := by
  have nonempty : ¬ results.isEmpty = true := fun empty => failed.1 (List.isEmpty_iff.mp empty)
  have counted := countP_failed_eq_length_iff.mpr failed.2
  have positive : results.length ≠ 0 := fun none => failed.1 (List.length_eq_zero_iff.mp none)
  unfold ofResults
  dsimp only
  rw [counted, if_neg nonempty, if_neg positive, if_pos rfl]

theorem ofResults_of_mixed (nonempty : results ≠ []) (notFailed : ¬ AllFailed results)
    (notSucceeded : ¬ AllSucceeded results) :
    ∃ succeeded failed, ofResults results = .partialSuccess succeeded failed ∧
      0 < succeeded ∧ 0 < failed ∧ succeeded + failed = results.length ∧
      failed = results.countP fun result => !result.success := by
  have notEmpty : ¬ results.isEmpty = true := fun empty => nonempty (List.isEmpty_iff.mp empty)
  have someFailed : (results.countP fun result => !result.success) ≠ 0 :=
    fun none => notSucceeded ⟨nonempty, countP_failed_eq_zero_iff.mp none⟩
  have someSucceeded : (results.countP fun result => !result.success) ≠ results.length :=
    fun all => notFailed ⟨nonempty, countP_failed_eq_length_iff.mp all⟩
  have bounded : (results.countP fun result => !result.success) ≤ results.length :=
    List.countP_le_length
  unfold ofResults
  dsimp only
  rw [if_neg notEmpty, if_neg someFailed, if_neg someSucceeded]
  refine ⟨_, _, rfl, ?_, ?_, ?_, rfl⟩ <;> omega

/-- What an outcome says of the results of a report. -/
structure Describes (outcome : Outcome) (results : List DestinationResult) : Prop where
  empty : outcome = .empty ↔ results = []
  success : outcome = .success ↔ AllSucceeded results
  mixed : results ≠ [] → ¬ AllSucceeded results → ∃ succeeded failed,
    outcome = .partialSuccess succeeded failed ∧ 0 < succeeded ∧ 0 < failed ∧
    succeeded + failed = results.length ∧ failed = results.countP fun result => !result.success

theorem Describes.ne_failed {outcome : Outcome} (describes : outcome.Describes results)
    (failures : Nat) : outcome ≠ .failed failures := by
  rintro rfl
  have nonempty : results ≠ [] := by
    intro empty
    cases describes.empty.mpr empty
  have notSucceeded : ¬ AllSucceeded results := by
    intro succeeded
    cases describes.success.mpr succeeded
  obtain ⟨_, _, impossible, _⟩ := describes.mixed nonempty notSucceeded
  cases impossible

theorem describes_ofResults (notFailed : ¬ AllFailed results) :
    (ofResults results).Describes results := by
  by_cases nonempty : results = []
  · subst nonempty
    rw [ofResults_nil]
    exact
      { empty := iff_of_true rfl rfl
        success := iff_of_false nofun fun all => all.1 rfl
        mixed := fun some => absurd rfl some }
  · by_cases succeeded : AllSucceeded results
    · rw [ofResults_of_allSucceeded succeeded]
      exact
        { empty := iff_of_false nofun nonempty
          success := iff_of_true rfl succeeded
          mixed := fun _ notSucceeded => absurd succeeded notSucceeded }
    · obtain ⟨good, bad, outcome, counts⟩ := ofResults_of_mixed nonempty notFailed succeeded
      rw [outcome]
      exact
        { empty := iff_of_false nofun nonempty
          success := iff_of_false nofun succeeded
          mixed := fun _ _ => ⟨good, bad, rfl, counts⟩ }

end Outcome

/-! ### Unknown providers -/

/-- An action that never answers that a provider is unknown. -/
def KnowsProvider {α : Type} (action : RunAction α) : Prop :=
  ∀ state id, (action.run state).1 ≠ .error (.unknownProvider id)

namespace KnowsProvider

variable {α β : Type}

theorem pure (value : α) : KnowsProvider (Pure.pure value : RunAction α) := by
  intro state id impossible
  cases impossible

theorem ofState (action : StateM RunState α) : KnowsProvider (liftM action : RunAction α) := by
  intro state id impossible
  rw [run_ofState] at impossible
  cases impossible

theorem bind {action : RunAction α} {onward : α → RunAction β} (knows : KnowsProvider action)
    (next : ∀ value, KnowsProvider (onward value)) : KnowsProvider (action >>= onward) := by
  intro state id
  rw [run_bind]
  rcases ran : action.run state with ⟨answer, after⟩
  cases answer with
  | ok value => exact next value after id
  | error cause =>
      intro unknown
      apply knows state id
      rw [ran]
      exact congrArg Except.error (Except.error.inj unknown)

theorem attempt {ε : Type} {change : ε → DestinationError}
    (other : ∀ cause id, change cause ≠ .unknownProvider id) (action : Action ε α) :
    KnowsProvider (RunState.attempt change action) := by
  intro state id unknown
  rw [RunState.attempt_run] at unknown
  cases answer : (action.run state.workspace).1 with
  | ok value =>
      rw [answer] at unknown
      cases unknown
  | error cause =>
      rw [answer] at unknown
      exact other cause id (Except.error.inj unknown)

end KnowsProvider

namespace Compiler

variable (compiler : Compiler) (run : RunStamp) (document : Document) (project : ProjectConfig)
  (options : CompileOptions)

theorem knowsProvider_prepare (provider : Provider) :
    KnowsProvider (prepare provider document project) := by
  unfold prepare
  cases provider.preparation with
  | none => exact KnowsProvider.pure _
  | some prepare =>
      apply KnowsProvider.attempt
      intro cause id impossible
      cases impossible

theorem knowsProvider_content (scope : DestinationScope) :
    KnowsProvider (compiler.content run document options scope) := by
  unfold content
  cases scope.templating.enabled with
  | false => exact KnowsProvider.pure _
  | true =>
      rw [if_pos rfl]
      unfold render
      apply KnowsProvider.bind (KnowsProvider.ofState _)
      intro partials
      apply KnowsProvider.attempt
      intro cause id impossible
      cases impossible

theorem knowsProvider_deliver (provider : Provider) :
    KnowsProvider (compiler.deliver run document project options provider) := by
  unfold deliver
  apply KnowsProvider.bind (knowsProvider_prepare document project provider)
  intro preparation
  apply KnowsProvider.bind (KnowsProvider.ofState _)
  intro told
  apply KnowsProvider.bind (compiler.knowsProvider_content run document options _)
  intro content
  apply KnowsProvider.bind (KnowsProvider.ofState _)
  intro state
  apply KnowsProvider.bind
  · apply KnowsProvider.attempt
    intro cause id impossible
    cases impossible
  · intro written
    exact KnowsProvider.pure _

theorem compileFor_ne_unknownProvider {destination : String} {provider : Provider}
    (found : compiler.registry.get? destination = some provider) :
    KnowsProvider (compiler.compileFor run document project options destination) := by
  unfold compileFor
  rw [found]
  exact compiler.knowsProvider_deliver run document project options provider

theorem mem_resultsFor {destinations : List String} {state : RunState}
    {result : DestinationResult}
    (member : result ∈ (compiler.resultsFor run document project options destinations state).1) :
    result.destinationId ∈ destinations ∧
    ∃ before, result.delivery =
      ((compiler.compileFor run document project options result.destinationId).run before).1 := by
  induction destinations generalizing state with
  | nil => cases member
  | cons destination rest ih =>
      rw [resultsFor_cons] at member
      rcases List.mem_cons.mp member with first | later
      · rw [first]
        exact ⟨List.mem_cons_self, state, rfl⟩
      · obtain ⟨inRest, delivered⟩ := ih later
        exact ⟨List.mem_cons_of_mem _ inRest, delivered⟩

end Compiler

theorem Registry.get?_of_mem_ids {registry : Registry} {id : String} (known : id ∈ registry.ids) :
    ∃ provider, registry.get? id = some provider := by
  obtain ⟨provider, active, named⟩ := List.mem_map.mp known
  apply Option.isSome_iff_exists.mp
  exact List.find?_isSome.mpr ⟨provider, active, beq_iff_eq.mpr named⟩

theorem Registry.get?_of_not_mem_ids {registry : Registry} {id : String}
    (unknown : id ∉ registry.ids) : registry.get? id = none := by
  apply List.find?_eq_none.mpr
  intro provider active named
  exact unknown (List.mem_map.mpr ⟨provider, active, eq_of_beq named⟩)

namespace DestinationResult

theorem error?_isSome (result : DestinationResult) :
    result.error?.isSome = !result.success := by
  unfold error? success
  cases result.delivery with
  | ok delivery => rfl
  | error cause => rfl

theorem delivery_of_error? {result : DestinationResult} {cause : DestinationError}
    (failed : result.error? = some cause) : result.delivery = .error cause := by
  unfold error? at failed
  cases delivered : result.delivery with
  | ok delivery =>
      rw [delivered] at failed
      cases failed
  | error other =>
      rw [delivered] at failed
      rw [Option.some.inj failed]

end DestinationResult

namespace Compiler

theorem selected_known (compiler : Compiler) (run : RunStamp) (document : Document)
    (project : ProjectConfig) (options : CompileOptions) {state : RunState}
    {result : DestinationResult}
    (member : result ∈ (compiler.resultsFor run document project options
      (compiler.select document project) state).1) (id : String) :
    result.error? ≠ some (.unknownProvider id) := by
  intro unknown
  obtain ⟨selected, before, delivered⟩ :=
    mem_resultsFor compiler run document project options member
  have sublist := Selection.select_sublist document.frontmatter project compiler.registry.ids
  obtain ⟨provider, found⟩ := Registry.get?_of_mem_ids (sublist.subset selected)
  rw [DestinationResult.delivery_of_error? unknown] at delivered
  exact compileFor_ne_unknownProvider compiler run document project options found before id
    delivered.symm

theorem compile_answer_cases (compiler : Compiler) (run : RunStamp) (document : Document)
    (choice : DestinationChoice) (project : ProjectConfig) (options : CompileOptions)
    (workspace : Workspace) :
    ∃ state results, (compiler.resultsFor run document project options
        (compiler.destinations document project choice) state).1 = results ∧
      (AllFailed results ∧
          ((compiler.compile run document choice project options).run workspace).1 =
            .error { source := document.label, results } ∨
        ¬ AllFailed results ∧
          ((compiler.compile run document choice project options).run workspace).1 =
            .ok { run, source := document.label, results }) := by
  obtain ⟨state, results, ranEq, answer⟩ :=
    compile_answer compiler run document project options choice workspace
  refine ⟨state, results, ranEq, ?_⟩
  rw [answer]
  by_cases failed : AllFailed results
  · left
    rw [Outcome.ofResults_of_allFailed failed]
    exact ⟨failed, rfl⟩
  · right
    refine ⟨failed, ?_⟩
    split
    · next failures isFailed =>
        exact absurd isFailed ((Outcome.describes_ofResults failed).ne_failed failures)
    · rfl

theorem allFailed_of_compile_error {compiler : Compiler} {run : RunStamp} {document : Document}
    {choice : DestinationChoice} {project : ProjectConfig} {options : CompileOptions}
    {workspace after : Workspace} {failure : TotalFailure}
    (ran : (compiler.compile run document choice project options).run workspace =
      (.error failure, after)) : AllFailed failure.results := by
  obtain ⟨state, results, _, answered⟩ :=
    compile_answer_cases compiler run document choice project options workspace
  rw [ran] at answered
  rcases answered with ⟨failed, isError⟩ | ⟨_, isOk⟩
  · cases isError
    exact failed
  · cases isOk

/-- How a compilation ends: one result for each destination, a failure exactly when there are
results and all failed, and otherwise a report whose outcome counts what succeeded and failed. -/
theorem compile_ends (compiler : Compiler) (run : RunStamp) (document : Document)
    (choice : DestinationChoice) (project : ProjectConfig) (options : CompileOptions)
    (workspace : Workspace) :
    let answer := ((compiler.compile run document choice project options).run workspace).1
    ∃ results : List DestinationResult,
      results.map DestinationResult.destinationId =
        (match choice with
          | .selected => Selection.select document.frontmatter project compiler.registry.ids
          | .only ids => ids.eraseDups) ∧
      (AllFailed results ∧ answer = .error { source := document.label, results } ∨
        ¬ AllFailed results ∧ ∃ report : Report, answer = .ok report ∧ report.run = run ∧
          report.source = document.label ∧ report.results = results ∧
          report.outcome.Describes results) ∧
      (∀ result ∈ results, result.error?.isSome = true ↔ result.success = false) ∧
      (choice = .selected →
        ∀ result ∈ results, ∀ id, result.error? ≠ some (.unknownProvider id)) := by
  intro answer
  obtain ⟨state, results, ranEq, answered⟩ :=
    compile_answer_cases compiler run document choice project options workspace
  refine ⟨results, ?ids, ?ends, ?errors, ?known⟩
  case ids =>
    rw [← ranEq, destinationId_resultsFor]
    cases choice with
    | selected => rfl
    | only ids => exact destinations_only compiler document project ids
  case ends =>
    rcases answered with ⟨failed, isError⟩ | ⟨notFailed, isOk⟩
    · exact Or.inl ⟨failed, isError⟩
    · exact Or.inr
        ⟨notFailed, _, isOk, rfl, rfl, rfl, Outcome.describes_ofResults notFailed⟩
  case errors =>
    intro result _
    rw [result.error?_isSome, Bool.not_eq_true']
  case known =>
    rintro rfl result member id
    rw [← ranEq] at member
    exact selected_known compiler run document project options member id

end Compiler

end RuleCompiler
