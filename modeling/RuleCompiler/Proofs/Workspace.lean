import RuleCompiler.Workspace

/-!
Workspaces that differ in their logs alone. An action that respects this relation answers the same
from either of two such workspaces and leaves them so; the relation between states is a parameter,
because the states of a compilation are compared in the same way. Nothing here looks into the log.
-/

namespace RuleCompiler

section Run

variable {σ ε α β : Type}

theorem run_bind (action : ExceptT ε (StateM σ) α) (onward : α → ExceptT ε (StateM σ) β)
    (state : σ) :
    (action >>= onward).run state =
      match action.run state with
      | (.ok value, after) => (onward value).run after
      | (.error cause, after) => (.error cause, after) := by
  change ExceptT.bindCont onward (action.run state).1 (action.run state).2 = _
  rcases action.run state with ⟨_ | _, _⟩ <;> rfl

theorem run_bind_ok {action : ExceptT ε (StateM σ) α} {state after : σ} {value : α}
    (ran : action.run state = (.ok value, after)) (onward : α → ExceptT ε (StateM σ) β) :
    (action >>= onward).run state = (onward value).run after := by
  rw [run_bind, ran]

theorem run_bind_error {action : ExceptT ε (StateM σ) α} {state after : σ} {cause : ε}
    (ran : action.run state = (.error cause, after)) (onward : α → ExceptT ε (StateM σ) β) :
    (action >>= onward).run state = (.error cause, after) := by
  rw [run_bind, ran]

theorem run_get (state : σ) :
    (get : ExceptT ε (StateM σ) σ).run state = (.ok state, state) :=
  rfl

theorem run_bind_pure (action : ExceptT ε (StateM σ) α) (change : α → β) (state : σ) :
    (action >>= fun value => pure (change value)).run state =
      ((action.run state).1.map change, (action.run state).2) := by
  rw [run_bind]
  rcases action.run state with ⟨_ | _, _⟩ <;> rfl

theorem run_ofExcept (answer : Except ε α) (state : σ) :
    (liftM answer : ExceptT ε (StateM σ) α).run state = (answer, state) := by
  cases answer <;> rfl

theorem run_ofState (action : StateM σ α) (state : σ) :
    (liftM action : ExceptT ε (StateM σ) α).run state =
      (.ok (action state).1, (action state).2) :=
  rfl

end Run

section Respect

variable {σ ε α β : Type} {related : σ → σ → Prop}

/-- From related states an action gives one answer and goes on to related states. -/
def Respects (related : σ → σ → Prop) (action : StateM σ α) : Prop :=
  ∀ first second, related first second →
    (action first).1 = (action second).1 ∧ related (action first).2 (action second).2

theorem Respects.pure (value : α) : Respects related (Pure.pure value : StateM σ α) :=
  fun _ _ alike => ⟨rfl, alike⟩

theorem Respects.bind {action : StateM σ α} {onward : α → StateM σ β}
    (respects : Respects related action) (next : ∀ value, Respects related (onward value)) :
    Respects related (action >>= onward) := by
  intro first second alike
  obtain ⟨sameAnswer, stillAlike⟩ := respects first second alike
  have continued := next (action first).1 (action first).2 (action second).2 stillAlike
  change (onward (action first).1 (action first).2).1 =
      (onward (action second).1 (action second).2).1 ∧
    related (onward (action first).1 (action first).2).2
      (onward (action second).1 (action second).2).2
  rw [← sameAnswer]
  exact continued

/-- A failure ends both runs in the same way. -/
theorem Respects.bindExcept {action : ExceptT ε (StateM σ) α} {onward : α → ExceptT ε (StateM σ) β}
    (respects : Respects related action.run)
    (next : ∀ value, Respects related (onward value).run) :
    Respects related (action >>= onward).run := by
  rw [ExceptT.run_bind]
  apply Respects.bind respects
  intro answer
  cases answer with
  | ok value => exact next value
  | error cause => exact Respects.pure (Except.error cause)

/-- An action that starts by looking, and sees the same in related states. -/
theorem Respects.get {onward : σ → ExceptT ε (StateM σ) α}
    (sees : ∀ first second, related first second → onward first = onward second)
    (next : ∀ first second, related first second → Respects related (onward second).run) :
    Respects related (MonadState.get >>= onward).run := by
  intro first second alike
  simp only [run_bind, run_get]
  rw [sees first second alike]
  exact next first second alike first second alike

theorem Respects.ofExcept (answer : Except ε α) :
    Respects related (liftM answer : ExceptT ε (StateM σ) α).run := by
  intro first second alike
  rw [run_ofExcept, run_ofExcept]
  exact ⟨rfl, alike⟩

theorem Respects.ofState {action : StateM σ α} (respects : Respects related action) :
    Respects related (liftM action : ExceptT ε (StateM σ) α).run := by
  intro first second alike
  rw [run_ofState, run_ofState, (respects first second alike).1]
  exact ⟨rfl, (respects first second alike).2⟩

end Respect

namespace Workspace

structure Alike (first second : Workspace) : Prop where
  files : first.files = second.files
  collected : first.collected = second.collected

theorem Alike.refl (workspace : Workspace) : Alike workspace workspace :=
  ⟨rfl, rfl⟩

theorem Alike.symm {first second : Workspace} (alike : Alike first second) : Alike second first :=
  ⟨alike.files.symm, alike.collected.symm⟩

theorem Alike.trans {first second third : Workspace} (before : Alike first second)
    (after : Alike second third) : Alike first third :=
  ⟨before.files.trans after.files, before.collected.trans after.collected⟩

/-- An action that changes nothing but the log. -/
def OnlyLogs {α : Type} (action : StateM Workspace α) : Prop :=
  ∀ workspace, Alike (action workspace).2 workspace

/-- An action whose answer and whose changes do not depend on the log. -/
abbrev IgnoresLog {α : Type} (action : StateM Workspace α) : Prop :=
  Respects Alike action

section Logging

variable {α : Type}

theorem OnlyLogs.pure (value : α) : OnlyLogs (Pure.pure value) :=
  fun workspace => Alike.refl workspace

theorem onlyLogs_tell (record : LogRecord) : OnlyLogs (tell record) :=
  fun _ => ⟨rfl, rfl⟩

theorem OnlyLogs.ignoresLog {action : StateM Workspace α} (logs : OnlyLogs action)
    (sameAnswer : ∀ first second, Alike first second → (action first).1 = (action second).1) :
    IgnoresLog action := by
  intro first second alike
  refine ⟨sameAnswer first second alike, ?_⟩
  exact (logs first).trans (alike.trans (logs second).symm)

theorem ignoresLog_tell (record : LogRecord) : IgnoresLog (tell record) :=
  (onlyLogs_tell record).ignoresLog fun _ _ _ => rfl

theorem ignoresLog_get {ε : Type} {onward : Workspace → Action ε α}
    (sees : ∀ first second, Alike first second → onward first = onward second)
    (next : ∀ seen, IgnoresLog (onward seen).run) : IgnoresLog (get >>= onward).run :=
  Respects.get sees fun _ seen _ => next seen

theorem ignoresLog_ofExcept {ε : Type} (answer : Except ε α) :
    IgnoresLog (liftM answer : Action ε α).run :=
  Respects.ofExcept answer

theorem ignoresLog_ofState {ε : Type} {action : StateM Workspace α} (ignores : IgnoresLog action) :
    IgnoresLog (liftM action : Action ε α).run :=
  Respects.ofState ignores

theorem ignoresLog_collect (target : MergedTarget) (root : Path) (source : DocumentSource)
    (contents : String) (diagnostics : List Diagnostic) :
    IgnoresLog (collect target root source contents diagnostics) := by
  intro first second alike
  unfold collect
  rw [alike.files, alike.collected]
  exact ⟨rfl, ⟨rfl, rfl⟩⟩

end Logging

end Workspace

end RuleCompiler
