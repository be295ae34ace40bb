import FrontEnd.Proofs.Declaration.Pass
import FrontEnd.Proofs.Diagnostic.Queue

/-!
What the declaration pass does to the queue: it pushes errors and does nothing else, so that what was
kept before stays kept.
-/

namespace FrontEnd

namespace ModuleSource

variable {source : ModuleSource} {state after : Declaring}

/-- From the state on, the steps push errors and leave the queue alone otherwise. -/
def Pushes (steps : DeclareM α) (state : Declaring) : Prop :=
  ∃ diags, (∀ diag ∈ diags, diag.isError = true) ∧
    (steps.run state).2.queue = state.queue.extend diags

/-- Where nothing is kept in the end, nothing was kept before. -/
theorem Pushes.silent {steps : DeclareM α} (pushes : Pushes steps state)
    (silent : (steps.run state).2.queue.kept = []) : state.queue.kept = [] := by
  obtain ⟨diags, -, pushed⟩ := pushes
  rw [pushed] at silent
  exact (DiagnosticQueue.empty_of_extend silent).1

/-! ### Steps one after the other -/

theorem TablesOnly.pushes {steps : DeclareM α} (only : TablesOnly steps) (state : Declaring) :
    Pushes steps state := by
  obtain ⟨value, types, diags, errors, ran⟩ := only state
  have same : steps.run state = _ := ran state.queue
  exact ⟨diags, errors, congrArg (fun result => result.2.queue) same⟩

/-- Steps that leave the queue as it is push nothing. -/
theorem pushes_of_same {steps : DeclareM α} (same : (steps.run state).2.queue = state.queue) :
    Pushes steps state :=
  ⟨[], nofun, same⟩

theorem pushes_bind {steps : DeclareM α} {rest : α → DeclareM β} (first : Pushes steps state)
    (second : ∀ value after, Pushes (rest value) after) : Pushes (steps >>= rest) state := by
  obtain ⟨diags, errors, ran⟩ := first
  obtain ⟨diags', errors', ran'⟩ := second (steps.run state).1 (steps.run state).2
  refine ⟨diags ++ diags', List.forall_mem_append.2 ⟨errors, errors'⟩, ran'.trans ?_⟩
  rw [ran]
  exact List.foldl_append.symm

/-- Steps that begin with the state know it. -/
theorem pushes_get {rest : Declaring → DeclareM β} (next : Pushes (rest state) state) :
    Pushes (get >>= rest) state :=
  next

theorem pushes_forM {steps : α → DeclareM Unit} (each : ∀ x after, Pushes (steps x) after)
    (xs : List α) (state : Declaring) : Pushes (xs.forM steps) state := by
  induction xs generalizing state with
  | nil => exact pushes_of_same rfl
  | cons x rest ih => exact pushes_bind (each x state) fun _ after => ih after

theorem pushes_report (err : DeclareError) (span : TokenSpan) (state : Declaring) :
    Pushes (source.report err span) state :=
  (tablesOnly_report err span).pushes state

theorem pushes_updateExports (change : Exports → Exports) (state : Declaring) :
    Pushes (updateExports change) state :=
  pushes_of_same rfl

/-! ### Declarations -/

theorem pushes_declareNominal (definition : Definition) (kind : DefKind) (state : Declaring) :
    Pushes (source.declareNominal definition kind) state := by
  unfold declareNominal
  refine pushes_get ?_
  split
  · exact pushes_bind (pushes_report _ _ _) fun _ after => pushes_of_same rfl
  · split
    · exact pushes_bind (pushes_report _ _ _) fun _ after => pushes_of_same rfl
    · refine pushes_bind (pushes_of_same rfl) fun _ after => ?_
      split
      · exact pushes_bind (pushes_updateExports _ _) fun _ last => pushes_of_same rfl
      · exact pushes_of_same rfl

theorem pushes_declareNominals (definitions : List Definition) (state : Declaring) :
    Pushes (source.declareNominals definitions) state := by
  induction definitions generalizing state with
  | nil => exact pushes_of_same rfl
  | cons definition rest ih =>
    unfold declareNominals
    split
    · exact ih state
    · split
      · exact ih state
      · refine pushes_bind (pushes_declareNominal _ _ _) fun declared after => ?_
        exact pushes_bind (ih after) fun others last => pushes_of_same rfl

theorem pushes_registerTemplate (definition : Definition) (parameters : List TemplateParameter)
    (state : Declaring) : Pushes (source.registerTemplate definition parameters) state := by
  cases registered : state.types.registerTemplate (source.templateOf definition parameters state) with
  | ok made =>
    obtain ⟨id, types⟩ := made
    unfold Pushes
    rw [registerTemplate_ok state registered]
    exact source.reported_extends _ _ _
  | error err =>
    unfold Pushes
    rw [registerTemplate_error state registered]
    exact source.reported_extends _ _ _

theorem pushes_declareTemplate (definition : Definition) (state : Declaring) :
    Pushes (source.declareTemplate definition) state := by
  unfold Pushes
  rw [declareTemplate_run]
  split
  · exact pushes_report _ _ _
  · split
    · exact pushes_report _ _ _
    · refine pushes_bind ?_ fun parameters after => pushes_registerTemplate _ _ _
      exact (resolving_templateParameters definition).tablesOnly.pushes state

theorem pushes_declareAlias (definition : Definition) (state : Declaring) :
    Pushes (source.declareAlias definition) state := by
  unfold declareAlias
  refine pushes_get ?_
  split
  · exact pushes_report _ _ _
  · refine pushes_bind ((resolving_statedType _ _ _).tablesOnly.pushes state) fun target after => ?_
    exact pushes_updateExports _ _

theorem pushes_defineNominal (definition : Definition) (ty : TypeId) (state : Declaring) :
    Pushes (source.defineNominal definition ty) state := by
  refine pushes_bind ((resolving_bodyOf definition).tablesOnly.pushes state) fun body after => pushes_get ?_
  split
  · exact pushes_of_same rfl
  · exact pushes_report _ _ _

theorem pushes_declareFunction (definition : Definition) (state : Declaring) :
    Pushes (source.declareFunction definition) state :=
  pushes_bind ((resolving_signature definition).tablesOnly.pushes state) fun _ _ =>
    pushes_updateExports _ _

/-! ### The pass -/

theorem pushes_declareBehind (pending : List (Definition × TypeId)) (state : Declaring) :
    Pushes (source.declareBehind pending) state := by
  refine pushes_bind (pushes_forM pushes_declareTemplate _ _) fun _ after => ?_
  refine pushes_bind (pushes_forM pushes_declareAlias _ _) fun _ after => ?_
  refine pushes_bind (pushes_forM (fun declared => pushes_defineNominal _ _) _ _) fun _ after => ?_
  exact pushes_forM pushes_declareFunction _ _

theorem pushes_declare (source : ModuleSource) (state : Declaring) : Pushes source.declare state :=
  pushes_bind (pushes_declareNominals _ _) fun pending after => pushes_declareBehind pending after

end ModuleSource

/-- Declaring a module adds errors and takes no diagnostic away. -/
theorem queue_declareModule (source : ModuleSource) (types : TypeContext) (queue : DiagnosticQueue) :
    ∃ diags, (∀ diag ∈ diags, diag.isError = true) ∧
      (declareModule source types queue).queue = queue.extend diags :=
  source.pushes_declare { types, queue }

/-- Declaring a module drops no error unless one is kept. -/
theorem DiagnosticQueue.Honest.declareModule {queue : DiagnosticQueue} (honest : queue.Honest)
    (source : ModuleSource) (types : TypeContext) :
    (FrontEnd.declareModule source types queue).queue.Honest := by
  obtain ⟨diags, -, pushed⟩ := queue_declareModule source types queue
  rw [pushed]
  exact honest.extend diags

end FrontEnd
