import FrontEnd.Proofs.Declaration.Custody
import FrontEnd.Proofs.Declaration.Steps
import FrontEnd.Proofs.Diagnostic.Queue

/-!
Reports of the declaration pass. The pass writes to the queue of diagnostics and never reads it, so
that what is declared is the same whatever was reported before. A template is registered without a
report exactly if no error is found in it; it is then exported under its name.
-/

namespace FrontEnd

theorem DeclareError.isError_report (err : DeclareError) (ctx : TypeContext) (names : Interner)
    (source : SourceId) (span : TokenSpan) : (err.report ctx names source span).isError = true := by
  cases err <;> rfl

namespace ModuleSource

variable {source : ModuleSource} {definition : Definition} {parameters : List TemplateParameter}
  {state : Declaring}

/-- The steps change nothing but the type tables, and report what they report whatever was reported
before. All that they report are errors. -/
def TablesOnly (steps : DeclareM α) : Prop :=
  ∀ state : Declaring, ∃ value types diags, (∀ diag ∈ diags, diag.isError = true) ∧
    ∀ queue, steps.run { state with queue } =
      (value, { state with types, queue := queue.extend diags })

/-- Whatever was reported before, the steps report nothing. -/
def Silent (steps : DeclareM α) (state : Declaring) : Prop :=
  ∀ queue, (steps.run { state with queue }).2.queue = queue

theorem tablesOnly_pure (value : α) : TablesOnly (pure value) :=
  fun state => ⟨value, state.types, [], nofun, fun _ => rfl⟩

theorem tablesOnly_bind {steps : DeclareM α} {rest : α → DeclareM β} (first : TablesOnly steps)
    (second : ∀ value, TablesOnly (rest value)) : TablesOnly (steps >>= rest) := by
  intro state
  obtain ⟨value, types, diags, errors, ran⟩ := first state
  obtain ⟨result, types', diags', errors', ran'⟩ := second value { state with types }
  refine ⟨result, types', diags ++ diags', List.forall_mem_append.2 ⟨errors, errors'⟩,
    fun queue => ?_⟩
  have both : queue.extend (diags ++ diags') = (queue.extend diags).extend diags' :=
    List.foldl_append
  rw [both]
  exact (run_bind_of (ran queue)).trans (ran' _)

/-- What is declared so far is read, and the queue is no part of it. -/
theorem tablesOnly_exports {rest : Exports → DeclareM α} (each : ∀ exports, TablesOnly (rest exports)) :
    TablesOnly (do rest (← get).exports) :=
  fun state => each state.exports state

theorem tablesOnly_report (err : DeclareError) (span : TokenSpan) :
    TablesOnly (source.report err span) :=
  fun state => ⟨(), state.types, [err.report state.types source.names source.tree.source span],
    List.forall_mem_singleton.2 (err.isError_report _ _ _ _), fun _ => rfl⟩

/-- Resolving changes nothing but the type tables. -/
theorem Resolving.tablesOnly {steps : DeclareM α} (resolving : source.Resolving steps) :
    TablesOnly steps := by
  induction resolving with
  | pure value => exact tablesOnly_pure value
  | report err span => exact tablesOnly_report err span
  | text text span =>
    refine tablesOnly_bind (fun state => ?_) fun result => ?_
    · let resolved := outcome (Scope.resolveText ⟨source.names, state.exports, source.imports⟩ text)
        state.types
      exact ⟨resolved.1, resolved.2, [], nofun, fun queue => rfl⟩
    · cases result with
      | ok ty => exact tablesOnly_pure ty
      | error err => exact tablesOnly_bind (tablesOnly_report err span) fun _ => tablesOnly_pure _
  | intern form plain =>
    exact fun state => ⟨(state.types.intern form).1, (state.types.intern form).2, [], nofun, fun _ => rfl⟩
  | exports each ih => exact tablesOnly_exports ih
  | bind first second ih ih' => exact tablesOnly_bind ih ih'

/-- The parameters of a template are the same whatever was reported before. -/
theorem templateParameters_run (source : ModuleSource) (definition : Definition)
    (state : Declaring) : ∃ parameters types diags, ∀ queue,
    (source.templateParameters definition).run { state with queue } =
      (parameters, { state with types, queue := queue.extend diags }) := by
  have resolving : source.Resolving (source.templateParameters definition) :=
    resolving_templateParameters definition
  obtain ⟨parameters, types, diags, -, ran⟩ := resolving.tablesOnly state
  exact ⟨parameters, types, diags, ran⟩

/-! ### Registering -/

/-- The body that is registered for a template, and the errors that are found in it. -/
def templateBody (source : ModuleSource) (definition : Definition)
    (parameters : List TemplateParameter) (state : Declaring) :
    TemplateBody × List (DeclareError × TokenSpan) :=
  ((source.templateScope definition parameters state).body source.tree definition).run []

/-- The template that is registered for a definition. -/
def templateOf (source : ModuleSource) (definition : Definition)
    (parameters : List TemplateParameter) (state : Declaring) : TemplateDef where
  name := definition.name
  parameters
  body := (source.templateBody definition parameters state).1

/-- The queue after some errors are reported. -/
def reported (source : ModuleSource) (types : TypeContext)
    (errors : List (DeclareError × TokenSpan)) (queue : DiagnosticQueue) : DiagnosticQueue :=
  errors.foldl (fun queue (err, span) =>
    queue.push (err.report types source.names source.tree.source span)) queue

variable (source) in
theorem reports_run (errors : List (DeclareError × TokenSpan)) (state : Declaring) :
    (errors.forM fun (err, span) => source.report err span).run state =
      ((), { state with queue := source.reported state.types errors state.queue }) := by
  induction errors generalizing state with
  | nil => rfl
  | cons first rest ih =>
    obtain ⟨err, span⟩ := first
    have ran : (source.report err span).run state = ((), { state with
      queue := state.queue.push (err.report state.types source.names source.tree.source span) }) := rfl
    exact (run_bind_of ran).trans (ih _)

private theorem registerTemplate_run (state : Declaring) :
    (source.registerTemplate definition parameters).run state =
      match state.types.registerTemplate (source.templateOf definition parameters state) with
      | .ok (id, types) => ((), {
          types
          queue := source.reported types (source.templateBody definition parameters state).2
            state.queue
          exports := state.exports.addTemplate definition.name id })
      | .error err => ((), { state with
          queue := source.reported state.types
            ((source.templateBody definition parameters state).2 ++
              [(.template err, definition.span)]) state.queue }) := by
  have start : (get : DeclareM Declaring).run state = (state, state) := rfl
  refine (run_bind_of start).trans ?_
  unfold templateOf templateBody
  dsimp only
  generalize ((source.templateScope definition parameters state).body source.tree definition).run []
    = made
  obtain ⟨body, errors⟩ := made
  dsimp only
  cases state.types.registerTemplate { name := definition.name, parameters, body } with
  | ok made =>
    obtain ⟨id, types⟩ := made
    have told := source.reports_run errors { state with types }
    have changed : (set { state with types } : DeclareM Unit).run state = ((), { state with types }) :=
      rfl
    exact (run_bind_of changed).trans ((run_bind_of told).trans rfl)
  | error err =>
    have all : source.reported state.types (errors ++ [(.template err, definition.span)])
        state.queue = (source.reported state.types errors state.queue).push
          (DeclareError.template err |>.report state.types source.names source.tree.source
            definition.span) := List.foldl_append
    refine (run_bind_of (source.reports_run errors state)).trans ?_
    dsimp only
    rw [all]
    rfl

/-- A template that the tables take is exported, and the errors in its body are reported. -/
theorem registerTemplate_ok (state : Declaring) {id : TemplateId} {types : TypeContext}
    (registered : state.types.registerTemplate (source.templateOf definition parameters state) =
      .ok (id, types)) :
    (source.registerTemplate definition parameters).run state = ((), {
      types
      queue := source.reported types (source.templateBody definition parameters state).2 state.queue
      exports := state.exports.addTemplate definition.name id }) := by
  rw [registerTemplate_run, registered]

/-- A template that the tables refuse is reported after the errors in its body. -/
theorem registerTemplate_error (state : Declaring) {err : TemplateDefError}
    (refused : state.types.registerTemplate (source.templateOf definition parameters state) =
      .error err) :
    (source.registerTemplate definition parameters).run state = ((), { state with
      queue := source.reported state.types ((source.templateBody definition parameters state).2 ++
        [(.template err, definition.span)]) state.queue }) := by
  rw [registerTemplate_run, refused]

/-! ### Silence -/

/-- Reports are pushed one after the other. -/
theorem reported_eq_extend (source : ModuleSource) (types : TypeContext)
    (errors : List (DeclareError × TokenSpan)) (queue : DiagnosticQueue) :
    source.reported types errors queue = queue.extend (errors.map fun (err, span) =>
      err.report types source.names source.tree.source span) := by
  rw [DiagnosticQueue.extend, List.foldl_map]
  rfl

theorem reported_extends (source : ModuleSource) (types : TypeContext)
    (errors : List (DeclareError × TokenSpan)) (queue : DiagnosticQueue) :
    ∃ diags : List Diagnostic, (∀ diag ∈ diags, diag.isError = true) ∧
      source.reported types errors queue = queue.extend diags :=
  ⟨_, List.forall_mem_map.2 fun error _ => error.1.isError_report _ _ _ _,
    reported_eq_extend source types errors queue⟩

theorem reported_silent {types : TypeContext} {errors : List (DeclareError × TokenSpan)}
    {queue : DiagnosticQueue} (silent : (source.reported types errors queue).kept = []) :
    errors = [] := by
  rw [reported_eq_extend] at silent
  exact List.map_eq_nil_iff.1 (DiagnosticQueue.empty_of_extend silent).2

theorem declareTemplate_run (source : ModuleSource) (definition : Definition) (state : Declaring) :
    (source.declareTemplate definition).run state =
      if state.exports.declares definition.name then
        (source.report (.duplicate definition.name) definition.span).run state
      else match definition.unsupported? with
        | some subject =>
          (source.report (.unsupportedTemplate subject) definition.span).run state
        | none => (do
          source.registerTemplate definition
            (← source.templateParameters definition) : DeclareM Unit).run state := by
  have start : (get : DeclareM Declaring).run state = (state, state) := rfl
  unfold declareTemplate
  refine (run_bind_of start).trans ?_
  split
  · rfl
  · cases definition.unsupported? <;> rfl

end ModuleSource

end FrontEnd
