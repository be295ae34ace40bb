import FrontEnd.Proofs.Declaration.Expression
import FrontEnd.Proofs.Declaration.Parallel
import FrontEnd.Proofs.Declaration.Reports

/-!
The declaration pass makes requests of the type tables and nothing else, and none of them mentions a
type that was not given out before. So what holds after all such requests holds after a pass and
between its steps. A template that was exported once stays exported.
-/

namespace FrontEnd

open TypeContext (Leads)

namespace ModuleSource

variable {source : ModuleSource} {state after : Declaring}

/-- What holds of a pass between its steps: the tables are orderly, and every type that a name means
was given out. -/
structure Fit (source : ModuleSource) (state : Declaring) : Prop where
  types : state.types.Orderly
  scope : (Scope.mk source.names state.exports source.imports).Inside state.types.extent

/-- The steps make requests of the tables only, keep the templates that are exported, leave the pass
as it may be between its steps, and give what was given out. -/
structure Makes [Renames α] (source : ModuleSource) (state : Declaring) (steps : DeclareM α) :
    Prop where
  leads : Leads state.types (steps.run state).2.types
  templates : ∀ (name : Name) id, state.exports.templates[name]? = some id →
    (steps.run state).2.exports.templates[name]? = some id
  fit : source.Fit (steps.run state).2
  known : Known (steps.run state).2.types.extent (steps.run state).1

theorem Fit.reading (fit : source.Fit state) :
    (Reading.ofScope ⟨source.names, state.exports, source.imports⟩).Inside state.types.extent where
  argument name argument found := by cases found
  lookup name ty found := fit.scope.lookup found

theorem Fit.known (fit : source.Fit state) (text : String) :
    Known state.types.extent (source.lookup? state.exports text) := by
  cases found : source.lookup? state.exports text with
  | none => exact known_none
  | some entry =>
    cases entry with
    | type ty => exact known_some.2 (known_typeEntry.2 (fit.scope.lookup found))
    | template id => exact fun _ _ _ => rfl

theorem Fit.within (fit : source.Fit state) (leads : Leads state.types after.types) :
    state.types.extent.Within after.types.extent :=
  (leads.orderly fit.types).2.1

/-- More requests of the tables leave a pass as it may be between its steps. -/
theorem Fit.onward (fit : source.Fit state) {types : TypeContext} (leads : Leads state.types types) :
    source.Fit { state with types } := by
  obtain ⟨orderly, within, -⟩ := leads.orderly fit.types
  exact ⟨orderly, fun exports member => (fit.scope exports member).within within⟩

theorem Fit.addType (fit : source.Fit state) {name : Name} {ty : TypeId}
    (known : Known state.types.extent ty) :
    source.Fit { state with exports := state.exports.addType name ty } := by
  refine ⟨fit.types, fun exports member => ?_⟩
  rcases List.mem_cons.1 member with rfl | member
  · intro other own found
    simp only [Exports.addType, Std.HashMap.getElem?_insert] at found
    split at found
    · cases found
      exact known
    · exact fit.scope _ List.mem_cons_self other own found
  · exact fit.scope exports (List.mem_cons_of_mem _ member)

/-! ### Steps one after the other -/

section Steps

variable [Renames α] [Renames β] {steps : DeclareM α} {rest : α → DeclareM β} {value : α}

theorem makes_pure (fit : source.Fit state) (known : Known state.types.extent value) :
    source.Makes state (pure value) :=
  ⟨.refl _, fun _ _ found => found, fit, known⟩

theorem makes_of_run (ran : steps.run state = (value, after)) (leads : Leads state.types after.types)
    (templates : ∀ (name : Name) id, state.exports.templates[name]? = some id →
      after.exports.templates[name]? = some id)
    (fit : source.Fit after) (known : Known after.types.extent value) :
    source.Makes state steps := by
  constructor <;> rw [ran] <;> assumption

theorem makes_bind (first : source.Makes state steps)
    (second : ∀ value after, Leads state.types after.types → source.Fit after →
      Known after.types.extent value → source.Makes after (rest value)) :
    source.Makes state (steps >>= rest) := by
  obtain ⟨leads, kept, fit, known⟩ := first
  obtain ⟨leads', kept', fit', known'⟩ := second _ _ leads fit known
  exact ⟨leads.trans leads', fun name id found => kept' name id (kept name id found), fit', known'⟩

/-- Steps that are known to leave a certain state go on from there. -/
theorem makes_after {α : Type} {steps : DeclareM α} {rest : α → DeclareM β} {value : α}
    (ran : steps.run state = (value, after)) (leads : Leads state.types after.types)
    (same : after.exports = state.exports) (next : source.Makes after (rest value)) :
    source.Makes state (steps >>= rest) := by
  obtain ⟨leads', kept, fit, known⟩ := next
  rw [same] at kept
  have whole : (steps >>= rest).run state = (rest value).run after := run_bind_of ran
  exact ⟨whole ▸ leads.trans leads', whole ▸ kept, whole ▸ fit, whole ▸ known⟩

theorem makes_forM {steps : γ → DeclareM Unit} {xs : List γ} (fit : source.Fit state)
    (each : ∀ x ∈ xs, ∀ after, Leads state.types after.types → source.Fit after →
      source.Makes after (steps x)) : source.Makes state (xs.forM steps) := by
  induction xs generalizing state with
  | nil => exact makes_pure fit (known_unit _)
  | cons x rest ih =>
    refine makes_bind (each x List.mem_cons_self state (.refl _) fit) fun _ middle leads fit _ => ?_
    exact ih fit fun y member after leads' => each y (List.mem_cons_of_mem _ member) after
      (leads.trans leads')

end Steps

/-! ### Types -/

theorem makes_report (fit : source.Fit state) (err : DeclareError) (span : TokenSpan) :
    source.Makes state (source.report err span) :=
  ⟨.refl _, fun _ _ found => found, ⟨fit.types, fit.scope⟩, known_unit _⟩

theorem makes_orError (fit : source.Fit state) (span : TokenSpan)
    {result : Except DeclareError TypeId}
    (known : ∀ ty, result = .ok ty → Known state.types.extent ty) :
    source.Makes state (source.orError span result) := by
  cases result with
  | ok ty => exact makes_pure fit (known ty rfl)
  | error err =>
    refine makes_bind (makes_report fit err span) fun _ after _ fit' _ => ?_
    exact makes_pure fit' (fit'.types.primitive (by decide))

theorem makes_typeOfText (fit : source.Fit state) (text : String) (span : TokenSpan) :
    source.Makes state (source.typeOfText text span) := by
  obtain ⟨leads, known⟩ := resolveText_requests text fit.types fit.reading
  rw [Reading.resolveText_ofScope] at leads known
  refine makes_after (inScope_run _) leads rfl ?_
  exact makes_orError (fit.onward leads) span known

theorem makes_intern (fit : source.Fit state) {form : TypeForm}
    (known : Known state.types.extent form) : source.Makes state (intern form) := by
  have leads : Leads state.types (state.types.intern form).2 :=
    TypeContext.leads_perform (known_internRequest.2 known)
  obtain ⟨-, -, -, -, given, -⟩ := fit.types.twin.intern known
  exact ⟨leads, fun _ _ found => found, fit.onward leads, given⟩

theorem makes_get [Renames β] {rest : Declaring → DeclareM β} (next : source.Makes state (rest state)) :
    source.Makes state (get >>= rest) :=
  makes_after rfl (.refl _) rfl next

theorem makes_parallel [Renames α] {extent : Extent} {shift : Renaming} {steps steps' : DeclareM α}
    (parallel : source.Parallel extent shift steps steps') (fit : source.Fit state)
    (same : state.types.extent = extent) : source.Makes state steps := by
  induction parallel generalizing state with
  | pure value known => exact makes_pure fit (same ▸ known)
  | primitive small => exact makes_pure fit (fit.types.primitive small)
  | report err span => exact makes_report fit err span
  | text text span => exact makes_typeOfText fit text span
  | intern plain known => exact makes_intern fit (same ▸ known)
  | lookup text only each ih => exact makes_get (ih _ (same ▸ fit.known text) fit same)
  | bind first _ _ second ih ih' =>
    subst same
    refine makes_bind (ih fit rfl) fun value after leads fit' known => ?_
    exact ih' _ _ value (.refl _ _) (fit.within leads) known fit' rfl

/-- Steps that treat all types alike make requests of the tables only. -/
theorem Parallel.makes [Renames α] {steps steps' : DeclareM α}
    (parallel : source.Parallel state.types.extent .id steps steps') (fit : source.Fit state) :
    source.Makes state steps :=
  makes_parallel parallel fit rfl

/-! ### Nominal definitions -/

/-- Adding a type to the exports, where it was given out. -/
theorem makes_addType (fit : source.Fit state) {name : Name} {ty : TypeId}
    (known : Known state.types.extent ty) :
    source.Makes state (updateExports (·.addType name ty)) :=
  ⟨.refl _, fun _ _ found => found, fit.addType known, known_unit _⟩

theorem declared_leads {ctx types : TypeContext} {entry : TypeDef} {definition : Definition}
    {kind : DefKind} (orderly : ctx.Orderly)
    (declared : ctx.declare (source.requestOf definition kind) = .ok (entry, types)) :
    Leads ctx types ∧ Known types.extent entry.type := by
  have leads : Leads ctx (ctx.answered (ctx.declare (source.requestOf definition kind))).2 :=
    TypeContext.leads_perform (fun _ _ _ => rfl : Known _ (TableRequest.declare _ _ _))
  have plain : Known ctx.extent (source.requestOf definition kind).specialization := known_none
  obtain ⟨-, -, -, -, given, -⟩ := orderly.twin.declare plain
  rw [declared] at leads given
  exact ⟨leads, (known_entry.1 (known_ok.1 given)).2.1⟩

theorem makes_declareNominal (fit : source.Fit state) (definition : Definition) (kind : DefKind) :
    source.Makes state (source.declareNominal definition kind) := by
  unfold declareNominal
  refine makes_get ?_
  split
  · refine makes_bind (makes_report fit _ _) fun _ after _ fit _ => ?_
    exact makes_pure fit known_none
  · split
    · refine makes_bind (makes_report fit _ _) fun _ after _ fit _ => ?_
      exact makes_pure fit known_none
    · rename_i entry types declared
      obtain ⟨leads, known⟩ := declared_leads fit.types declared
      refine makes_after rfl leads rfl ?_
      split
      · refine makes_bind (makes_addType (fit.onward leads) known) fun _ after leads' fit' _ => ?_
        exact makes_pure fit' (known_some.2 (known.within ((fit.onward leads).within leads')))
      · exact makes_pure (fit.onward leads) (known_some.2 known)

theorem makes_declareNominals (fit : source.Fit state) (definitions : List Definition) :
    source.Makes state (source.declareNominals definitions) := by
  induction definitions generalizing state with
  | nil => exact makes_pure fit known_nil
  | cons definition rest ih =>
    unfold declareNominals
    split
    · exact ih fit
    · rename_i kind _
      split
      · exact ih fit
      · refine makes_bind (makes_declareNominal fit definition kind) fun declared middle _ fit known =>
          makes_bind (ih fit) fun others after leads fit' known' => ?_
        refine makes_pure fit' (known_append.2 ⟨?_, known'⟩)
        cases declared with
        | none => exact known_nil
        | some ty =>
          have kept := (known_some.1 known).within (fit.within leads)
          exact known_cons.2 ⟨known_pair.2 ⟨fun _ _ _ => rfl, kept⟩, known_nil⟩

/-! ### Templates and aliases -/

theorem Fit.template (fit : source.Fit state) (definition : Definition)
    (parameters : List TemplateParameter) :
    (source.templateScope definition parameters state).Inside state.types.extent where
  outer := fit.scope
  primitive _ small := fit.types.primitive small

theorem makes_registerTemplate (fit : source.Fit state) {definition : Definition}
    {parameters : List TemplateParameter} (known : Known state.types.extent parameters)
    (free : state.exports.templates[definition.name]? = none) :
    source.Makes state (source.registerTemplate definition parameters) := by
  have inner : Known state.types.extent (source.templateOf definition parameters state) :=
    known_templateDef.2 ⟨known, TemplateScope.body_known (fit.template definition parameters) _ _⟩
  have leads : Leads state.types (state.types.answered
      (state.types.registerTemplate (source.templateOf definition parameters state))).2 :=
    TypeContext.leads_perform (known_registerRequest.2 inner)
  cases registered : state.types.registerTemplate (source.templateOf definition parameters state) with
  | error err =>
    refine makes_of_run (registerTemplate_error state registered) (.refl _) ?_ ?_ (known_unit _)
    · exact fun name id found => found
    · exact ⟨fit.types, fit.scope⟩
  | ok made =>
    obtain ⟨id, types⟩ := made
    rw [registered] at leads
    have fit' := fit.onward leads
    refine makes_of_run (registerTemplate_ok state registered) leads ?_ ?_ (known_unit _)
    · intro name other found
      have different : definition.name ≠ name := by
        rintro rfl
        rw [free] at found
        cases found
      simpa [Exports.addTemplate, Std.HashMap.getElem?_insert, different] using found
    · refine ⟨fit'.types, fun exports member => ?_⟩
      rcases List.mem_cons.1 member with rfl | member
      · exact fun name ty found => fit'.scope state.exports List.mem_cons_self name ty found
      · exact fit'.scope exports (List.mem_cons_of_mem _ member)

theorem makes_declareTemplate (fit : source.Fit state) (definition : Definition) :
    source.Makes state (source.declareTemplate definition) := by
  have reported : ∀ err, (source.declareTemplate definition).run state =
      (source.report err definition.span).run state →
      source.Makes state (source.declareTemplate definition) := by
    intro err ran
    obtain ⟨leads, templates, fit', known⟩ := makes_report fit err definition.span
    exact makes_of_run ran leads templates fit' known
  have ran := declareTemplate_run source definition state
  split at ran
  · exact reported _ ran
  · rename_i free
    split at ran
    · exact reported _ ran
    · obtain ⟨parameters, types, diags, made⟩ := source.templateParameters_run definition state
      have made := made state.queue
      obtain ⟨leads, -, fit', known⟩ := (parallel_templateParameters definition).makes fit
      rw [made] at leads fit' known
      have absent : state.exports.templates[definition.name]? = none := by
        simpa [Exports.declares] using (Bool.or_eq_false_iff.1 (Bool.eq_false_iff.2 free)).2
      have whole := makes_after made leads rfl (makes_registerTemplate fit' known absent)
      exact makes_of_run ran whole.leads whole.templates whole.fit whole.known

theorem makes_declareAlias (fit : source.Fit state) (definition : Definition) :
    source.Makes state (source.declareAlias definition) := by
  unfold declareAlias
  refine makes_get ?_
  split
  · exact makes_report fit _ _
  · refine makes_bind ((parallel_statedType _ _ _).makes fit) fun ty after _ fit' known => ?_
    exact makes_addType fit' known

/-! ### Bodies and functions -/

theorem makes_defineNominal (fit : source.Fit state) (definition : Definition) {ty : TypeId}
    (known : Known state.types.extent ty) :
    source.Makes state (source.defineNominal definition ty) := by
  refine makes_bind ((parallel_bodyOf definition).makes fit) fun body after leads fit' known' => makes_get ?_
  have request : Known after.types.extent (TableRequest.define ty body) :=
    known_defineRequest.2 ⟨known.within (fit.within leads), known'⟩
  have leads' : Leads after.types
      (after.types.answered ((after.types.define ty body).map ((), ·))).2 :=
    TypeContext.leads_perform request
  split
  · rename_i types defined
    rw [defined] at leads'
    exact makes_of_run rfl leads' (fun _ _ found => found) (fit'.onward leads') (known_unit _)
  · exact makes_report fit' _ _

theorem makes_declareFunction (fit : source.Fit state) (definition : Definition) :
    source.Makes state (source.declareFunction definition) := by
  refine makes_bind ((parallel_signature definition).makes fit) fun signature after _ fit' _ => ?_
  refine makes_of_run rfl (.refl _) (fun _ _ found => found) ?_ (known_unit _)
  refine ⟨fit'.types, fun exports member => ?_⟩
  rcases List.mem_cons.1 member with rfl | member
  · exact fun name ty found => fit'.scope after.exports List.mem_cons_self name ty found
  · exact fit'.scope exports (List.mem_cons_of_mem _ member)

/-! ### The pass -/

/-- The rest of the pass, with the nominal definitions that were declared. -/
def declareRest (source : ModuleSource) (pending : List (Definition × TypeId)) : DeclareM Unit := do
  let definitions := source.tree.topDefinitions
  (source.plainOf .typeAliasDefinition definitions).forM source.declareAlias
  pending.forM fun (definition, ty) => source.defineNominal definition ty
  (source.plainOf .functionDefinition definitions).forM source.declareFunction

theorem makes_declareRest (fit : source.Fit state) {pending : List (Definition × TypeId)}
    (known : Known state.types.extent pending) : source.Makes state (source.declareRest pending) := by
  refine makes_bind (makes_forM fit fun definition _ _ _ fit' => makes_declareAlias fit' definition)
    fun _ middle leads fit' _ => ?_
  refine makes_bind (makes_forM fit' fun declared member after leads' fit'' => ?_)
    fun _ after _ fit'' _ => ?_
  · have given := known_list.1 (known.within (fit.within leads)) declared member
    exact makes_defineNominal fit'' _ ((known_pair.1 given).2.within (fit'.within leads'))
  · exact makes_forM fit'' fun definition _ _ _ fit => makes_declareFunction fit definition

/-- The pass behind the nominal definitions, with those that were declared. -/
def declareBehind (source : ModuleSource) (pending : List (Definition × TypeId)) : DeclareM Unit := do
  (source.tree.topDefinitions.filter source.tree.isTemplate).forM source.declareTemplate
  source.declareRest pending

theorem makes_declareBehind (fit : source.Fit state) {pending : List (Definition × TypeId)}
    (known : Known state.types.extent pending) :
    source.Makes state (source.declareBehind pending) := by
  refine makes_bind (makes_forM fit fun template _ _ _ fit' => makes_declareTemplate fit' template)
    fun _ after leads fit' _ => ?_
  exact makes_declareRest fit' (known.within (fit.within leads))

/-- The whole pass makes requests of the tables only, and leaves them as they may be between steps. -/
theorem makes_declare (fit : source.Fit state) : source.Makes state source.declare :=
  makes_bind (makes_declareNominals fit _) fun _ _ _ fit' known => makes_declareBehind fit' known

end ModuleSource

end FrontEnd
