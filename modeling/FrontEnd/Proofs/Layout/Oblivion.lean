import FrontEnd.Proofs.Specialization.Cache

/-!
Requests do not look at layouts. Whatever layouts are remembered, a request that does not ask for a
layout is answered the same, does the same to the tables, and leaves the layouts as they are.
-/

namespace FrontEnd

/-- The tables with other layouts. -/
def TypeContext.withLayouts (ctx : TypeContext) (layouts : Std.HashMap TypeId TypeLayout) :
    TypeContext := { ctx with layouts }

namespace Specializer

/-- A request in progress over the tables with other layouts. -/
def withLayouts (state : Specializer) (layouts : Std.HashMap TypeId TypeLayout) : Specializer :=
  { state with context := state.context.withLayouts layouts }

/-- Steps that do not look at layouts. -/
def Blind (steps : SpecializeM α) : Prop :=
  ∀ state layouts, outcome steps (state.withLayouts layouts) =
    ((outcome steps state).1, (outcome steps state).2.withLayouts layouts)

variable {apply : TemplateId → List TemplateArgument → SpecializeM TypeId} {steps : SpecializeM α}
  {rest : α → SpecializeM β}

theorem blind_pure (value : α) : Blind (pure value : SpecializeM α) := fun _ _ => rfl

theorem blind_lift (result : Except TypeError α) : Blind (liftM result : SpecializeM α) := by
  intro state layouts
  rw [outcome_lift, outcome_lift]

theorem blind_bind (first : Blind steps) (second : ∀ value, Blind (rest value)) :
    Blind (steps >>= rest) := by
  intro state layouts
  rw [outcome_bind, outcome_bind, first state layouts]
  rcases outcome steps state with ⟨err | value, after⟩
  · rfl
  · exact second value after layouts

theorem blind_intern (form : TypeForm) : Blind (intern form) := fun _ _ => rfl

theorem blind_nested {key : SpecializationKey} (inside : Blind steps) :
    Blind (nested key steps) := by
  intro state layouts
  rw [outcome_nested, outcome_nested]
  rw [show { state.withLayouts layouts with chain := (state.withLayouts layouts).chain ++ [key] } =
    ({ state with chain := state.chain ++ [key] } : Specializer).withLayouts layouts from rfl,
    inside]
  rfl

theorem blind_remember (key : SpecializationKey) (made : Instance) : Blind (remember key made) :=
  fun _ _ => rfl

theorem blind_reserve (name : Name) (kind : DefKind) (key : SpecializationKey) :
    Blind (reserve name kind key) := fun _ _ => rfl

theorem blind_complete (id : DefId) (body : DefBody) : Blind (complete id body) := by
  intro state layouts
  rw [outcome_complete, outcome_complete]
  rw [show (state.withLayouts layouts).context.registry = state.context.registry from rfl]
  cases state.context.registry.define id body <;> rfl

/-- Steps that are put together from applying templates are as blind as these are. -/
theorem blind_of_built (applied : ∀ id arguments, Blind (apply id arguments))
    (built : Built apply steps) : Blind steps := by
  induction built with
  | pure value => exact blind_pure value
  | lift result => exact blind_lift result
  | intern form => exact blind_intern form
  | qualified ty quals => exact fun _ _ => rfl
  | apply id arguments => exact applied id arguments
  | bind _ _ first second => exact blind_bind first second

theorem blind_make (applied : ∀ id arguments, Blind (apply id arguments)) (key : SpecializationKey)
    (template : TemplateDef) : Blind (make key template apply) := by
  have body := blind_of_built applied (evalBody_built key apply template.body)
  unfold make
  split
  case h_1 target _ =>
    refine blind_bind (blind_nested (blind_of_built applied (eval_built key apply target)))
      fun ty => ?_
    exact blind_bind (blind_remember _ _) fun _ => blind_pure _
  case h_2 parameters result variadic _ =>
    have signature := blind_bind (blind_of_built applied (evalAll_built key apply parameters))
      fun parameters => blind_bind (blind_of_built applied (eval_built key apply result))
        fun result => blind_intern (.function parameters result variadic)
    refine blind_bind (blind_nested signature) fun signature => ?_
    exact blind_bind (blind_remember _ _) fun _ => blind_pure _
  all_goals
    refine blind_bind (blind_reserve _ _ _) fun entry => ?_
    refine blind_bind (blind_remember _ _) fun _ => ?_
    refine blind_bind (blind_nested (by simp_all)) fun body => ?_
    exact blind_bind (blind_complete _ _) fun _ => blind_pure _

theorem blind_specializeWithin (budget : Nat) (id : TemplateId)
    (arguments : List TemplateArgument) : Blind (specializeWithin budget id arguments) := by
  induction budget using Nat.strongRecOn generalizing id arguments with
  | ind budget ih =>
    intro state layouts
    have templates : (state.withLayouts layouts).context.templates = state.context.templates := rfl
    have bound (template : TemplateDef) :
        (state.context.withLayouts layouts).bind id template arguments =
          state.context.bind id template arguments := by
      apply TypeContext.bind_congr <;> rfl
    have found (key : SpecializationKey) : (state.withLayouts layouts).find? key =
      state.find? key := rfl
    rw [outcome_specializeWithin, outcome_specializeWithin, templates]
    cases state.context.templates.get? id with
    | none => rfl
    | some template =>
      simp only [show (state.withLayouts layouts).context = state.context.withLayouts layouts from rfl,
        bound, found]
      cases state.context.bind id template arguments with
      | error err => rfl
      | ok full =>
        dsimp only
        cases state.find? ⟨id, full⟩ with
        | some made => rfl
        | none =>
          cases budget with
          | zero => rfl
          | succ fewer =>
            have applied (id : TemplateId) (arguments : List TemplateArgument) :
                Blind (applyWithin fewer id arguments) :=
              blind_bind (ih fewer (Nat.lt_succ_self _) id arguments) fun made => blind_lift _
            by_cases busy : (⟨id, full⟩ : SpecializationKey) ∈ state.chain
            · simp only [if_pos busy, if_pos (show _ ∈ (state.withLayouts layouts).chain from busy)]
              rfl
            · simp only [if_neg busy, if_neg (show _ ∉ (state.withLayouts layouts).chain from busy)]
              exact blind_make applied ⟨id, full⟩ template state layouts

end Specializer

namespace TypeContext

/-- A request for an instance is answered the same whatever layouts are remembered. -/
theorem specialize_withLayouts (ctx : TypeContext) (layouts : Std.HashMap TypeId TypeLayout)
    (id : TemplateId) (arguments : List TemplateArgument) :
    (ctx.withLayouts layouts).specialize id arguments =
      ((ctx.specialize id arguments).1, (ctx.specialize id arguments).2.withLayouts layouts) := by
  have blind := Specializer.blind_specializeWithin
    (ctx.config.recursionLimit - Specializer.depth { context := ctx }) id arguments
    { context := ctx } layouts
  rw [specialize_eq, specialize_eq, Specializer.specialize_settled, Specializer.specialize_settled]
  refine Eq.trans (congrArg (fun ended => ((Specializer.settled ended).1,
    (Specializer.settled ended).2.context)) blind) ?_
  rcases outcome (Specializer.specializeWithin
    (ctx.config.recursionLimit - Specializer.depth { context := ctx }) id arguments)
    { context := ctx } with ⟨err | made, after⟩ <;> rfl

end TypeContext

/-- Whether a request asks for a layout. -/
def TableRequest.asksLayout : TableRequest → Bool
  | .layout _ | .recordLayout _ => true
  | _ => false

namespace TypeContext

variable {ctx : TypeContext} {request : TableRequest}

/-- A request that asks for no layout neither looks at layouts nor changes them. -/
theorem perform_withLayouts (ctx : TypeContext) (layouts : Std.HashMap TypeId TypeLayout)
    (other : request.asksLayout = false) :
    (ctx.withLayouts layouts).perform request =
      ((ctx.perform request).1, (ctx.perform request).2.withLayouts layouts) := by
  cases request with
  | intern form => rfl
  | qualify ty quals => rfl
  | declare name kind locator =>
    simp only [perform, declare]
    rw [show (ctx.withLayouts layouts).registry = ctx.registry from rfl]
    cases ctx.registry.checkName { name, kind, locator } <;> rfl
  | define ty body =>
    simp only [perform, define]
    rw [show (ctx.withLayouts layouts).defOf ty = ctx.defOf ty from rfl]
    cases ctx.defOf ty with
    | error err => rfl
    | ok found =>
      cases found with
      | none => rfl
      | some entry =>
        simp only [defineId, Bind.bind, Except.bind,
          show (ctx.withLayouts layouts).registry = ctx.registry from rfl]
        cases ctx.registry.define entry.id body <;> rfl
  | register template =>
    simp only [perform, registerTemplate]
    rw [show (ctx.withLayouts layouts).templates = ctx.templates from rfl]
    cases ctx.templates.register template <;> rfl
  | specialize id arguments => simp only [perform, specialize_withLayouts]; rfl
  | layout ty | recordLayout ty => cases other

end TypeContext

end FrontEnd
