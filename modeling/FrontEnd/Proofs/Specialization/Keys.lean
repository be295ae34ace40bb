import FrontEnd.Proofs.Specialization.Tables

/-!
The keys of instances. A key holds the arguments as its template binds them, defaults included, so
binding them again gives them back. Hence the arguments that an instance shows are arguments for
which its template gives that instance.
-/

namespace FrontEnd

namespace TypeContext

variable {ctx before after : TypeContext} {id : TemplateId} {template : TemplateDef}
  {arguments full : List TemplateArgument} {key : SpecializationKey}

/-! ### Binding again -/

private theorem bindFrom_again {arity arity' : TypeError} {params : List TemplateParameter}
    {index : Nat} (bound : ctx.bindFrom id arity index params arguments = .ok full) :
    full.length = params.length ∧ ctx.bindFrom id arity' index params full = .ok full := by
  induction params generalizing index arguments full with
  | nil =>
    cases bound
    exact ⟨rfl, rfl⟩
  | cons param params ih =>
    rw [bindFrom_cons] at bound
    split at bound
    · cases bound
    · rename_i argument chosen
      split at bound
      · rename_i accepted
        cases others : ctx.bindFrom id arity (index + 1) params (arguments.drop 1) with
        | error err =>
          rw [others] at bound
          cases bound
        | ok rest =>
          obtain ⟨length, again⟩ := ih others
          rw [others] at bound
          cases bound
          refine ⟨congrArg (· + 1) length, ?_⟩
          rw [bindFrom_cons]
          simp only [List.head?_cons, Option.some_or, accepted, if_true, List.drop_succ_cons,
            List.drop_zero, again]
          rfl
      · cases bound

/-- Arguments that were bound are bound to themselves. -/
theorem bind_again (bound : ctx.bind id template arguments = .ok full) :
    ctx.bind id template full = .ok full := by
  unfold TypeContext.bind at bound ⊢
  dsimp only at bound ⊢
  split at bound
  · cases bound
  · obtain ⟨length, again⟩ := bindFrom_again bound
    have least : template.required ≤ full.length := length ▸ List.findIdx_le_length
    rw [if_neg (by simp only [Bool.or_eq_true, decide_eq_true_eq]; omega)]
    exact again

/-! ### Full keys -/

/-- The template of the key takes the arguments as they are. -/
def Takes (ctx : TypeContext) (key : SpecializationKey) : Prop :=
  ∃ template, ctx.templates.get? key.template = some template ∧
    ctx.bind key.template template key.arguments = .ok key.arguments

/-- No template mentions what was not given out. -/
def TemplatesKnown (ctx : TypeContext) : Prop :=
  ∀ id template, ctx.templates.get? id = some template → Known ctx.extent template

theorem Takes.grown (takes : before.Takes key) (known : before.TemplatesKnown)
    (pool : TypePool.Kept before.pool after.pool)
    (templates : ∀ id template, before.templates.get? id = some template →
      after.templates.get? id = some template) : after.Takes key := by
  obtain ⟨template, registered, bound⟩ := takes
  exact ⟨template, templates _ _ registered,
    bind_grown pool templates (known _ _ registered) bound⟩

/-- Every live definition of an instance stands under a full key. -/
def Keyed (ctx : TypeContext) : Prop :=
  ∀ id entry key, ctx.registry.get? id = some entry → entry.specialization = some key →
    ctx.Takes key

end TypeContext

namespace Specializer

variable {before middle after state : Specializer} {key : SpecializationKey}
  {apply : TemplateId → List TemplateArgument → SpecializeM TypeId}

/-! ### What a request makes -/

/-- Every result of the request stands under a full key. -/
structure Filled (state : Specializer) : Prop where
  known : state.context.TemplatesKnown
  takes : ∀ result ∈ state.pending, state.context.Takes result.1

/-- The later state keeps the templates and the types, and its keys are full as well. -/
structure Fills (before after : Specializer) : Prop where
  filled : after.Filled
  templates : after.context.templates = before.context.templates
  pool : TypePool.Kept before.context.pool after.context.pool

theorem Filled.fills (filled : state.Filled) : Fills state state := ⟨filled, rfl, .refl _⟩

theorem Fills.trans (first : Fills before middle) (second : Fills middle after) :
    Fills before after :=
  ⟨second.filled, second.templates.trans first.templates, first.pool.trans second.pool⟩

theorem Fills.takes (fills : Fills before after) (known : before.context.TemplatesKnown)
    (takes : before.context.Takes key) : after.context.Takes key :=
  takes.grown known fills.pool fun id template registered => by
    rw [fills.templates]
    exact registered

/-- More types and definitions leave every key full. -/
theorem Filled.grown (filled : before.Filled)
    (pool : TypePool.Kept before.context.pool after.context.pool)
    (size : before.context.registry.defs.size ≤ after.context.registry.defs.size)
    (templates : after.context.templates = before.context.templates)
    (pending : after.pending = before.pending) : Fills before after := by
  refine ⟨⟨fun id template registered => ?_, fun result member => ?_⟩, templates, pool⟩
  · rw [templates] at registered
    exact (filled.known id template registered).within ⟨TypePool.size_kept pool, size⟩
  · rw [pending] at member
    refine (filled.takes result member).grown filled.known pool fun id template registered => ?_
    rw [templates]
    exact registered

theorem Filled.remembered (filled : state.Filled) (takes : state.context.Takes key)
    (made : Instance) : Fills state { state with pending := state.pending ++ [(key, made)] } := by
  refine ⟨⟨filled.known, fun result member => ?_⟩, rfl, .refl _⟩
  rcases List.mem_append.1 member with early | last
  · exact filled.takes result early
  · cases List.mem_singleton.1 last
    exact takes

theorem fills_bind {steps : SpecializeM α} {rest : α → SpecializeM β}
    (first : Fills before (outcome steps before).2)
    (second : ∀ value middle, middle.Filled → Fills middle (outcome (rest value) middle).2) :
    Fills before (outcome (steps >>= rest) before).2 := by
  rw [outcome_bind]
  rcases ran : outcome steps before with ⟨err | value, middle⟩ <;> rw [ran] at first
  · exact first
  · exact first.trans (second value middle first.filled)

/-- Whatever is put together from failing, adding types and applying templates leaves every key
full if applying templates does. -/
theorem fills_of_built
    (applied : ∀ id arguments state, state.Filled →
      Fills state (outcome (apply id arguments) state).2)
    {steps : SpecializeM α} (built : Built apply steps) (state : Specializer)
    (filled : state.Filled) : Fills state (outcome steps state).2 := by
  induction built generalizing state with
  | pure value => exact filled.fills
  | lift result =>
    rw [outcome_lift]
    exact filled.fills
  | intern form => exact filled.grown (TypePool.kept_intern _ form) (Nat.le_refl _) rfl rfl
  | qualified ty quals =>
    exact filled.grown (TypePool.kept_qualified _ ty quals) (Nat.le_refl _) rfl rfl
  | apply id arguments => exact applied id arguments state filled
  | bind first second firstFills secondFills =>
    exact fills_bind (firstFills state filled) fun value middle => secondFills value middle

theorem fills_nested (key : SpecializationKey) {steps : SpecializeM α}
    (inside : ∀ state : Specializer, state.Filled → Fills state (outcome steps state).2)
    (filled : state.Filled) : Fills state (outcome (nested key steps) state).2 := by
  obtain ⟨⟨known, takes⟩, templates, pool⟩ :=
    inside { state with chain := state.chain ++ [key] } ⟨filled.known, filled.takes⟩
  exact ⟨⟨known, takes⟩, templates, pool⟩

private theorem fills_plain {steps : SpecializeM α} (wrap : α → Instance)
    (inside : ∀ state : Specializer, state.Filled → Fills state (outcome steps state).2)
    (filled : state.Filled) (takes : state.context.Takes key) :
    Fills state (outcome (do
      let value ← nested key steps
      remember key (wrap value)
      return wrap value) state).2 := by
  have deeper := fills_nested key inside filled
  rw [outcome_bind]
  rcases ran : outcome (nested key steps) state with ⟨err | value, middle⟩ <;> rw [ran] at deeper
  · exact deeper
  · exact deeper.trans (deeper.filled.remembered (deeper.takes filled.known takes) (wrap value))

private theorem fills_nominal (name : Name) (kind : DefKind) {steps : SpecializeM DefBody}
    (inside : ∀ state : Specializer, state.Filled → Fills state (outcome steps state).2)
    (filled : state.Filled) (takes : state.context.Takes key) :
    Fills state (outcome (do
      let entry ← reserve name kind key
      remember key (.type entry.type)
      let body ← nested key steps
      complete entry.id body
      return Instance.type entry.type) state).2 := by
  obtain ⟨entry, context, reserved, ran⟩ := outcome_reserve name kind key state
  obtain ⟨-, rfl⟩ := TypeContext.declare_ok reserved
  have start : Fills state (outcome (reserve name kind key) state).2 := by
    rw [ran]
    exact filled.grown (TypePool.kept_intern _ _)
      (by simp [TypeRegistry.size_push, TypeContext.intern]) rfl rfl
  rw [ran] at start
  rw [outcome_bind_ok ran]
  refine start.trans (fills_bind (start.filled.remembered (start.takes filled.known takes) _) ?_)
  intro _ middle filled
  refine fills_bind (fills_nested key inside filled) fun body last filled => ?_
  refine fills_bind ?_ fun _ _ filled => filled.fills
  rw [outcome_complete]
  split
  · rename_i registry defined
    obtain ⟨-, -, -, -, size, -⟩ := TypeRegistry.define_ok defined
    exact filled.grown (.refl _) (Nat.le_of_eq size.symm) rfl rfl
  · exact filled.fills

/-- Making the instance of a full key leaves every key full. -/
theorem make_fills (template : TemplateDef)
    (applied : ∀ id arguments state, state.Filled →
      Fills state (outcome (apply id arguments) state).2)
    (filled : state.Filled) (takes : state.context.Takes key) :
    Fills state (outcome (make key template apply) state).2 := by
  unfold make
  split
  case h_1 target shape =>
    exact fills_plain .type (fills_of_built applied (eval_built key apply target)) filled takes
  case h_2 parameters result variadic shape =>
    refine fills_plain (fun signature => .function ⟨key, signature⟩)
      (fills_of_built applied (evalFunction_built key apply parameters result variadic)) filled takes
  all_goals
    exact fills_nominal _ _ (fills_of_built applied (evalBody_built key apply _)) filled takes

/-- Every result of a request stands under a full key, whatever its outcome. -/
theorem specializeWithin_fills (budget : Nat) (id : TemplateId) (arguments : List TemplateArgument)
    (state : Specializer) (filled : state.Filled) :
    Fills state (outcome (specializeWithin budget id arguments) state).2 := by
  induction budget using Nat.strongRecOn generalizing id arguments state with
  | ind budget ih =>
    rcases course budget id arguments state with ⟨err, ran⟩ |
      ⟨template, full, made, registered, bound, known, ran⟩ |
      ⟨template, full, fewer, enough, registered, bound, absent, idle, ran⟩
    · rw [ran]
      exact filled.fills
    · rw [ran]
      exact filled.fills
    · rw [ran]
      refine make_fills template (fun id arguments state filled => ?_) filled
        ⟨template, registered, TypeContext.bind_again bound⟩
      have inner := ih fewer (by omega) id arguments state filled
      rw [outcome_applyWithin]
      rcases ended : outcome (specializeWithin fewer id arguments) state with ⟨err | made, after⟩ <;>
        rw [ended] at inner <;> exact inner

end Specializer

namespace TypeContext

variable {before after : TypeContext}

/-! ### Every request -/

/-- Live instances stand under full keys after a request if they did before it. -/
theorem Keyed.perform {ctx : TypeContext} (keyed : ctx.Keyed) (orderly : ctx.Orderly)
    (request : TableRequest) : (ctx.perform request).2.Keyed := by
  have known : ctx.TemplatesKnown := orderly.twin.templates.known
  intro id entry key live carries
  rcases perform_cases orderly.sound.indexed request with
    quiet | ⟨template, arguments, found, state, rfl, succeeded, same⟩
  · obtain ⟨stored, live', carries', -⟩ := quiet.owners id entry key live carries
    exact (keyed id stored key live' carries').grown known quiet.extends_.pool
      quiet.extends_.templates
  · rw [same] at live ⊢
    have kept := extends_succeeded succeeded
    obtain ⟨added, made, growth, -⟩ := succeeded.growth
    by_cases below : id.index < ctx.registry.defs.size
    · exact (keyed id entry key ((growth.old id below).symm.trans live) carries).grown known
        kept.pool kept.templates
    · obtain ⟨stored, owner, live', carries', present⟩ := growth.owned id
        ((growth.fresh id).2 ⟨Nat.le_of_not_lt below, TypeRegistry.lt_size_of_get? live⟩)
      cases (show state.context.registry.get? id = some entry from live).symm.trans live'
      cases carries.symm.trans carries'
      have fills := Specializer.specializeWithin_fills
        (ctx.config.recursionLimit - Specializer.depth { context := ctx }) template arguments
        { context := ctx } ⟨known, fun result member => absurd member List.not_mem_nil⟩
      rw [succeeded.steps] at fills
      have takes := fills.filled.takes (key, .type entry.type) (by rw [growth.pending]; exact present)
      exact takes.grown fills.filled.known (.refl _) fun _ _ registered => registered

/-- In all tables that requests lead to, live instances stand under full keys. -/
theorem Leads.keyed (leads : Leads before after) (orderly : before.Orderly) (keyed : before.Keyed) :
    after.Keyed := by
  obtain ⟨history, inside, rfl⟩ := leads
  induction history generalizing before with
  | nil => exact keyed
  | cons request rest ih =>
    obtain ⟨next, -⟩ := orderly.perform inside.1
    exact ih next (keyed.perform orderly request) inside.2

theorem keyed_initial (config : TypeConfig) : Keyed { config } := by
  intro id entry key live
  simp [TypeRegistry.get?] at live

end TypeContext

end FrontEnd
