import FrontEnd.Proofs.Specialization.Cache
import FrontEnd.Proofs.Specialization.Upkeep

/-!
Requests for instances and the types that live. Where the templates state only types that live, and
so do the instances that are kept, a request for arguments that live gives a type that lives and
keeps only such types, and a request that fails leaves all types as they were. Every definition that
a request keeps has a body.
-/

namespace FrontEnd

open TypeContext (Lives Lasts)

/-- All types of a list live. -/
def TypeContext.AllLive (ctx : TypeContext) (types : List TypeId) : Prop := ∀ ty ∈ types, ctx.Lives ty

theorem TypeContext.AllLive.lasts {before after : TypeContext} {types : List TypeId}
    (all : before.AllLive types) (lasts : Lasts before after) : after.AllLive types :=
  fun ty member => (all ty member).lasts lasts

namespace Specializer

variable {state : Specializer}

/-- What templates state lives, and so do the instances that are found. -/
structure Living (state : Specializer) : Prop where
  indexed : state.context.Indexed
  templates : ∀ id template, state.context.templates.get? id = some template →
    state.context.AllLive template.stated
  found : ∀ key ty, state.find? key = some (.type ty) → state.context.Lives ty

/-- What lived goes on living in other tables with the same templates and instances. -/
theorem Living.onward {context : TypeContext} (living : state.Living) (indexed : context.Indexed)
    (lasts : Lasts state.context context) (templates : context.templates = state.context.templates)
    (instances : context.instances = state.context.instances) :
    Living { state with context } where
  indexed := indexed
  templates id template registered := by
    rw [templates] at registered
    exact (living.templates id template registered).lasts lasts
  found key ty found := by
    refine (living.found key ty ?_).lasts lasts
    rwa [find?, instances] at found

/-- Everything that a request comes to lives. -/
def alive : Regime where
  valid := Living
  good := Lives

theorem alive_lawful : alive.Lawful where
  lasts lasts lives := lives.lasts lasts
  chain _ living := ⟨living.indexed, living.templates, living.found⟩
  intern {state form} living built parts := by
    have sound := living.indexed.pool
    have lasts : Lasts state.context (state.context.intern form).2 :=
      ⟨TypePool.kept_intern _ form, fun _ live => live⟩
    refine ⟨living.onward (TypeContext.indexed_intern living.indexed form) lasts rfl rfl, lasts, ?_⟩
    rintro _ ⟨⟩
    refine TypeContext.lives_intern sound ?_ parts
    rintro kind id rfl
    exact built rfl
  qualified {state ty} living lives quals := by
    have sound := living.indexed.pool
    have lasts : Lasts state.context (state.context.qualified ty quals).2 :=
      ⟨TypePool.kept_qualified _ ty quals, fun _ live => live⟩
    refine ⟨living.onward (TypeContext.indexed_qualified living.indexed ty quals) lasts rfl rfl,
      lasts, ?_⟩
    rintro _ ⟨⟩
    exact TypeContext.Lives.qualified lives sound quals

theorem alive_settles (key : SpecializationKey) : alive.Settles key where
  reserve {state} name kind living := by
    obtain ⟨entry, context, declared, ran⟩ := outcome_reserve name kind key state
    obtain ⟨lasts, lives⟩ := TypeContext.lasts_declare living.indexed declared
    have indexed := TypeContext.indexed_declare living.indexed declared
    obtain ⟨-, rfl⟩ := TypeContext.declare_ok declared
    have living' := living.onward indexed lasts rfl rfl
    refine (Regime.keeps_iff ran).2
      ⟨⟨living'.indexed, living'.templates, living'.found⟩, lasts, ?_⟩
    rintro _ ⟨⟩
    exact lives
  remember {state made} living all := by
    refine ⟨⟨living.indexed, living.templates, fun other ty found => ?_⟩, .refl _, fun _ _ => trivial⟩
    rcases found_remembered found with earlier | ⟨-, rfl⟩
    · exact living.found other ty earlier
    · exact Regime.allGood_singleton.1 all
  complete {state body} id living _ :=
    Regime.keeps_complete living fun _ defined lasts =>
      living.onward (TypeContext.indexed_registry living.indexed defined) lasts rfl rfl

/-- A request that succeeds gives a type that lives, or a function. -/
theorem specializeWithin_lives (budget : Nat) (id : TemplateId) {arguments : List TemplateArgument}
    (living : state.Living)
    (all : state.context.AllLive (arguments.flatMap TemplateArgument.stated)) :
    alive.Keeps state (specializeWithin budget id arguments) fun ctx made =>
      ∀ ty, made = .type ty → ctx.Lives ty := by
  induction budget using Nat.strongRecOn generalizing id arguments state with
  | ind budget ih =>
    rcases course budget id arguments state with ⟨err, ran⟩ |
      ⟨template, full, made, registered, bound, known, ran⟩ |
      ⟨template, full, fewer, enough, registered, bound, absent, idle, ran⟩
    · exact Regime.keeps_of_error living ran
    · refine Regime.keeps_of_ok living ran ?_
      rintro ty rfl
      exact living.found _ ty known
    · have upholds : alive.Upholds (applyWithin fewer) :=
        Regime.upholds_applyWithin (fun lives => lives _ rfl) fun id arguments state living all =>
          ih fewer (by omega) id living all
      have stated := living.templates id template registered
      obtain ⟨living', lasts, good⟩ := Regime.make_keeps alive_lawful upholds
        (alive_settles ⟨id, full⟩) living (Regime.AllGood.bind all stated bound) stated
      rw [← ran] at living' lasts good
      refine ⟨living', lasts, fun made same ty is => ?_⟩
      subst is
      exact Regime.allGood_singleton.1 (good _ same)

end Specializer

namespace TypeContext

variable {ctx before after : TypeContext} {id : TemplateId} {arguments : List TemplateArgument}

/-- What is given out lives: the primitive types, what the templates state, and the instances that
are kept. -/
structure Living (ctx : TypeContext) : Prop where
  indexed : ctx.Indexed
  primitive : ∀ ty : TypeId, ty.index < TypeId.primitiveCount → ctx.Lives ty
  templates : ∀ id template, ctx.templates.get? id = some template → ctx.AllLive template.stated
  instances : ∀ (key : SpecializationKey) ty, ctx.instances[key]? = some (.type ty) → ctx.Lives ty

theorem living_initial (config : TypeConfig) : Living { config } where
  indexed := indexed_initial config
  primitive ty small := by
    obtain ⟨form, found⟩ := TypePool.exists_form? (show ty.index < TypePool.new.size from
      Nat.lt_of_lt_of_eq small TypePool.size_new.symm)
    have primitive : form ∈ TypeForm.primitives := TypePool.form?_new found
    have childless : ∀ form ∈ TypeForm.primitives, form.children = [] := by decide
    refine .built found (fun kind id nominal => ?_) ?_
    · simp [TypeForm.primitives, nominal] at primitive
    · rw [childless form primitive]
      exact nofun
  templates id template registered := by simp [TemplateRegistry.get?] at registered
  instances key ty found := by simp at found

/-- What lived goes on living where templates and instances stay the same. -/
theorem Living.lasts (living : before.Living) (lasts : Lasts before after) (indexed : after.Indexed)
    (templates : after.templates = before.templates)
    (instances : after.instances = before.instances) : after.Living where
  indexed := indexed
  primitive ty small := (living.primitive ty small).lasts lasts
  templates id template registered := by
    rw [templates] at registered
    exact (living.templates id template registered).lasts lasts
  instances key ty found := by
    rw [instances] at found
    exact (living.instances key ty found).lasts lasts

theorem Living.intern (living : ctx.Living) (form : TypeForm) :
    Spares ctx (ctx.intern form).2 ∧ (ctx.intern form).2.Living := by
  have spares := spares_intern living.indexed form
  exact ⟨spares, living.lasts spares.toLasts spares.indexed rfl rfl⟩

theorem Living.qualified (living : ctx.Living) (ty : TypeId) (quals : Qualifiers) :
    Spares ctx (ctx.qualified ty quals).2 ∧ (ctx.qualified ty quals).2.Living := by
  have spares := spares_qualified living.indexed ty quals
  exact ⟨spares, living.lasts spares.toLasts spares.indexed rfl rfl⟩

/-- Whatever becomes of a request, no definition is lost, and none is new without a body. -/
theorem specialize_spares (indexed : ctx.Indexed) (id : TemplateId)
    (arguments : List TemplateArgument) : Spares ctx (ctx.specialize id arguments).2 := by
  rw [specialize_eq]
  rcases Specializer.specialize_cases indexed id arguments with
    ⟨err, state, failed⟩ | ⟨made, state, succeeded⟩
  · rw [failed.ran]
    have quiet := quiet_failed indexed failed
    obtain ⟨added, results, growth⟩ := failed.growth
    obtain ⟨-, -, found⟩ := Specializer.registry_withdraw growth indexed rfl
    exact ⟨quiet.extends_.lasts, quiet.indexed, fun id entry live _ => (found id).symm.trans live⟩
  · rw [succeeded.ran]
    obtain ⟨added, results, growth, whole⟩ := succeeded.growth
    refine ⟨(extends_succeeded succeeded).lasts, ⟨succeeded.indexed.pool, succeeded.indexed.defs,
      succeeded.indexed.names⟩, fun id entry live bare => ?_⟩
    by_cases below : id.index < ctx.registry.defs.size
    · exact (growth.old id below).symm.trans live
    · obtain ⟨stored, live', body⟩ := whole id
        ((growth.fresh id).2 ⟨Nat.le_of_not_lt below, TypeRegistry.lt_size_of_get? live⟩)
      cases live'.symm.trans live
      rw [bare] at body
      cases body

/-- A request for arguments that live gives a type that lives, and only such types are kept. -/
theorem Living.specialize (living : ctx.Living) (id : TemplateId)
    (all : ctx.AllLive (arguments.flatMap TemplateArgument.stated)) :
    (ctx.specialize id arguments).2.Living ∧ ∀ ty, (ctx.specialize id arguments).1 = .ok (.type ty) →
      (ctx.specialize id arguments).2.Lives ty := by
  have spares := specialize_spares living.indexed id arguments
  rw [specialize_eq] at spares ⊢
  rcases Specializer.specialize_cases living.indexed id arguments with
    ⟨err, state, failed⟩ | ⟨made, state, succeeded⟩
  · rw [failed.ran] at spares ⊢
    obtain ⟨added, results, growth⟩ := failed.growth
    exact ⟨living.lasts spares.toLasts spares.indexed growth.templates growth.instances, nofun⟩
  · rw [succeeded.ran] at spares ⊢
    obtain ⟨added, results, growth, -⟩ := succeeded.growth
    have start : Specializer.Living { context := ctx } :=
      ⟨living.indexed, living.templates, living.instances⟩
    obtain ⟨living', -, lives⟩ := Specializer.specializeWithin_lives
      (ctx.config.recursionLimit - Specializer.depth { context := ctx }) id start all
    rw [succeeded.steps] at living' lives
    have kept : Lasts state.context state.publish.context := ⟨.refl _, fun _ live => live⟩
    refine ⟨⟨spares.indexed, fun ty small => (living.primitive ty small).lasts spares.toLasts,
      fun id template registered => (living'.templates id template registered).lasts kept,
      fun key ty found => ?_⟩, fun ty same => ?_⟩
    · rw [Specializer.instances_publish growth rfl] at found
      exact (living'.found key ty found).lasts kept
    · cases same
      exact (lives _ rfl ty rfl).lasts kept

end TypeContext

end FrontEnd
