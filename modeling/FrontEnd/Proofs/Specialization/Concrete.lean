import Mathlib
import FrontEnd.Proofs.Renaming.Stated
import FrontEnd.Proofs.Specialization.Tables
import FrontEnd.Proofs.Typing.Flags

/-!
Specialization eliminates parameters. Where the templates state no type in which a parameter occurs,
what they give for arguments without parameters has none either, and neither has anything in the
definitions that are made on the way. Flags are found when a type is added and never again, so a
request is followed step by step with the account of what every known instance owes to its key.
-/

namespace FrontEnd

open TypeContext (Lasts)

namespace TypeContext

variable {ctx before after : TypeContext} {ty part : TypeId} {form : TypeForm}
  {given inner : List TypeId} {clean : Prop}

/-- The tables hold the type. -/
def Holds (ctx : TypeContext) (ty : TypeId) : Prop := TypePool.table.Holds ctx.pool ty

/-- No template parameter occurs in the type. -/
def IsConcrete (ctx : TypeContext) (ty : TypeId) : Prop := (ctx.pool.flags ty).isConcrete = true

/-- The flags of all types are those that their forms have over the flags of their parts. -/
def Flagged (ctx : TypeContext) : Prop := TypePool.table.Consistent TypePool.flags ctx.pool

theorem holds_iff : ctx.Holds ty ↔ ty.index < ctx.pool.size :=
  ⟨fun ⟨_, found⟩ => TypePool.lt_size_of_form? found, TypePool.exists_form?⟩

theorem Holds.lasts (held : before.Holds ty) (lasts : Lasts before after) : after.Holds ty := by
  obtain ⟨form, found⟩ := held
  exact ⟨form, TypePool.form?_kept lasts.pool found⟩

/-- Nothing becomes of a type that is there. -/
theorem Holds.isConcrete_iff (held : before.Holds ty) (lasts : Lasts before after) :
    after.IsConcrete ty ↔ before.IsConcrete ty := by
  rw [IsConcrete, IsConcrete, TypePool.flags_kept lasts.pool (holds_iff.1 held)]

/-- A type that is no parameter is concrete exactly if its parts are. -/
theorem Flagged.isConcrete_iff (flagged : ctx.Flagged) (found : ctx.pool.form? ty = some form)
    (own : ¬ form.IsParam) : ctx.IsConcrete ty ↔ ∀ part ∈ form.children, ctx.IsConcrete part := by
  have spread := TypeFlags.spreads_param form (form.children.map ctx.pool.flags)
  have same : ctx.pool.flags ty = _ := flagged.flagged ty form found
  simp only [IsConcrete, TypeFlags.isConcrete, Bool.not_eq_true', ← Bool.not_eq_true, same, spread,
    own, false_or, List.mem_map]
  constructor
  · intro none part listed param
    exact none ⟨_, ⟨part, listed, rfl⟩, param⟩
  · rintro none ⟨_, ⟨part, listed, rfl⟩, param⟩
    exact none part listed param

/-- The tables stay flagged when a form is added that is built from types that are there. -/
theorem Flagged.intern (flagged : ctx.Flagged) (sound : ctx.pool.Sound)
    (parts : ∀ part ∈ form.children, ctx.Holds part) : (ctx.intern form).2.Flagged :=
  TypeTable.Consistent.interned TypePool.table_lawful TypePool.table_flags sound flagged parts rfl

/-- Adding types loses nothing. -/
theorem lasts_intern (ctx : TypeContext) (form : TypeForm) : Lasts ctx (ctx.intern form).2 :=
  ⟨TypePool.kept_intern _ form, fun _ live => live⟩

theorem lasts_qualified (ctx : TypeContext) (ty : TypeId) (quals : Qualifiers) :
    Lasts ctx (ctx.qualified ty quals).2 :=
  ⟨TypePool.kept_qualified _ ty quals, fun _ live => live⟩

/-- The type without its qualifiers is there, and is concrete if the type is. -/
theorem Flagged.unqualified (flagged : ctx.Flagged) (sound : ctx.pool.Sound) (held : ctx.Holds ty) :
    ctx.Holds (ctx.pool.split ty).1 ∧ (ctx.IsConcrete ty → ctx.IsConcrete (ctx.pool.split ty).1) := by
  rw [TypePool.split_eq sound.honest]
  split
  · rename_i base quals found
    exact ⟨flagged.closed ty _ found base List.mem_cons_self, fun concrete =>
      (flagged.isConcrete_iff found nofun).1 concrete base List.mem_cons_self⟩
  · exact ⟨held, id⟩

/-! ### What is passed on -/

/-- A type that the tables hold, and that is concrete if all of the given ones are and the templates
state no parameters. -/
structure PassedOn (clean : Prop) (given : List TypeId) (ctx : TypeContext) (ty : TypeId) : Prop where
  there : ∀ part ∈ given, ctx.Holds part
  held : ctx.Holds ty
  concrete : clean → (∀ part ∈ given, ctx.IsConcrete part) → ctx.IsConcrete ty

theorem passedOn_of_mem (held : ∀ part ∈ given, ctx.Holds part) (listed : ty ∈ given) :
    PassedOn clean given ctx ty :=
  ⟨held, held ty listed, fun _ all => all ty listed⟩

theorem PassedOn.lasts (passes : PassedOn clean given before ty) (lasts : Lasts before after) :
    PassedOn clean given after ty where
  there part listed := (passes.there part listed).lasts lasts
  held := passes.held.lasts lasts
  concrete clean all := (passes.held.isConcrete_iff lasts).2 <| passes.concrete clean fun part listed =>
    ((passes.there part listed).isConcrete_iff lasts).1 (all part listed)

theorem PassedOn.imp {weaker : Prop} (passes : PassedOn clean given ctx ty) (implied : weaker → clean) :
    PassedOn weaker given ctx ty :=
  ⟨passes.there, passes.held, fun given => passes.concrete (implied given)⟩

/-- What is passed on by types that were passed on themselves. -/
theorem PassedOn.trans (passes : PassedOn clean inner ctx ty) (held : ∀ part ∈ given, ctx.Holds part)
    (all : ∀ part ∈ inner, PassedOn clean given ctx part) : PassedOn clean given ctx ty :=
  ⟨held, passes.held, fun clean own =>
    passes.concrete clean fun part listed => (all part listed).concrete clean own⟩

/-- What is there whatever is given. -/
theorem PassedOn.of_nil (passes : PassedOn clean [] ctx ty) (held : ∀ part ∈ given, ctx.Holds part) :
    PassedOn clean given ctx ty :=
  passes.trans held (List.forall_mem_nil _)

/-- A form is passed on if its parts are. -/
theorem passedOn_intern (flagged : ctx.Flagged) (sound : ctx.pool.Sound) (own : ¬ form.IsParam)
    (held : ∀ part ∈ given, ctx.Holds part)
    (parts : ∀ part ∈ form.children, PassedOn clean given ctx part) :
    (ctx.intern form).2.Flagged ∧ PassedOn clean given (ctx.intern form).2 (ctx.intern form).1 := by
  have lasts := lasts_intern ctx form
  have flagged' := flagged.intern sound fun part listed => (parts part listed).held
  have found := TypePool.form?_intern sound form
  refine ⟨flagged', fun part listed => (held part listed).lasts lasts, ⟨form, found⟩,
    fun clean all => (flagged'.isConcrete_iff found own).2 fun part listed => ?_⟩
  exact ((parts part listed).lasts lasts).concrete clean all

/-- So is a type that is qualified. -/
theorem PassedOn.qualified (passes : PassedOn clean given ctx ty) (flagged : ctx.Flagged)
    (sound : ctx.pool.Sound) (quals : Qualifiers) : (ctx.qualified ty quals).2.Flagged ∧
      PassedOn clean given (ctx.qualified ty quals).2 (ctx.qualified ty quals).1 := by
  obtain ⟨held, concrete⟩ := flagged.unqualified sound passes.held
  have base : PassedOn clean given ctx (ctx.pool.split ty).1 :=
    ⟨passes.there, held, fun clean all => concrete (passes.concrete clean all)⟩
  unfold TypeContext.qualified
  rcases TypePool.qualified_cases ctx.pool ty quals with same | interned
  · rw [same]
    exact ⟨flagged, base⟩
  · rw [interned]
    refine passedOn_intern flagged sound nofun passes.there fun part listed => ?_
    cases List.mem_singleton.1 listed
    exact base

end TypeContext

namespace Specializer

open TypeContext (PassedOn)

variable {clean : Prop} {top feed : List TypeId} {older : Nat} {state : Specializer}

/-- What a request that was given some types from outside has come to: what templates state is there,
instances are made of what their keys state, and the definitions from some id on, which the request
made itself, have bodies that are made of what it was given. -/
structure Clear (clean : Prop) (top : List TypeId) (older : Nat) (state : Specializer) : Prop where
  indexed : state.context.Indexed
  flagged : state.context.Flagged
  outside : ∀ ty ∈ top, state.context.Holds ty
  templates : ∀ id template, state.context.templates.get? id = some template →
    ∀ ty ∈ template.stated, PassedOn clean [] state.context ty
  found : ∀ key made, state.find? key = some made →
    ∀ ty ∈ made.stated, PassedOn clean key.stated state.context ty
  bodies : ∀ (id : DefId) entry body, older ≤ id.index →
    state.context.registry.get? id = some entry → entry.body = some body →
    ∀ ty ∈ body.stated, PassedOn clean top state.context ty

/-- Other tables with the same templates and instances are as clear, unless a body is new. -/
theorem Clear.onward {context : TypeContext} (clear : Clear clean top older state)
    (indexed : context.Indexed) (flagged : context.Flagged) (lasts : Lasts state.context context)
    (templates : context.templates = state.context.templates)
    (instances : context.instances = state.context.instances)
    (bodies : ∀ (id : DefId) entry body, older ≤ id.index → context.registry.get? id = some entry →
      entry.body = some body → ∀ ty ∈ body.stated, PassedOn clean top context ty) :
    Clear clean top older { state with context } where
  indexed := indexed
  flagged := flagged
  outside ty listed := (clear.outside ty listed).lasts lasts
  templates id template registered ty stated := by
    rw [templates] at registered
    exact (clear.templates id template registered ty stated).lasts lasts
  found key made found ty stated := by
    refine (clear.found key made ?_ ty stated).lasts lasts
    rwa [find?, instances] at found
  bodies := bodies

/-- What is made of types that the request passes on. -/
def passing (clean : Prop) (top : List TypeId) (older : Nat) (feed : List TypeId) : Regime where
  valid state := Clear clean top older state ∧ ∀ ty ∈ feed, PassedOn clean top state.context ty
  good := PassedOn clean feed

theorem passing_lawful : (passing clean top older feed).Lawful where
  lasts lasts passes := passes.lasts lasts
  chain _ := fun ⟨clear, passed⟩ =>
    ⟨⟨clear.indexed, clear.flagged, clear.outside, clear.templates, clear.found, clear.bodies⟩, passed⟩
  intern {state form} := by
    rintro ⟨clear, passed⟩ built parts
    have lasts := TypeContext.lasts_intern state.context form
    obtain ⟨flagged, passes⟩ := TypeContext.passedOn_intern clear.flagged clear.indexed.pool
      (by rintro ⟨template, index, rfl⟩; exact built rfl) (fun ty listed => (passed ty listed).held)
      parts
    refine ⟨⟨clear.onward (TypeContext.indexed_intern clear.indexed form) flagged lasts rfl rfl ?_,
      fun ty listed => (passed ty listed).lasts lasts⟩, lasts, ?_⟩
    · exact fun id entry body young live whole ty stated =>
        (clear.bodies id entry body young live whole ty stated).lasts lasts
    · rintro _ ⟨⟩
      exact passes
  qualified {state ty} := by
    rintro ⟨clear, passed⟩ good quals
    have lasts := TypeContext.lasts_qualified state.context ty quals
    obtain ⟨flagged, passes⟩ := PassedOn.qualified good clear.flagged clear.indexed.pool quals
    refine ⟨⟨clear.onward (TypeContext.indexed_qualified clear.indexed ty quals) flagged lasts rfl
      rfl ?_, fun ty listed => (passed ty listed).lasts lasts⟩, lasts, ?_⟩
    · exact fun id entry body young live whole ty stated =>
        (clear.bodies id entry body young live whole ty stated).lasts lasts
    · rintro _ ⟨⟩
      exact passes

/-- What is made for a key of the types that the key states. -/
theorem passing_settles (key : SpecializationKey) :
    (passing clean top older key.stated).Settles key where
  reserve {state} name kind := by
    rintro ⟨clear, passed⟩
    obtain ⟨entry, context, declared, ran⟩ := outcome_reserve name kind key state
    obtain ⟨lasts, -⟩ := TypeContext.lasts_declare clear.indexed declared
    have indexed := TypeContext.indexed_declare clear.indexed declared
    obtain ⟨same, rfl⟩ := TypeContext.declare_ok declared
    let form := TypeForm.nominal kind state.context.registry.nextId
    obtain ⟨flagged, passes⟩ : (state.context.intern form).2.Flagged ∧ PassedOn clean key.stated
        (state.context.intern form).2 (state.context.intern form).1 :=
      TypeContext.passedOn_intern clear.flagged clear.indexed.pool nofun
        (fun ty listed => (passed ty listed).held) (List.forall_mem_nil _)
    have clear' := clear.onward indexed flagged lasts rfl rfl ?_
    · refine (Regime.keeps_iff ran).2 ⟨⟨⟨clear'.indexed, clear'.flagged, clear'.outside,
        clear'.templates, clear'.found, clear'.bodies⟩,
        fun ty listed => (passed ty listed).lasts lasts⟩, lasts, ?_⟩
      rintro _ ⟨⟩
      subst same
      exact ⟨passes.there, passes.held, passes.concrete⟩
    · intro id stored body young live whole ty stated
      rw [TypeRegistry.get?_push] at live
      split at live
      · cases live
        cases whole
      · exact (clear.bodies id stored body young live whole ty stated).lasts lasts
  remember {state made} := by
    rintro ⟨clear, passed⟩ good
    refine ⟨⟨⟨clear.indexed, clear.flagged, clear.outside, clear.templates,
      fun other result found ty stated => ?_, clear.bodies⟩, passed⟩, .refl _, fun _ _ => trivial⟩
    rcases found_remembered found with earlier | ⟨rfl, rfl⟩
    · exact clear.found other result earlier ty stated
    · exact good ty stated
  complete {state body} id := by
    rintro ⟨clear, passed⟩ good
    refine Regime.keeps_complete ⟨clear, passed⟩ fun registry defined lasts =>
      ⟨clear.onward (TypeContext.indexed_registry clear.indexed defined) clear.flagged lasts rfl rfl ?_,
        fun ty listed => (passed ty listed).lasts lasts⟩
    intro other stored own young live whole ty stated
    obtain ⟨entry, -, -, -, -, found⟩ := TypeRegistry.define_ok defined
    rw [found] at live
    split at live
    · cases live
      cases whole
      exact ((good ty stated).trans clear.outside passed).lasts lasts
    · exact (clear.bodies other stored own young live whole ty stated).lasts lasts

/-- Whatever becomes of a request, what it comes to is clear, and a request that succeeds gives what
is passed on by its arguments. -/
theorem specializeWithin_passes (budget : Nat) (id : TemplateId) {arguments : List TemplateArgument}
    (valid : (passing clean top older feed).valid state)
    (all : (passing clean top older feed).AllGood state.context
      (arguments.flatMap TemplateArgument.stated)) :
    (passing clean top older feed).Keeps state (specializeWithin budget id arguments)
      fun ctx made => (passing clean top older feed).AllGood ctx made.stated := by
  induction budget using Nat.strongRecOn generalizing id arguments feed state with
  | ind budget ih =>
    obtain ⟨clear, passed⟩ := valid
    have held : ∀ ty ∈ feed, state.context.Holds ty := fun ty listed => (passed ty listed).held
    -- what the template states is passed on by anything
    have bound_passes : ∀ {template full}, state.context.templates.get? id = some template →
        state.context.bind id template arguments = .ok full →
        (passing clean top older feed).AllGood state.context
          (full.flatMap TemplateArgument.stated) := by
      intro template full registered bound
      have stated : (passing clean top older feed).AllGood state.context template.stated :=
        fun ty stated => (clear.templates id template registered ty stated).of_nil held
      exact all.bind stated bound
    rcases course budget id arguments state with ⟨err, ran⟩ |
      ⟨template, full, made, registered, bound, known, ran⟩ |
      ⟨template, full, fewer, enough, registered, bound, absent, idle, ran⟩
    · exact Regime.keeps_of_error ⟨clear, passed⟩ ran
    · exact Regime.keeps_of_ok ⟨clear, passed⟩ ran fun ty stated =>
        (clear.found _ made known ty stated).trans held (bound_passes registered bound)
    · have own := bound_passes registered bound
      have inner : (passing clean top older (SpecializationKey.mk id full).stated).valid state :=
        ⟨clear, fun ty listed => (own ty listed).trans clear.outside passed⟩
      have upholds : (passing clean top older (SpecializationKey.mk id full).stated).Upholds
          (applyWithin fewer) :=
        Regime.upholds_applyWithin (fun all => Regime.allGood_singleton.1 all)
          fun id arguments state valid all => ih fewer (by omega) id valid all
      obtain ⟨⟨clear', -⟩, lasts, good⟩ := Regime.make_keeps passing_lawful upholds
        (passing_settles ⟨id, full⟩) inner
        (fun ty listed => TypeContext.passedOn_of_mem (fun ty listed => (own ty listed).held) listed)
        (fun ty stated => (clear.templates id template registered ty stated).of_nil
          fun ty listed => (own ty listed).held)
      rw [← ran] at clear' lasts good
      refine ⟨⟨clear', fun ty listed => (passed ty listed).lasts lasts⟩, lasts,
        fun made same ty stated => ?_⟩
      exact (good made same ty stated).trans (fun ty listed => (held ty listed).lasts lasts)
        fun ty listed => (own ty listed).lasts lasts

end Specializer

namespace TypeContext

variable {ctx before after : TypeContext} {id : TemplateId} {arguments : List TemplateArgument}

/-! ### Histories -/

/-- No template states a type in which a parameter occurs. -/
def Clean (ctx : TypeContext) : Prop :=
  ∀ id template, ctx.templates.get? id = some template → ∀ ty ∈ template.stated, ctx.IsConcrete ty

/-- Between requests, flags are right and instances are made of what their keys state. -/
structure Clear (ctx : TypeContext) : Prop where
  flagged : ctx.Flagged
  instances : ∀ (key : SpecializationKey) made, ctx.instances[key]? = some made →
    ∀ ty ∈ made.stated, PassedOn ctx.Clean key.stated ctx ty

theorem clear_initial (config : TypeConfig) : Clear { config } where
  flagged := TypePool.consistent_new
  instances key made found := by simp at found

theorem holds_of_known {ty : TypeId} (known : Known ctx.extent ty) : ctx.Holds ty :=
  holds_iff.2 (known_type.1 known)

/-- What templates state is there. -/
theorem Orderly.holds_stated (orderly : ctx.Orderly) {template : TemplateDef}
    (registered : ctx.templates.get? id = some template) : ∀ ty ∈ template.stated, ctx.Holds ty :=
  fun ty stated => holds_of_known
    (known_of_templateStated (orderly.twin.templates.known id template registered) ty stated)

/-- Templates that are clean were so before others were added. -/
theorem Clean.earlier (clean : after.Clean) (orderly : before.Orderly)
    (extends_ : Extends before after) : before.Clean :=
  fun id template registered ty stated =>
    ((orderly.holds_stated registered ty stated).isConcrete_iff extends_.lasts).1
      (clean id template (extends_.templates id template registered) ty stated)

/-- The steps of a request for arguments that were given out. -/
theorem Clear.steps (clear : ctx.Clear) (orderly : ctx.Orderly) (id : TemplateId) (budget : Nat)
    (known : Known ctx.extent arguments) :
    let regime := Specializer.passing ctx.Clean (arguments.flatMap TemplateArgument.stated)
      ctx.registry.defs.size (arguments.flatMap TemplateArgument.stated)
    regime.Keeps { context := ctx } (Specializer.specializeWithin budget id arguments)
      fun ctx made => regime.AllGood ctx made.stated := by
  have held : ∀ ty ∈ arguments.flatMap TemplateArgument.stated, ctx.Holds ty := fun ty listed =>
    holds_of_known (known_allStated.1 known ty listed)
  refine Specializer.specializeWithin_passes budget id
    ⟨⟨orderly.sound.indexed, clear.flagged, held, fun id template registered ty stated => ?_,
      clear.instances, fun id entry body young live => ?_⟩, fun ty => passedOn_of_mem held⟩
    fun ty => passedOn_of_mem held
  · exact ⟨List.forall_mem_nil _, orderly.holds_stated registered ty stated,
      fun clean _ => clean id template registered ty stated⟩
  · exact absurd (TypeRegistry.lt_size_of_get? live) (Nat.not_lt_of_le young)

/-- Every request leaves the flags right. -/
theorem Clear.flagged_perform (clear : ctx.Clear) (orderly : ctx.Orderly) {request : TableRequest}
    (known : Known ctx.extent request) : (ctx.perform request).2.Flagged := by
  have sound := orderly.sound.indexed.pool
  cases request with
  | intern form =>
    refine clear.flagged.intern sound fun part listed => holds_of_known ?_
    exact known_parts (known_internRequest.1 known) part listed
  | qualify ty quals =>
    have held : ∀ part ∈ [ty], ctx.Holds part :=
      List.forall_mem_singleton.2 (holds_of_known (known_qualifyRequest.1 known))
    have passes : PassedOn True [ty] ctx ty := passedOn_of_mem held List.mem_cons_self
    exact (passes.qualified clear.flagged sound quals).1
  | declare name kind locator =>
    simp only [perform, answered]
    split
    · rename_i entry after declared
      obtain ⟨-, rfl⟩ := declare_ok declared
      exact clear.flagged.intern sound (List.forall_mem_nil _)
    · exact clear.flagged
  | define ty body =>
    simp only [perform, answered]
    cases defined : ctx.define ty body with
    | ok after =>
      obtain ⟨_, _, _, _, rfl⟩ := define_ok defined
      exact clear.flagged
    | error err => exact clear.flagged
  | register template =>
    simp only [perform, answered]
    split
    · rename_i id after registered
      obtain ⟨_, _, rfl⟩ := registerTemplate_ok registered
      exact clear.flagged
    · exact clear.flagged
  | specialize id arguments =>
    have steps := clear.steps orderly id
      (ctx.config.recursionLimit - Specializer.depth { context := ctx })
      (known_specializeRequest.1 known)
    simp only [perform, specialize_eq]
    rcases Specializer.specialize_cases orderly.sound.indexed id arguments with
      ⟨err, state, ended⟩ | ⟨made, state, ended⟩ <;>
    · rw [ended.ran]
      obtain ⟨⟨after, -⟩, -, -⟩ := steps
      rw [ended.steps] at after
      exact after.flagged
  | layout ty => exact clear.flagged
  | recordLayout ty => exact clear.flagged

/-- One request leaves the tables clear. -/
theorem Clear.perform (clear : ctx.Clear) (orderly : ctx.Orderly) {request : TableRequest}
    (known : Known ctx.extent request) : (ctx.perform request).2.Clear := by
  refine ⟨clear.flagged_perform orderly known, fun key made kept ty stated => ?_⟩
  obtain ⟨-, extends_⟩ := perform_sound orderly.sound request
  have earlier : (ctx.perform request).2.Clean → ctx.Clean := fun clean =>
    clean.earlier orderly extends_
  rcases perform_cases orderly.sound.indexed request with
    quiet | ⟨id, arguments, result, state, rfl, succeeded, same⟩
  · rw [quiet.instances] at kept
    exact ((clear.instances key made kept ty stated).lasts extends_.lasts).imp earlier
  · obtain ⟨⟨after, -⟩, -, -⟩ := clear.steps orderly id
      (ctx.config.recursionLimit - Specializer.depth { context := ctx })
      (known_specializeRequest.1 known)
    rw [succeeded.steps] at after
    obtain ⟨added, results, growth, -⟩ := succeeded.growth
    rw [same, Specializer.instances_publish growth rfl] at kept
    rw [same] at earlier ⊢
    have passes := (after.found key made kept ty stated).imp earlier
    exact ⟨passes.there, passes.held, passes.concrete⟩

theorem Leads.clear (leads : Leads before after) (orderly : before.Orderly) (clear : before.Clear) :
    after.Clear := by
  obtain ⟨history, inside, rfl⟩ := leads
  induction history generalizing before with
  | nil => exact clear
  | cons request rest ih =>
    exact ih (orderly.perform inside.1).1 (clear.perform orderly inside.1) inside.2

/-- Specialization eliminates parameters. After any history, if the templates that are registered
state no type in which a parameter occurs, in their bodies or as defaults, a request for arguments
without parameters that succeeds gives a type or a signature without parameters. And every definition
that was made for it has a body, in which all members, the base and the signatures of all methods have
none either. The instances that the request only found were made earlier, for whatever arguments. -/
theorem specialization_concrete (config : TypeConfig) (history : List TableRequest)
    (inside : ({ config } : TypeContext).Scoped history) (id : TemplateId)
    (arguments : List TemplateArgument)
    (known : Known (({ config } : TypeContext).after history).extent arguments)
    (clean : (({ config } : TypeContext).after history).Clean)
    (concrete : ∀ ty ∈ arguments.flatMap TemplateArgument.stated,
      (({ config } : TypeContext).after history).IsConcrete ty) {made : Instance}
    (ran : ((({ config } : TypeContext).after history).specialize id arguments).1 = .ok made) :
    let now := ({ config } : TypeContext).after history
    let after := (now.specialize id arguments).2
    (∀ ty ∈ made.stated, after.Holds ty ∧ after.IsConcrete ty) ∧
      ∀ (place : DefId) entry, now.registry.defs.size ≤ place.index →
        after.registry.get? place = some entry → ∃ body, entry.body = some body ∧
          ∀ ty ∈ body.stated, after.Holds ty ∧ after.IsConcrete ty := by
  intro now after
  have leads : Leads { config } now := ⟨history, inside, rfl⟩
  have orderly := (leads.orderly (orderly_initial config)).1
  have clear := leads.clear (orderly_initial config) (clear_initial config)
  obtain ⟨⟨ended, -⟩, lasts, good⟩ := clear.steps orderly id
    (now.config.recursionLimit - Specializer.depth { context := now }) known
  rcases Specializer.specialize_cases orderly.sound.indexed id arguments with
    ⟨err, state, failed⟩ | ⟨found, state, succeeded⟩
  · have answer : (now.specialize id arguments).1 = .error err := congrArg Prod.fst failed.ran
    cases answer.symm.trans ran
  have answer : (now.specialize id arguments).1 = .ok found := congrArg Prod.fst succeeded.ran
  cases answer.symm.trans ran
  have same : after = state.publish.context := congrArg (·.2.context) succeeded.ran
  rw [succeeded.steps] at ended lasts good
  -- what is passed on by the arguments is concrete, because they are
  have passed : ∀ {ty},
      PassedOn now.Clean (arguments.flatMap TemplateArgument.stated) state.context ty →
        after.Holds ty ∧ after.IsConcrete ty := by
    intro ty passes
    rw [same]
    refine ⟨passes.held, passes.concrete clean fun part listed => ?_⟩
    have held : now.Holds part := holds_of_known (known_allStated.1 known part listed)
    exact (held.isConcrete_iff lasts).2 (concrete part listed)
  refine ⟨fun ty stated => passed (good _ rfl ty stated), fun place entry young live => ?_⟩
  rw [same] at live
  obtain ⟨added, results, growth, whole⟩ := succeeded.growth
  obtain ⟨stored, live', bodied⟩ := whole place
    ((growth.fresh place).2 ⟨young, TypeRegistry.lt_size_of_get? live⟩)
  cases (show state.context.registry.get? place = some entry from live).symm.trans live'
  obtain ⟨body, has⟩ := Option.isSome_iff_exists.1 bodied
  exact ⟨body, has, fun ty stated => passed (ended.bodies place _ body young live has ty stated)⟩

/-- A class of nodes: a value, a pointer to the next node, and a method that makes a value of one. The
parameter is a type of the tables, but the class of nodes of truth values has none in it. -/
theorem specialization_concrete_of_node :
    let now := ({} : TypeContext).after
      [.register ⟨.empty, [⟨.empty, .type, none⟩], .classType none
        [⟨.empty, .param 0⟩, ⟨.empty, .pointer (.apply ⟨0⟩ [.param 0])⟩]
        [⟨.empty, [.param 0], .param 0⟩]⟩, .intern (.param ⟨0⟩ 0)]
    let after := (now.specialize ⟨0⟩ [.type .bool]).2
    ¬ now.IsConcrete ⟨13⟩ ∧ (now.specialize ⟨0⟩ [.type .bool]).1 = .ok (.type ⟨14⟩) ∧
      after.IsConcrete ⟨14⟩ ∧ ∃ entry body, after.registry.get? ⟨0⟩ = some entry ∧
        entry.body = some body ∧ body.stated = [.bool, ⟨15⟩, ⟨16⟩] ∧
        ∀ ty ∈ body.stated, after.Holds ty ∧ after.IsConcrete ty := by
  intro now after
  have ran : (now.specialize ⟨0⟩ [.type .bool]).1 = .ok (.type ⟨14⟩) := by cbv
  have param : (now.pool.flags ⟨13⟩).isConcrete = false := by cbv
  have bool : (now.pool.flags .bool).isConcrete = true := by cbv
  have size : now.pool.size = 14 := by cbv
  have fresh : now.registry.defs.size = 0 := by cbv
  have bare : now.templates.templates.toList.all (·.stated.isEmpty) = true := by cbv
  have own : ((now.specialize ⟨0⟩ [.type .bool]).2.registry.get? ⟨0⟩).map
      (fun entry => entry.body.map DefBody.stated) = some (some [.bool, ⟨15⟩, ⟨16⟩]) := by cbv
  have clean : now.Clean := by
    intro id template registered ty stated
    have none := List.all_eq_true.1 bare template
      (Array.mem_toList_iff.2 (Array.mem_of_getElem? registered))
    rw [List.isEmpty_iff.1 none] at stated
    cases stated
  have there : Known now.extent TypeId.bool :=
    known_type.2 (Nat.lt_of_lt_of_eq (by decide : 1 < 14) size.symm)
  obtain ⟨result, made⟩ := specialization_concrete {} _
    (by exact ⟨fun _ _ _ => rfl, fun _ _ _ => rfl, trivial⟩) ⟨0⟩ [.type .bool]
    (known_allStated.2 (List.forall_mem_singleton.2 there)) clean
    (List.forall_mem_singleton.2 bool) ran
  obtain ⟨entry, live, given⟩ := Option.map_eq_some_iff.1 own
  obtain ⟨body, has, stated⟩ := Option.map_eq_some_iff.1 given
  obtain ⟨body', has', concrete⟩ := made ⟨0⟩ entry (Nat.le_of_eq fresh) live
  cases has.symm.trans has'
  exact ⟨fun concrete => Bool.false_ne_true (param.symm.trans concrete), ran,
    (result _ List.mem_cons_self).2, entry, body, live, has, stated, concrete⟩

end TypeContext

end FrontEnd
