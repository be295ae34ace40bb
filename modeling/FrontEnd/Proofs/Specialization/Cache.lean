import FrontEnd.Proofs.Specialization.Binding
import FrontEnd.Proofs.Specialization.Request
import FrontEnd.Proofs.Typing.History

/-!
The instances that are kept. Between requests, a nominal instance is the type of a live definition
that carries exactly its key and has a body, and every live definition that carries a key is the
one kept under it. No instance ever changes, so a key stands for one result forever, and for
nominal templates different keys stand for different types.
-/

namespace FrontEnd

namespace TypeContext

variable {ctx before after : TypeContext} {id : TemplateId} {template : TemplateDef}

/-! ### The invariant -/

/-- What holds of the kept instances between requests. -/
structure CacheSound (ctx : TypeContext) : Prop where
  indexed : ctx.Indexed
  cached : ∀ (key : SpecializationKey) made, ctx.instances[key]? = some made →
    ∃ template, ctx.templates.get? key.template = some template ∧
      (template.body.defKind?.isSome → ∃ id entry, ctx.registry.get? id = some entry ∧
        made = .type entry.type ∧ entry.InstanceOf key template ∧ entry.body.isSome)
  owned : ∀ id entry key, ctx.registry.get? id = some entry →
    entry.specialization = some key → ctx.instances[key]? = some (.type entry.type)

theorem cacheSound_initial (config : TypeConfig) : CacheSound { config } where
  indexed := indexed_initial config
  cached key made found := by simp at found
  owned id entry key live := by simp [TypeRegistry.get?] at live

/-- A change of the tables that neither adds instances nor definitions that carry a key. -/
structure Quiet (before after : TypeContext) : Prop where
  indexed : after.Indexed
  extends_ : Extends before after
  instances : after.instances = before.instances
  owners : ∀ id entry key, after.registry.get? id = some entry →
    entry.specialization = some key → ∃ stored, before.registry.get? id = some stored ∧
      stored.specialization = some key ∧ stored.type = entry.type

theorem cacheSound_quiet (sound : CacheSound before) (quiet : Quiet before after) :
    CacheSound after where
  indexed := quiet.indexed
  cached key made found := by
    rw [quiet.instances] at found
    obtain ⟨template, registered, nominal⟩ := sound.cached key made found
    refine ⟨template, quiet.extends_.templates _ _ registered, fun kind => ?_⟩
    obtain ⟨id, entry, live, type, shape, whole⟩ := nominal kind
    exact ⟨id, entry, quiet.extends_.complete live whole, type, shape, whole⟩
  owned id entry key live carries := by
    obtain ⟨stored, live', carries', type⟩ := quiet.owners id entry key live carries
    rw [quiet.instances, ← type]
    exact sound.owned id stored key live' carries'

theorem Quiet.refl (indexed : ctx.Indexed) : Quiet ctx ctx where
  indexed
  extends_ := .refl ctx
  instances := rfl
  owners _ entry _ live carries := ⟨entry, live, carries, rfl⟩

/-! ### Requests that make no instance -/

theorem quiet_pool {pool : TypePool} (indexed : ctx.Indexed) (sound : pool.Sound)
    (kept : TypePool.Kept ctx.pool pool) : Quiet ctx { ctx with pool } where
  indexed := indexed_pool indexed sound kept
  extends_ := { Extends.refl ctx with pool := kept }
  instances := rfl
  owners := (Quiet.refl indexed).owners

theorem quiet_layouts {layouts : Std.HashMap TypeId TypeLayout} (indexed : ctx.Indexed) :
    Quiet ctx { ctx with layouts } where
  indexed := ⟨indexed.pool, indexed.defs, indexed.names⟩
  extends_ := ⟨rfl, .refl _, fun _ _ found => found, fun _ _ found => found,
    (Extends.refl ctx).defs⟩
  instances := rfl
  owners := (Quiet.refl indexed).owners

theorem quiet_registered (indexed : ctx.Indexed)
    (registered : ctx.registerTemplate template = .ok (id, after)) : Quiet ctx after := by
  obtain ⟨templates, given, rfl⟩ := registerTemplate_ok registered
  obtain ⟨-, -, -, found⟩ := TemplateRegistry.register_ok given
  refine ⟨⟨indexed.pool, indexed.defs, indexed.names⟩,
    { Extends.refl ctx with templates := fun other stored known => ?_ }, rfl,
    (Quiet.refl indexed).owners⟩
  have below := TemplateRegistry.lt_size_of_get? known
  rw [found, if_neg (by rintro rfl; exact Nat.lt_irrefl _ below)]
  exact known

theorem quiet_declared {request : DefRequest} {entry : TypeDef} (indexed : ctx.Indexed)
    (declared : ctx.declare request = .ok (entry, after)) (own : request.specialization = none) :
    Quiet ctx after := by
  have indexed' := indexed_declare indexed declared
  obtain ⟨-, rfl⟩ := declare_ok declared
  have live := ctx.registry.get?_push request
    (ctx.intern (.nominal request.kind ctx.registry.nextId)).1
  refine ⟨indexed', ⟨rfl, TypePool.kept_intern _ _, fun _ _ found => found,
    fun _ _ found => found, fun id stored known => ?_⟩, rfl,
    fun id stored key known carries => ?_⟩
  · have below := TypeRegistry.lt_size_of_get? known
    refine ⟨stored.body, (live id).trans ?_, fun _ => rfl⟩
    rw [if_neg (by rintro rfl; exact Nat.lt_irrefl _ below)]
    exact known
  · rw [live] at known
    split at known
    · cases known
      simp [TypeRegistry.pushed, TypeRegistry.push, own] at carries
    · exact ⟨stored, known, carries, rfl⟩

theorem quiet_defined {ty : TypeId} {body : DefBody} (indexed : ctx.Indexed)
    (defined : ctx.define ty body = .ok after) : Quiet ctx after := by
  obtain ⟨behind, registry, -, given, rfl⟩ := define_ok defined
  have indexed' := indexed_registry indexed given
  obtain ⟨entry, live, bare, -, -, found⟩ := TypeRegistry.define_ok given
  refine ⟨indexed', ⟨rfl, .refl _, fun _ _ known => known, fun _ _ known => known,
    fun id stored known => ?_⟩, rfl, fun id stored key known carries => ?_⟩
  · by_cases same : id = behind.id
    · subst same
      rw [live] at known
      cases known
      exact ⟨some body, (found _).trans (if_pos rfl), fun whole => by simp [bare] at whole⟩
    · exact ⟨stored.body, ((found id).trans (if_neg same)).trans known, fun _ => rfl⟩
  · rw [found] at known
    split at known
    · rename_i same
      cases known
      exact ⟨entry, same ▸ live, carries, rfl⟩
    · exact ⟨stored, known, carries, rfl⟩

/-! ### Requests for instances -/

theorem specialize_eq (ctx : TypeContext) (id : TemplateId) (arguments : List TemplateArgument) :
    ctx.specialize id arguments =
      ((Specializer.specialize { context := ctx } id arguments).1,
        (Specializer.specialize { context := ctx } id arguments).2.context) := rfl

/-- A request that fails changes nothing that is kept. -/
theorem quiet_failed {arguments : List TemplateArgument} {err : TypeError} {state : Specializer}
    (indexed : ctx.Indexed) (failed : Specializer.Failed ctx id arguments err state) :
    Quiet ctx state.withdraw.context := by
  obtain ⟨added, made, growth⟩ := failed.growth
  obtain ⟨names, size, found⟩ := Specializer.registry_withdraw growth indexed rfl
  refine ⟨⟨failed.indexed.pool, fun id entry live => ?_, fun name id named => ?_⟩,
    ⟨growth.config, growth.pool, fun id template known => ?_, fun key made known => ?_,
      fun id entry live => ?_⟩, growth.instances, fun id entry key live carries => ?_⟩
  · rw [found] at live
    obtain ⟨own, form⟩ := indexed.defs id entry live
    exact ⟨own, TypePool.form?_kept growth.pool form⟩
  · rw [names] at named
    rw [size]
    exact Nat.lt_of_lt_of_le (indexed.names name id named) growth.size
  · exact (congrArg (·.get? id) growth.templates).trans known
  · exact (congrArg (·[key]?) growth.instances).trans known
  · exact ⟨entry.body, (found id).trans live, fun _ => rfl⟩
  · rw [found] at live
    exact ⟨entry, live, carries, rfl⟩

/-- A request that succeeds keeps everything and adds what it made. -/
theorem extends_succeeded {arguments : List TemplateArgument} {result : Instance}
    {state : Specializer} (succeeded : Specializer.Succeeded ctx id arguments result state) :
    Extends ctx state.publish.context := by
  obtain ⟨added, made, growth, -⟩ := succeeded.growth
  refine ⟨growth.config, growth.pool, fun id template known => ?_, fun key made known => ?_,
    fun id entry live => ?_⟩
  · exact (congrArg (·.get? id) growth.templates).trans known
  · rw [Specializer.instances_publish growth rfl]
    exact growth.found known
  · exact ⟨entry.body, (growth.old id (TypeRegistry.lt_size_of_get? live)).trans live,
      fun _ => rfl⟩

theorem cacheSound_succeeded {arguments : List TemplateArgument} {result : Instance}
    {state : Specializer} (sound : CacheSound ctx)
    (succeeded : Specializer.Succeeded ctx id arguments result state) :
    CacheSound state.publish.context := by
  have kept := extends_succeeded succeeded
  obtain ⟨added, made, growth, whole⟩ := succeeded.growth
  refine ⟨⟨succeeded.indexed.pool, succeeded.indexed.defs, succeeded.indexed.names⟩,
    fun key found known => ?_, fun id entry key live carries => ?_⟩
  · rw [Specializer.instances_publish growth rfl, growth.find?] at known
    cases before : ctx.instances[key]? with
    | some older =>
      have same : Specializer.find? { context := ctx } key = some older := before
      rw [same] at known
      cases known
      obtain ⟨template, registered, nominal⟩ := sound.cached key _ before
      refine ⟨template, kept.templates _ _ registered, fun kind => ?_⟩
      obtain ⟨id, entry, live, type, shape, body⟩ := nominal kind
      exact ⟨id, entry, kept.complete live body, type, shape, body⟩
    | none =>
      have same : Specializer.find? { context := ctx } key = none := before
      rw [same, Option.none_or, Option.map_eq_some_iff] at known
      obtain ⟨result, first, rfl⟩ := known
      obtain rfl : result.1 = key := by simpa using List.find?_some first
      obtain ⟨template, registered, nominal⟩ := growth.shaped result (List.mem_of_find?_eq_some first)
      refine ⟨template, registered, fun kind => ?_⟩
      obtain ⟨id, mine, entry, live, type, shape⟩ := nominal kind
      obtain ⟨stored, live', body⟩ := whole id mine
      rw [live] at live'
      cases live'
      exact ⟨id, entry, live, type, shape, body⟩
  · rw [Specializer.instances_publish growth rfl]
    by_cases below : id.index < ctx.registry.defs.size
    · exact growth.found (sound.owned id entry key ((growth.old id below).symm.trans live) carries)
    · obtain ⟨stored, owner, live', carries', present⟩ := growth.owned id
        ((growth.fresh id).2 ⟨Nat.le_of_not_lt below, TypeRegistry.lt_size_of_get? live⟩)
      rw [show state.context.registry.get? id = some entry from live] at live'
      cases live'
      rw [carries] at carries'
      cases carries'
      exact growth.find?_made present

/-! ### Every request -/

/-- A request makes no instance, or it is one for an instance and succeeds. -/
theorem perform_cases (indexed : ctx.Indexed) (request : TableRequest) :
    Quiet ctx (ctx.perform request).2 ∨ ∃ id arguments found state,
      request = .specialize id arguments ∧ Specializer.Succeeded ctx id arguments found state ∧
        (ctx.perform request).2 = state.publish.context := by
  cases request with
  | intern form =>
    exact .inl (quiet_pool indexed (TypePool.sound_intern indexed.pool form)
      (TypePool.kept_intern _ form))
  | qualify ty quals =>
    exact .inl (quiet_pool indexed (TypePool.sound_qualified indexed.pool ty quals)
      (TypePool.kept_qualified _ ty quals))
  | declare name kind locator =>
    left
    simp only [perform, answered]
    split
    · rename_i entry after declared
      exact quiet_declared indexed declared rfl
    · exact .refl indexed
  | define ty body =>
    left
    simp only [perform, answered]
    cases defined : ctx.define ty body with
    | ok after => exact quiet_defined indexed defined
    | error err => exact .refl indexed
  | register template =>
    left
    simp only [perform, answered]
    split
    · rename_i id after registered
      exact quiet_registered indexed registered
    · exact .refl indexed
  | specialize id arguments =>
    simp only [perform, specialize_eq]
    rcases Specializer.specialize_cases indexed id arguments with
      ⟨err, state, failed⟩ | ⟨found, state, succeeded⟩
    · rw [failed.ran]
      exact .inl (quiet_failed indexed failed)
    · rw [succeeded.ran]
      exact .inr ⟨id, arguments, found, state, rfl, succeeded, rfl⟩
  | layout ty => exact .inl (quiet_layouts indexed)
  | recordLayout ty => exact .inl (quiet_layouts indexed)

/-- One request keeps the invariant and everything in the tables. -/
theorem perform_sound (sound : CacheSound ctx) (request : TableRequest) :
    CacheSound (ctx.perform request).2 ∧ Extends ctx (ctx.perform request).2 := by
  rcases perform_cases sound.indexed request with
    quiet | ⟨id, arguments, found, state, -, succeeded, same⟩
  · exact ⟨cacheSound_quiet sound quiet, quiet.extends_⟩
  · rw [same]
    exact ⟨cacheSound_succeeded sound succeeded, extends_succeeded succeeded⟩

theorem after_sound (sound : CacheSound ctx) (history : List TableRequest) :
    CacheSound (ctx.after history) ∧ Extends ctx (ctx.after history) := by
  induction history generalizing ctx with
  | nil => exact ⟨sound, .refl ctx⟩
  | cons request rest ih =>
    obtain ⟨next, step⟩ := perform_sound sound request
    obtain ⟨last, steps⟩ := ih next
    exact ⟨last, step.trans steps⟩

/-! ### What a key stands for -/

/-- A request that succeeds binds its arguments and leaves its result under the key of these. -/
theorem instance_bound {arguments : List TemplateArgument} {made : Instance}
    (indexed : ctx.Indexed) (ran : (ctx.specialize id arguments).1 = .ok made) :
    ∃ template full, ctx.templates.get? id = some template ∧
      ctx.bind id template arguments = .ok full ∧
      (ctx.specialize id arguments).2.instances[(⟨id, full⟩ : SpecializationKey)]? = some made := by
  rw [specialize_eq] at ran ⊢
  rcases Specializer.specialize_cases indexed id arguments with
    ⟨err, state, failed⟩ | ⟨found, state, succeeded⟩
  · rw [failed.ran] at ran
    cases ran
  · rw [succeeded.ran] at ran ⊢
    cases ran
    obtain ⟨template, full, registered, bound, known⟩ := succeeded.key
    obtain ⟨added, made, growth, -⟩ := succeeded.growth
    exact ⟨template, full, registered, bound,
      (Specializer.instances_publish growth rfl _).trans known⟩

theorem instance_kept {arguments : List TemplateArgument} {made : Instance}
    (indexed : ctx.Indexed) (ran : (ctx.specialize id arguments).1 = .ok made) :
    ∃ template, ctx.templates.get? id = some template ∧
      (ctx.specialize id arguments).2.instances[
        (⟨id, template.fill arguments⟩ : SpecializationKey)]? = some made := by
  obtain ⟨template, full, registered, bound, kept⟩ := instance_bound indexed ran
  refine ⟨template, registered, ?_⟩
  rw [← bind_fill bound]
  exact kept

theorem specialize_of_specializeType {arguments : List TemplateArgument} {ty : TypeId}
    (ran : (ctx.specializeType id arguments).1 = .ok ty) :
    (ctx.specialize id arguments).1 = .ok (.type ty) := by
  simp only [specializeType] at ran
  cases outcome : (ctx.specialize id arguments).1 with
  | error err => simp [outcome, Except.bind] at ran
  | ok made => cases made <;> simp_all [Except.bind, Specializer.requireType]

theorem specialize_of_specializeFunction {arguments : List TemplateArgument}
    {made : FunctionInstance} (ran : (ctx.specializeFunction id arguments).1 = .ok made) :
    (ctx.specialize id arguments).1 = .ok (.function made) := by
  simp only [specializeFunction] at ran
  cases outcome : (ctx.specialize id arguments).1 with
  | error err => simp [outcome, Except.bind] at ran
  | ok found => cases found <;> simp_all [Except.bind, Specializer.requireFunction]

/-- Two requests for one key, with anything in between, have one result. -/
theorem equal_requests {first second : List TemplateArgument} {made again : Instance}
    (sound : CacheSound ctx) (registered : ctx.templates.get? id = some template)
    (same : template.fill first = template.fill second) (later : List TableRequest)
    (ran : (ctx.specialize id first).1 = .ok made)
    (ranAgain : (((ctx.specialize id first).2.after later).specialize id second).1 = .ok again) :
    again = made := by
  obtain ⟨sound₁, extends₁⟩ := perform_sound sound (.specialize id first)
  obtain ⟨sound₂, extends₂⟩ := after_sound sound₁ later
  obtain ⟨sound₃, extends₃⟩ := perform_sound sound₂ (.specialize id second)
  obtain ⟨one, registered₁, kept₁⟩ := instance_kept sound.indexed ran
  obtain ⟨two, registered₂, kept₂⟩ := instance_kept sound₂.indexed ranAgain
  cases registered.symm.trans registered₁
  cases (extends₂.templates _ _ (extends₁.templates _ _ registered)).symm.trans registered₂
  rw [← same] at kept₂
  have kept := extends₃.instances _ _ (extends₂.instances _ _ kept₁)
  exact (Option.some.inj (kept.symm.trans kept₂)).symm

/-- In sound tables, nominal instances with one type have one key. -/
theorem key_eq_of_type_eq (sound : CacheSound ctx) {first second : SpecializationKey}
    {one two : TemplateDef} {ty : TypeId}
    (registered₁ : ctx.templates.get? first.template = some one)
    (registered₂ : ctx.templates.get? second.template = some two)
    (nominal₁ : one.body.defKind?.isSome) (nominal₂ : two.body.defKind?.isSome)
    (kept₁ : ctx.instances[first]? = some (.type ty))
    (kept₂ : ctx.instances[second]? = some (.type ty)) : first = second := by
  obtain ⟨_, known₁, cached₁⟩ := sound.cached first _ kept₁
  obtain ⟨_, known₂, cached₂⟩ := sound.cached second _ kept₂
  cases registered₁.symm.trans known₁
  cases registered₂.symm.trans known₂
  obtain ⟨id₁, entry₁, live₁, type₁, shape₁, -⟩ := cached₁ nominal₁
  obtain ⟨id₂, entry₂, live₂, type₂, shape₂, -⟩ := cached₂ nominal₂
  rw [Instance.type.injEq] at type₁ type₂
  obtain rfl := id_eq_of_type_eq sound.indexed live₁ live₂ (type₁.symm.trans type₂)
  cases live₁.symm.trans live₂
  exact Option.some.inj (shape₁.specialization.symm.trans shape₂.specialization)

/-- Two requests for different keys of nominal templates, with anything in between, have different
types. -/
theorem different_requests {other : TemplateId} {template' : TemplateDef}
    {first second : List TemplateArgument} {ty ty' : TypeId} (sound : CacheSound ctx)
    (later : List TableRequest) (registered : ctx.templates.get? id = some template)
    (registered' : ((ctx.specialize id first).2.after later).templates.get? other = some template')
    (nominal : template.body.defKind?.isSome) (nominal' : template'.body.defKind?.isSome)
    (different : (⟨id, template.fill first⟩ : SpecializationKey) ≠ ⟨other, template'.fill second⟩)
    (ran : (ctx.specialize id first).1 = .ok (.type ty))
    (ran' : (((ctx.specialize id first).2.after later).specialize other second).1 =
      .ok (.type ty')) : ty ≠ ty' := by
  rintro rfl
  obtain ⟨sound₁, extends₁⟩ := perform_sound sound (.specialize id first)
  obtain ⟨sound₂, extends₂⟩ := after_sound sound₁ later
  obtain ⟨sound₃, extends₃⟩ := perform_sound sound₂ (.specialize other second)
  obtain ⟨one, registered₁, kept₁⟩ := instance_kept sound.indexed ran
  obtain ⟨two, registered₂, kept₂⟩ := instance_kept sound₂.indexed ran'
  cases registered.symm.trans registered₁
  cases registered'.symm.trans registered₂
  exact different (key_eq_of_type_eq sound₃
    (extends₃.templates _ _ (extends₂.templates _ _ (extends₁.templates _ _ registered)))
    (extends₃.templates _ _ registered') nominal nominal'
    (extends₃.instances _ _ (extends₂.instances _ _ kept₁)) kept₂)

/-- In every state that requests lead to from new tables: a nominal instance that is kept is the
type of a live definition with its key and a body; a live definition with a key is the one that is
kept under it, so that no two have one key; and whatever is requested later, what is kept stays.
So equal requests, with anything in between, have equal results, and different requests for
nominal templates have different types. -/
theorem specialization_cache (config : TypeConfig) (history later : List TableRequest) :
    let now := ({ config } : TypeContext).after history
    (∀ (key : SpecializationKey) made, now.instances[key]? = some made →
      ∃ template, now.templates.get? key.template = some template ∧
        (template.body.defKind?.isSome → ∃ id entry, now.registry.get? id = some entry ∧
          made = .type entry.type ∧ entry.specialization = some key ∧ entry.body.isSome)) ∧
    (∀ id entry key, now.registry.get? id = some entry → entry.specialization = some key →
      now.instances[key]? = some (.type entry.type)) ∧
    (∀ first second one two key, now.registry.get? first = some one →
      now.registry.get? second = some two → one.specialization = some key →
      two.specialization = some key → first = second) ∧
    (∀ (key : SpecializationKey) made, now.instances[key]? = some made →
      (now.after later).instances[key]? = some made) ∧
    (∀ id template first second, now.templates.get? id = some template →
      template.fill first = template.fill second →
      (∀ ty ty', (now.specializeType id first).1 = .ok ty →
        (((now.specializeType id first).2.after later).specializeType id second).1 = .ok ty' →
        ty' = ty) ∧
      (∀ made made', (now.specializeFunction id first).1 = .ok made →
        (((now.specializeFunction id first).2.after later).specializeFunction id second).1 =
          .ok made' → made' = made)) ∧
    (∀ id other template template' first second ty ty', now.templates.get? id = some template →
      ((now.specializeType id first).2.after later).templates.get? other = some template' →
      template.body.defKind?.isSome → template'.body.defKind?.isSome →
      (⟨id, template.fill first⟩ : SpecializationKey) ≠ ⟨other, template'.fill second⟩ →
      (now.specializeType id first).1 = .ok ty →
      (((now.specializeType id first).2.after later).specializeType other second).1 = .ok ty' →
      ty ≠ ty') := by
  intro now
  have sound : CacheSound now := (after_sound (cacheSound_initial config) history).1
  refine ⟨fun key made kept => ?_, sound.owned, fun first second one two key live₁ live₂ carries₁
    carries₂ => ?_, (after_sound sound later).2.instances, fun id template first second registered
    same => ⟨fun ty ty' ran ran' => ?_, fun made made' ran ran' => ?_⟩, ?_⟩
  · obtain ⟨template, registered, nominal⟩ := sound.cached key made kept
    refine ⟨template, registered, fun kind => ?_⟩
    obtain ⟨id, entry, live, type, shape, whole⟩ := nominal kind
    exact ⟨id, entry, live, type, shape.specialization, whole⟩
  · have kept := sound.owned first one key live₁ carries₁
    rw [sound.owned second two key live₂ carries₂, Option.some.injEq, Instance.type.injEq] at kept
    exact id_eq_of_type_eq sound.indexed live₁ live₂ kept.symm
  · have equal := equal_requests sound registered same later (specialize_of_specializeType ran)
      (specialize_of_specializeType ran')
    exact Instance.type.inj equal
  · have equal := equal_requests sound registered same later
      (specialize_of_specializeFunction ran) (specialize_of_specializeFunction ran')
    exact Instance.function.inj equal
  · intro id other template template' first second ty ty' registered registered' nominal nominal'
      different ran ran'
    exact different_requests sound later registered registered' nominal nominal' different
      (specialize_of_specializeType ran) (specialize_of_specializeType ran')

end TypeContext

end FrontEnd
