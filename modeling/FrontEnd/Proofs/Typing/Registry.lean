import FrontEnd.Proofs.Typing.Pool
import FrontEnd.Typing.Context

/-!
The registry of definitions, seen through `get?`: declaring adds one live definition behind all
others, a body changes one live definition, and withdrawing takes one away. Every live definition
knows its own id, and its type is the nominal type of that id.
-/

namespace FrontEnd

namespace TypeRegistry

variable {registry after : TypeRegistry} {id other : DefId} {entry : TypeDef} {body : DefBody}

theorem lt_size_of_get? (live : registry.get? id = some entry) :
    id.index < registry.defs.size := by
  refine Nat.lt_of_not_le fun outside => ?_
  simp [get?, Array.getElem?_eq_none outside] at live

/-- The definition that a request makes when it is pushed. -/
def pushed (registry : TypeRegistry) (request : DefRequest) (type : TypeId) : TypeDef :=
  (registry.push request type).1

@[simp] theorem pushed_id (request : DefRequest) (type : TypeId) :
    (registry.pushed request type).id = registry.nextId := rfl

@[simp] theorem pushed_type (request : DefRequest) (type : TypeId) :
    (registry.pushed request type).type = type := rfl

theorem size_push (request : DefRequest) (type : TypeId) :
    (registry.push request type).2.defs.size = registry.defs.size + 1 := by
  simp [push]

variable (registry) in
theorem get?_push (request : DefRequest) (type : TypeId) (other : DefId) :
    (registry.push request type).2.get? other =
      if other = registry.nextId then some (registry.pushed request type)
      else registry.get? other := by
  obtain ⟨index⟩ := other
  simp only [push, get?, pushed, Array.getElem?_push, nextId, DefId.mk.injEq]
  split <;> rfl

/-- Every definition but the last one that was pushed stood there before. -/
theorem lt_size_of_ne_nextId (different : id ≠ registry.nextId)
    (below : id.index < registry.defs.size + 1) : id.index < registry.defs.size := by
  refine Nat.lt_of_le_of_ne (Nat.le_of_lt_succ below) fun last => different ?_
  obtain ⟨index⟩ := id
  exact congrArg DefId.mk last

/-- Giving a body succeeds exactly for a live definition without one, and changes nothing else. -/
theorem define_ok (defined : registry.define id body = .ok after) :
    ∃ entry, registry.get? id = some entry ∧ entry.body = none ∧ after.names = registry.names ∧
      after.defs.size = registry.defs.size ∧
      ∀ other, after.get? other =
        if other = id then some { entry with body := some body } else registry.get? other := by
  unfold define at defined
  split at defined
  · cases defined
  · rename_i entry live
    split at defined
    · cases defined
    · rename_i bare
      cases defined
      refine ⟨entry, live, bare, rfl, by simp, fun other => ?_⟩
      have inside := lt_size_of_get? live
      obtain ⟨index⟩ := id
      obtain ⟨place⟩ := other
      simp only [get?, Array.getElem?_modify, DefId.mk.injEq]
      by_cases same : index = place
      · subst same
        simp [Array.getElem?_eq_getElem inside]
      · simp [same, Ne.symm same]

theorem define_bare (live : registry.get? id = some entry) (bare : entry.body = none) :
    ∃ after, registry.define id body = .ok after := by
  simp [define, live, bare]

/-- The names that are left when a definition of a name is withdrawn. -/
def namesWithout (registry : TypeRegistry) (id : DefId) (name : Option Name) :
    Std.HashMap Name DefId :=
  match name with
  | some name => if registry.names[name]? = some id then registry.names.erase name else registry.names
  | none => registry.names

theorem getElem?_namesWithout (registry : TypeRegistry) (id : DefId) (own : Option Name)
    (name : Name) : (registry.namesWithout id own)[name]? =
      if own = some name ∧ registry.names[name]? = some id then none else registry.names[name]? := by
  cases own with
  | none => simp [namesWithout]
  | some given =>
    unfold namesWithout
    by_cases leads : registry.names[given]? = some id <;> by_cases same : given = name
    · simp [← same, leads]
    · simp [leads, Std.HashMap.getElem?_erase, same]
    · simp [← same, leads]
    · simp [leads, same]

theorem namesWithout_unnamed (own : Option Name)
    (unnamed : ∀ name : Name, registry.names[name]? ≠ some id) :
    registry.namesWithout id own = registry.names := by
  cases own with
  | none => rfl
  | some name => exact if_neg (unnamed name)

/-- Withdrawing takes away a live definition, and its name if the name leads to it. -/
theorem withdraw_live (live : registry.get? id = some entry) :
    ∃ after, registry.withdraw id = .ok after ∧ after.defs.size = registry.defs.size ∧
      after.names = registry.namesWithout id entry.name ∧
      ∀ other, after.get? other = if other = id then none else registry.get? other := by
  refine ⟨_, by rw [withdraw, live], by simp, rfl, fun ⟨place⟩ => ?_⟩
  obtain ⟨index⟩ := id
  simp only [get?, Array.getElem?_modify, DefId.mk.injEq]
  by_cases same : index = place
  · subst same
    have inside : index < registry.defs.size := lt_size_of_get? live
    simp [Array.getElem?_eq_getElem inside]
  · simp [same, Ne.symm same]

end TypeRegistry

namespace TemplateRegistry

variable {registry after : TemplateRegistry} {template : TemplateDef} {id : TemplateId}

theorem lt_size_of_get? (known : registry.get? id = some template) :
    id.index < registry.templates.size :=
  (Array.getElem?_eq_some_iff.1 known).1

/-- Registering puts one template behind all others. -/
theorem register_ok (registered : registry.register template = .ok (id, after)) :
    template.check = .ok () ∧ id = registry.nextId ∧
      after = ⟨registry.templates.push template, registry.names.insert template.name id⟩ ∧
      ∀ other, after.get? other =
        if other = registry.nextId then some template else registry.get? other := by
  unfold register at registered
  split at registered
  · cases registered
  · rename_i checked
    cases registered
    refine ⟨checked, rfl, rfl, fun ⟨index⟩ => ?_⟩
    simp only [get?, Array.getElem?_push, nextId, TemplateId.mk.injEq]

end TemplateRegistry

namespace TypeContext

/-- Ids lead where they should: forms and types answer each other, each live definition stands at
its own id and its type is the nominal type of that id, and names lead to ids given out. -/
structure Indexed (ctx : TypeContext) : Prop where
  pool : ctx.pool.Sound
  defs : ∀ id entry, ctx.registry.get? id = some entry →
    entry.id = id ∧ ctx.pool.form? entry.type = some (.nominal entry.kind id)
  names : ∀ (name : Name) id, ctx.registry.names[name]? = some id →
    id.index < ctx.registry.defs.size

variable {ctx after : TypeContext}

theorem indexed_initial (config : TypeConfig) : Indexed { config } where
  pool := TypePool.sound_new
  defs id entry live := by simp [TypeRegistry.get?] at live
  names name id found := by simp at found

/-- Two live definitions with one type are one definition. -/
theorem id_eq_of_type_eq (indexed : ctx.Indexed) {first second : DefId} {one two : TypeDef}
    (left : ctx.registry.get? first = some one) (right : ctx.registry.get? second = some two)
    (same : one.type = two.type) : first = second := by
  have leftForm := (indexed.defs first one left).2
  rw [same, (indexed.defs second two right).2] at leftForm
  simp only [Option.some.injEq, TypeForm.nominal.injEq] at leftForm
  exact leftForm.2.symm

/-- More types in the pool keep everything indexed. -/
theorem indexed_pool {pool : TypePool} (indexed : ctx.Indexed) (sound : pool.Sound)
    (kept : TypePool.Kept ctx.pool pool) : Indexed { ctx with pool } where
  pool := sound
  defs id entry live :=
    ⟨(indexed.defs id entry live).1, TypePool.form?_kept kept (indexed.defs id entry live).2⟩
  names := indexed.names

theorem indexed_intern (indexed : ctx.Indexed) (form : TypeForm) :
    (ctx.intern form).2.Indexed :=
  indexed_pool indexed (TypePool.sound_intern indexed.pool form) (TypePool.kept_intern _ form)

theorem indexed_qualified (indexed : ctx.Indexed) (ty : TypeId) (quals : Qualifiers) :
    (ctx.qualified ty quals).2.Indexed :=
  indexed_pool indexed (TypePool.sound_qualified indexed.pool ty quals)
    (TypePool.kept_qualified _ ty quals)

/-- What declaring does: one new definition at the next id, with a nominal type of that id. -/
theorem declare_ok {request : DefRequest} {entry : TypeDef}
    (declared : ctx.declare request = .ok (entry, after)) :
    entry = ctx.registry.pushed request
        (ctx.intern (.nominal request.kind ctx.registry.nextId)).1 ∧
      after = { (ctx.intern (.nominal request.kind ctx.registry.nextId)).2 with
        registry := (ctx.registry.push request
          (ctx.intern (.nominal request.kind ctx.registry.nextId)).1).2 } := by
  unfold declare at declared
  split at declared
  · cases declared
  · cases declared
    exact ⟨rfl, rfl⟩

theorem indexed_declare {request : DefRequest} {entry : TypeDef} (indexed : ctx.Indexed)
    (declared : ctx.declare request = .ok (entry, after)) : after.Indexed := by
  obtain ⟨-, rfl⟩ := declare_ok declared
  have interned := indexed_intern indexed (.nominal request.kind ctx.registry.nextId)
  refine ⟨interned.pool, fun id entry live => ?_, fun name id found => ?_⟩
  · rw [TypeRegistry.get?_push] at live
    split at live
    · rename_i same
      cases live
      subst same
      exact ⟨rfl, TypePool.form?_intern indexed.pool _⟩
    · exact interned.defs id entry live
  · rw [TypeRegistry.size_push]
    simp only [TypeRegistry.push] at found
    split at found
    · rw [Std.HashMap.getElem?_insert] at found
      split at found
      · cases found
        simp [TypeRegistry.nextId]
      · have := indexed.names name id found
        omega
    · have := indexed.names name id found
      omega

theorem indexed_registry {registry : TypeRegistry} {id : DefId} {body : DefBody}
    (indexed : ctx.Indexed) (defined : ctx.registry.define id body = .ok registry) :
    Indexed { ctx with registry } := by
  obtain ⟨entry, live, -, names, size, found⟩ := TypeRegistry.define_ok defined
  refine ⟨indexed.pool, fun other stored lookup => ?_, fun name other named => ?_⟩
  · rw [found] at lookup
    split at lookup
    · rename_i same
      cases lookup
      subst same
      exact indexed.defs _ entry live
    · exact indexed.defs other stored lookup
  · simp only [names, size] at named ⊢
    exact indexed.names name other named

/-- A live definition is found through its type. -/
theorem defOf_live {id : DefId} {entry : TypeDef} (indexed : ctx.Indexed)
    (live : ctx.registry.get? id = some entry) : ctx.defOf entry.type = .ok (some entry) := by
  obtain ⟨-, form⟩ := indexed.defs id entry live
  have plain : ctx.pool.unqualified entry.type = entry.type := by
    rw [TypePool.unqualified, TypePool.split_eq indexed.pool.honest, form]
  simp only [defOf, plain, TypePool.form, form, Bind.bind, Except.bind, pure, Except.pure, live]

/-- What defining does: the definition behind the type gets the body. -/
theorem define_ok {ty : TypeId} {body : DefBody} (defined : ctx.define ty body = .ok after) :
    ∃ entry registry, ctx.defOf ty = .ok (some entry) ∧
      ctx.registry.define entry.id body = .ok registry ∧ after = { ctx with registry } := by
  unfold define at defined
  cases behind : ctx.defOf ty with
  | error err => simp [behind, bind, Except.bind] at defined
  | ok found =>
    cases found with
    | none => simp [behind, bind, Except.bind, throw, throwThe, MonadExceptOf.throw] at defined
    | some entry =>
      cases given : ctx.registry.define entry.id body with
      | error err =>
        simp [behind, defineId, given, bind, Except.bind, throw, throwThe,
          MonadExceptOf.throw] at defined
      | ok registry =>
        simp only [behind, defineId, given, bind, Except.bind, pure, Except.pure,
          Except.ok.injEq] at defined
        exact ⟨entry, registry, rfl, given, defined.symm⟩

/-- What registering a template does. -/
theorem registerTemplate_ok {template : TemplateDef} {id : TemplateId}
    (registered : ctx.registerTemplate template = .ok (id, after)) :
    ∃ templates, ctx.templates.register template = .ok (id, templates) ∧
      after = { ctx with templates } := by
  unfold registerTemplate at registered
  cases given : ctx.templates.register template with
  | error err => simp [given, bind, Except.bind] at registered
  | ok result =>
    obtain ⟨own, templates⟩ := result
    simp only [given, bind, Except.bind, pure, Except.pure, Except.ok.injEq, Prod.mk.injEq]
      at registered
    obtain ⟨rfl, rfl⟩ := registered
    exact ⟨templates, rfl, rfl⟩

end TypeContext

end FrontEnd
