import FrontEnd.Proofs.Specialization.Tables

/-!
What requests for types add. Adding a type or asking for an instance leaves the templates and all
definitions as they are; there are only more types, and more definitions behind those that were
there.
-/

namespace FrontEnd

namespace TypeContext

variable {ctx before middle after : TypeContext}

/-- There may be more definitions, and those that were there are what they were. -/
structure Retains (before after : TypeContext) : Prop where
  indexed : after.Indexed
  size : before.registry.defs.size ≤ after.registry.defs.size
  old : ∀ id : DefId, id.index < before.registry.defs.size →
    after.registry.get? id = before.registry.get? id

/-- The templates are what they were, too. -/
structure Adds (before after : TypeContext) : Prop extends Retains before after where
  config : after.config = before.config
  templates : after.templates = before.templates

theorem Retains.refl (indexed : ctx.Indexed) : Retains ctx ctx :=
  ⟨indexed, Nat.le_refl _, fun _ _ => rfl⟩

theorem Retains.trans (first : Retains before middle) (second : Retains middle after) :
    Retains before after where
  indexed := second.indexed
  size := Nat.le_trans first.size second.size
  old id below := (second.old id (Nat.lt_of_lt_of_le below first.size)).trans (first.old id below)

theorem Adds.refl (indexed : ctx.Indexed) : Adds ctx ctx := ⟨.refl indexed, rfl, rfl⟩

theorem Adds.trans (first : Adds before middle) (second : Adds middle after) :
    Adds before after :=
  ⟨first.toRetains.trans second.toRetains, second.config.trans first.config,
    second.templates.trans first.templates⟩

theorem Retains.live {entry : TypeDef} {id : DefId} (retains : Retains before after)
    (live : before.registry.get? id = some entry) : after.registry.get? id = some entry :=
  (retains.old id (TypeRegistry.lt_size_of_get? live)).trans live

/-- What is declared comes behind what was there. -/
theorem adds_declare {request : DefRequest} {entry : TypeDef} (indexed : ctx.Indexed)
    (declared : ctx.declare request = .ok (entry, after)) :
    Adds ctx after ∧ after.registry.get? entry.id = some entry ∧
      entry.id = ctx.registry.nextId ∧
      after.registry.defs.size = ctx.registry.defs.size + 1 := by
  have indexed' := indexed_declare indexed declared
  obtain ⟨rfl, rfl⟩ := declare_ok declared
  refine ⟨⟨⟨indexed', ?_, fun id below => ?_⟩, rfl, rfl⟩, ?_, rfl, TypeRegistry.size_push _ _⟩
  · exact Nat.le_of_lt (Nat.lt_of_lt_of_eq (Nat.lt_succ_self _) (TypeRegistry.size_push _ _).symm)
  · refine (TypeRegistry.get?_push _ _ _ id).trans (if_neg ?_)
    rintro rfl
    exact Nat.lt_irrefl _ below
  · exact (TypeRegistry.get?_push _ _ _ _).trans (if_pos rfl)

/-! ### Requests -/

private theorem adds_pool {pool : TypePool} (indexed : ctx.Indexed) (sound : pool.Sound)
    (kept : TypePool.Kept ctx.pool pool) : Adds ctx { ctx with pool } :=
  ⟨⟨indexed_pool indexed sound kept, Nat.le_refl _, fun _ _ => rfl⟩, rfl, rfl⟩

theorem adds_intern (indexed : ctx.Indexed) (form : TypeForm) : Adds ctx (ctx.intern form).2 :=
  adds_pool indexed (TypePool.sound_intern indexed.pool form) (TypePool.kept_intern _ form)

theorem adds_qualified (indexed : ctx.Indexed) (ty : TypeId) (quals : Qualifiers) :
    Adds ctx (ctx.qualified ty quals).2 :=
  adds_pool indexed (TypePool.sound_qualified indexed.pool ty quals)
    (TypePool.kept_qualified _ ty quals)

/-- A request for an instance adds to the tables, whatever becomes of it. -/
theorem adds_specialize (indexed : ctx.Indexed) (id : TemplateId)
    (arguments : List TemplateArgument) : Adds ctx (ctx.specialize id arguments).2 := by
  rw [specialize_eq]
  rcases Specializer.specialize_cases indexed id arguments with
    ⟨err, state, failed⟩ | ⟨made, state, succeeded⟩
  · rw [failed.ran]
    have quiet := quiet_failed indexed failed
    obtain ⟨added, results, growth⟩ := failed.growth
    obtain ⟨-, size, found⟩ := Specializer.registry_withdraw growth indexed rfl
    exact ⟨⟨quiet.indexed, Nat.le_trans growth.size (Nat.le_of_eq size.symm),
      fun id _ => found id⟩, growth.config, growth.templates⟩
  · rw [succeeded.ran]
    obtain ⟨added, results, growth, -⟩ := succeeded.growth
    exact ⟨⟨⟨succeeded.indexed.pool, succeeded.indexed.defs, succeeded.indexed.names⟩,
      growth.size, growth.old⟩, growth.config, growth.templates⟩

/-- The instance that was asked for is known from then on. -/
theorem specializeType_gives {id : TemplateId} {arguments : List TemplateArgument} {ty : TypeId}
    (orderly : ctx.Orderly) (given : (ctx.specializeType id arguments).1 = .ok ty) :
    Specializer.Gives { context := (ctx.specializeType id arguments).2 } id arguments ty := by
  obtain ⟨template, full, registered, bound, kept⟩ :=
    instance_bound orderly.sound.indexed (specialize_of_specializeType given)
  obtain ⟨-, extends_⟩ := perform_sound orderly.sound (.specialize id arguments)
  exact ⟨template, full, extends_.templates _ _ registered, bind_grown extends_.pool
    extends_.templates (orderly.twin.templates.known _ _ registered) bound, kept⟩

end TypeContext

end FrontEnd
