import FrontEnd.Proofs.Specialization.Growth

/-!
Whole requests. A request that succeeds publishes all of its results at once, each under its own
key. A request that fails takes back each definition that it declared, so that nothing but types in
the pool and ids that are not given out again is left of it.
-/

namespace FrontEnd

namespace Specializer

variable {before after : Specializer} {added : List DefId}
  {made : List (SpecializationKey × Instance)} {key : SpecializationKey}

/-! ### Publishing -/

private theorem getElem?_foldl_insert (results : List (SpecializationKey × Instance))
    (kept : Std.HashMap SpecializationKey Instance) (once : (results.map Prod.fst).Nodup)
    (key : SpecializationKey) :
    (results.foldl (fun kept (key, made) => kept.insert key made) kept)[key]? =
      ((results.find? (·.1 == key)).map Prod.snd).or kept[key]? := by
  induction results generalizing kept with
  | nil => simp
  | cons result rest ih =>
    obtain ⟨own, made⟩ := result
    simp only [List.map_cons, List.nodup_cons] at once
    rw [List.foldl_cons, ih _ once.2, Std.HashMap.getElem?_insert, List.find?_cons]
    by_cases same : own = key
    · subst same
      have absent : rest.find? (·.1 == own) = none := by
        rw [List.find?_eq_none]
        intro other member equal
        exact once.1 (List.mem_map.2 ⟨other, member, by simpa using equal⟩)
      simp [absent]
    · have different : (own == key) = false := by simpa using same
      simp [different]

/-- After publishing, exactly what the request would have found is kept. -/
theorem find?_publish (once : (after.pending.map Prod.fst).Nodup) (key : SpecializationKey) :
    after.publish.context.instances[key]? = after.find? key := by
  refine (getElem?_foldl_insert after.pending after.context.instances once key).trans ?_
  unfold find?
  cases after.pending.find? (·.1 == key) <;> rfl

theorem instances_publish (growth : Growth before added made after) (idle : before.pending = [])
    (key : SpecializationKey) :
    after.publish.context.instances[key]? = after.find? key := by
  refine find?_publish ?_ key
  rw [growth.pending, idle, List.nil_append]
  exact growth.once

/-! ### Withdrawing -/

/-- The registry without the definitions of a list. -/
def withdrawAll (registry : TypeRegistry) (ids : List DefId) : TypeRegistry :=
  ids.foldl (fun registry id => (registry.withdraw id).toOption.getD registry) registry

private theorem withdraw_one (registry : TypeRegistry) (id : DefId)
    (unnamed : ∀ name : Name, registry.names[name]? ≠ some id) :
    ((registry.withdraw id).toOption.getD registry).names = registry.names ∧
      ((registry.withdraw id).toOption.getD registry).defs.size = registry.defs.size ∧
      ∀ other, ((registry.withdraw id).toOption.getD registry).get? other =
        if other = id then none else registry.get? other := by
  cases live : registry.get? id with
  | none =>
    have refused : registry.withdraw id = .error (.unknownDef id) := by
      simp [TypeRegistry.withdraw, live]
    rw [refused]
    refine ⟨rfl, rfl, fun other => ?_⟩
    by_cases same : other = id
    · subst same
      simpa [Except.toOption] using live
    · simp [Except.toOption, same]
  | some entry =>
    obtain ⟨after, withdrawn, size, names, found⟩ := TypeRegistry.withdraw_live live
    rw [withdrawn]
    exact ⟨names.trans (TypeRegistry.namesWithout_unnamed _ unnamed), size, found⟩

/-- Withdrawing definitions that no name leads to only takes these definitions away. -/
theorem withdrawAll_unnamed (ids : List DefId) (registry : TypeRegistry)
    (unnamed : ∀ id ∈ ids, ∀ name : Name, registry.names[name]? ≠ some id) :
    (withdrawAll registry ids).names = registry.names ∧
      (withdrawAll registry ids).defs.size = registry.defs.size ∧
      ∀ other, (withdrawAll registry ids).get? other =
        if other ∈ ids then none else registry.get? other := by
  induction ids generalizing registry with
  | nil => exact ⟨rfl, rfl, fun other => by simp [withdrawAll]⟩
  | cons id rest ih =>
    obtain ⟨names, size, found⟩ := withdraw_one registry id (unnamed id (by simp))
    obtain ⟨names', size', found'⟩ := ih _ fun other member name => by
      rw [names]
      exact unnamed other (by simp [member]) name
    refine ⟨names'.trans names, size'.trans size, fun other => (found' other).trans ?_⟩
    rw [found]
    by_cases same : other = id
    · simp [same]
    · simp [same]

/-- A request that is withdrawn leaves every definition and every name as it was. -/
theorem registry_withdraw (growth : Growth before added made after)
    (indexed : before.context.Indexed) (idle : before.declared = []) :
    after.withdraw.context.registry.names = before.context.registry.names ∧
      after.withdraw.context.registry.defs.size = after.context.registry.defs.size ∧
      ∀ id, after.withdraw.context.registry.get? id = before.context.registry.get? id := by
  have declared : after.declared = added := by rw [growth.declared, idle, List.nil_append]
  obtain ⟨names, size, found⟩ := withdrawAll_unnamed added after.context.registry
    fun id member name named => by
      rw [growth.names] at named
      have := indexed.names name id named
      have := ((growth.fresh id).1 member).1
      omega
  have same : after.withdraw.context.registry = withdrawAll after.context.registry added := by
    rw [← declared]
    rfl
  rw [same]
  refine ⟨names.trans growth.names, size, fun id => ?_⟩
  rw [found]
  split
  · rename_i member
    have outside := ((growth.fresh id).1 member).1
    exact (Option.eq_none_iff_forall_ne_some.2 fun entry live =>
      absurd (TypeRegistry.lt_size_of_get? live) (by omega)).symm
  · rename_i foreign
    by_cases below : id.index < before.context.registry.defs.size
    · exact growth.old id below
    · have outside : after.context.registry.get? id = none :=
        Option.eq_none_iff_forall_ne_some.2 fun entry live => foreign
          ((growth.fresh id).2 ⟨by omega, TypeRegistry.lt_size_of_get? live⟩)
      rw [outside]
      exact (Option.eq_none_iff_forall_ne_some.2 fun entry live =>
        absurd (TypeRegistry.lt_size_of_get? live) below).symm

/-! ### The two endings -/

/-- How a request ends: what it made is published, or what it declared is withdrawn. -/
def settled : Except TypeError Instance × Specializer → Except TypeError Instance × Specializer
  | (.ok made, request) => (.ok made, request.publish)
  | (.error err, request) => (.error err, request.withdraw)

theorem specialize_settled (request : Specializer) (id : TemplateId)
    (arguments : List TemplateArgument) : request.specialize id arguments = settled (outcome
      (specializeWithin (request.context.config.recursionLimit - request.depth) id arguments)
      request) := by
  simp only [Specializer.specialize, outcome]
  rcases (specializeWithin (request.context.config.recursionLimit - request.depth) id
    arguments).run.run request with ⟨_ | _, _⟩ <;> rfl

/-- The request ended with a failure, after a stretch that was then withdrawn. -/
structure Failed (ctx : TypeContext) (id : TemplateId) (arguments : List TemplateArgument)
    (err : TypeError) (state : Specializer) : Prop where
  ran : Specializer.specialize { context := ctx } id arguments = (.error err, state.withdraw)
  steps : outcome (specializeWithin (ctx.config.recursionLimit - depth { context := ctx }) id
    arguments) { context := ctx } = (.error err, state)
  indexed : state.context.Indexed
  growth : ∃ added made, Growth { context := ctx } added made state

/-- The request ended with a result, after a stretch that was then published. -/
structure Succeeded (ctx : TypeContext) (id : TemplateId) (arguments : List TemplateArgument)
    (found : Instance) (state : Specializer) : Prop where
  ran : Specializer.specialize { context := ctx } id arguments = (.ok found, state.publish)
  steps : outcome (specializeWithin (ctx.config.recursionLimit - depth { context := ctx }) id
    arguments) { context := ctx } = (.ok found, state)
  indexed : state.context.Indexed
  growth : ∃ added made, Growth { context := ctx } added made state ∧ Complete state added
  key : ∃ template full, ctx.templates.get? id = some template ∧
    ctx.bind id template arguments = .ok full ∧ state.find? ⟨id, full⟩ = some found

theorem specialize_cases {ctx : TypeContext} (indexed : ctx.Indexed) (id : TemplateId)
    (arguments : List TemplateArgument) :
    (∃ err state, Failed ctx id arguments err state) ∨
      ∃ found state, Succeeded ctx id arguments found state := by
  obtain ⟨⟨indexed', added, made, growth, whole⟩, key⟩ := specializeWithin_grew
    (ctx.config.recursionLimit - depth { context := ctx }) id arguments { context := ctx } indexed
  have ran := specialize_settled { context := ctx } id arguments
  rcases ended : outcome (specializeWithin (ctx.config.recursionLimit - depth { context := ctx })
    id arguments) { context := ctx } with ⟨err | found, state⟩ <;>
    rw [ended] at ran indexed' growth whole
  · exact .inl ⟨err, state, ran, ended, indexed', added, made, growth⟩
  · exact .inr ⟨found, state, ran, ended, indexed', ⟨added, made, growth, whole rfl⟩,
      key found state ended⟩

end Specializer

end FrontEnd
