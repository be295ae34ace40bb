import Mathlib
import FrontEnd.Proofs.Specialization.Behind

/-!
Specialization does not depend on history. A request that succeeds in some tables succeeds in the
same way after any other request there, and its result is the same up to a renaming that keeps what
was there before and leads from each instance to the one under the renamed key. A request that fails
fails in the same way, with one exception: one that runs into the recursion limit, or into itself,
may succeed once some of the instances on its way are known.
-/

namespace FrontEnd

namespace TypeContext

variable {base ctx : TypeContext} {shift : Renaming} {id other : TemplateId}
  {arguments given : List TemplateArgument}

/-- The second tables hold all types, definitions and instances of the first under the new numbers,
and different ones stay different. -/
structure Embeds (shift : Renaming) (one two : TypeContext) : Prop where
  faithful : Faithful one.extent shift
  forms : ∀ ty form, one.pool.form? ty = some form →
    two.pool.form? (shift.types ty) = some (shift.image form)
  defs : ∀ id entry, one.registry.get? id = some entry →
    two.registry.get? (shift.defs id) = some (shift.image entry)
  instances : ∀ (key : SpecializationKey) made, one.instances[key]? = some made →
    two.instances[shift.image key]? = some (shift.image made)

/-! ### Before a request -/

/-- After a request for an instance, the tables are ahead of what they were before. -/
theorem Orderly.ahead_specialize (orderly : base.Orderly) (other : TemplateId)
    (known : Known base.extent given) : Behind .id base (base.specialize other given).2 := by
  have request : Known base.extent (TableRequest.specialize other given) :=
    known_specializeRequest.2 known
  exact orderly.behind.perform orderly request
    (adds_specialize orderly.sound.indexed other given).templates

/-! ### After a request -/

/-- When both requests have succeeded, all that the first made is there in the second. -/
theorem embeds_of_ahead {made made' : Instance} {state state' : Specializer}
    {arguments' : List TemplateArgument} (orderly : base.Orderly)
    (first : Specializer.Succeeded base id arguments made state)
    (second : Specializer.Succeeded ctx id arguments' made' state')
    (adds : Adds base ctx) (agrees : Agrees base.extent .id shift)
    (ahead : Specializer.Ahead shift state state') :
    Embeds shift state.publish.context state'.publish.context := by
  obtain ⟨added, results, growth, whole⟩ := first.growth
  obtain ⟨added', results', growth', -⟩ := second.growth
  refine ⟨ahead.shared.faithful, fun ty form found => (ahead.shared.pool.form ty form found).2,
    fun place entry live => ?_, fun key made kept => ?_⟩
  · by_cases below : place.index < base.registry.defs.size
    · have here := (growth.old place below).symm.trans live
      have stays : shift.defs place = place := (agrees.defs place below).symm
      have there : state'.context.registry.get? place = some entry :=
        (growth'.old place (Nat.lt_of_lt_of_le below adds.size)).trans
          ((adds.old place below).trans here)
      have same : shift.image entry = entry :=
        ((orderly.twin.registry.known place entry here) _ _ agrees).symm.trans
          (Renaming.image_id entry)
      rw [stays, same]
      exact there
    · obtain ⟨stored, live', body⟩ := whole place
        ((growth.fresh place).2 ⟨Nat.le_of_not_lt below, TypeRegistry.lt_size_of_get? live⟩)
      cases (show state.context.registry.get? place = some entry from live).symm.trans live'
      obtain ⟨entry', there, becomes⟩ := ahead.registry.counterpart live'
      rw [becomes.eq_of_whole (Option.isSome_map.trans body)] at there
      exact there
  · rw [Specializer.instances_publish growth rfl] at kept
    rw [Specializer.instances_publish growth' rfl]
    exact (ahead.found key made kept).2.2

/-- A request answers with what its steps come to, and gives out what they gave out. -/
theorem specialize_outcome (indexed : ctx.Indexed) (id : TemplateId)
    (arguments : List TemplateArgument) :
    let ended := outcome (Specializer.specializeWithin
      (ctx.config.recursionLimit - Specializer.depth { context := ctx }) id arguments)
      { context := ctx }
    (ctx.specialize id arguments).1 = ended.1 ∧
      (ctx.specialize id arguments).2.extent = ended.2.context.extent := by
  dsimp only
  rw [specialize_eq]
  rcases Specializer.specialize_cases indexed id arguments with
    ⟨err, state, failed⟩ | ⟨made, state, succeeded⟩
  · obtain ⟨added, results, growth⟩ := failed.growth
    obtain ⟨-, size, -⟩ := Specializer.registry_withdraw growth indexed rfl
    rw [failed.ran, failed.steps]
    exact ⟨rfl, congrArg (Extent.mk state.context.pool.size) size⟩
  · rw [succeeded.ran, succeeded.steps]
    exact ⟨rfl, rfl⟩

/-- A request comes to the same after another one, unless it runs into the recursion limit, or into
itself, without it. -/
theorem Orderly.specialize_after (orderly : base.Orderly) (id other : TemplateId)
    (known : Known base.extent arguments) (known' : Known base.extent given) :
    let fresh := base.specialize id arguments
    let later := (base.specialize other given).2.specialize id arguments
    (∃ err : TypeError, err.IsRunaway ∧ fresh.1 = .error err) ∨
      ∃ shift, Agrees base.extent .id shift ∧ Faithful fresh.2.extent shift ∧
        Known fresh.2.extent fresh.1 ∧ later.1 = shift.image fresh.1 ∧
        (fresh.1.isOk → Embeds shift fresh.2 later.2) := by
  intro fresh later
  have ahead := orderly.ahead_specialize other known'
  have adds := adds_specialize orderly.sound.indexed other given
  have depth : (base.specialize other given).2.config.recursionLimit -
        Specializer.depth { context := (base.specialize other given).2 } =
      base.config.recursionLimit - Specializer.depth { context := base } := by
    rw [adds.config]
    rfl
  obtain ⟨answer, extent⟩ := specialize_outcome orderly.sound.indexed id arguments
  obtain ⟨answer', -⟩ := specialize_outcome ahead.indexed' id arguments
  have carries := Specializer.specializeWithin_carries
    (base.config.recursionLimit - Specializer.depth { context := base }) id ahead known
  rw [Renaming.image_id arguments] at carries
  rw [depth] at answer'
  obtain ⟨err, runaway, failed⟩ | ⟨shift, agrees, -, ahead', inner, same⟩ := carries
  · exact .inl ⟨err, runaway, answer.trans failed⟩
  refine .inr ⟨shift, agrees, ?_, ?_, ?_, fun succeeds => ?_⟩
  · exact (congrArg (Faithful · shift) extent).mpr ahead'.shared.faithful
  · exact (congrArg₂ Known extent answer).mpr inner
  · exact answer'.trans (same.trans (congrArg shift.image answer).symm)
  · rcases Specializer.specialize_cases orderly.sound.indexed id arguments with
      ⟨err, state, failed⟩ | ⟨made, state, first⟩
    · rw [show fresh.1 = .error err from congrArg Prod.fst failed.ran] at succeeds
      cases succeeds
    rw [first.steps] at same ahead'
    rcases Specializer.specialize_cases ahead.indexed' id arguments with
      ⟨err, state', failed⟩ | ⟨made', state', second⟩
    · have steps := failed.steps
      rw [depth] at steps
      rw [steps] at same
      cases same
    have steps := second.steps
    rw [depth] at steps
    rw [steps] at ahead'
    have embeds := embeds_of_ahead orderly first second adds agrees ahead'
    rwa [show state.publish.context = fresh.2 from congrArg (·.2.context) first.ran.symm,
      show state'.publish.context = later.2 from congrArg (·.2.context) second.ran.symm] at embeds

/-- Specialization does not depend on history, whatever the templates and the recursion limit are.
A request that succeeds in some tables succeeds after any other request there too, with the same
result up to a renaming that fixes what was there before and takes every definition and every
instance to the one under the renamed key. If it succeeds after the other request, it succeeds
without it as well, or is refused there because of the recursion limit. All other failures are the
same. -/
theorem specialization_independent (config : TypeConfig) (history : List TableRequest)
    (inside : ({ config } : TypeContext).Scoped history) (id other : TemplateId)
    (arguments given : List TemplateArgument)
    (known : Known (({ config } : TypeContext).after history).extent arguments)
    (known' : Known (({ config } : TypeContext).after history).extent given) :
    let base := ({ config } : TypeContext).after history
    let fresh := base.specialize id arguments
    let later := (base.specialize other given).2.specialize id arguments
    (∀ made, fresh.1 = .ok made → ∃ shift, Agrees base.extent .id shift ∧
      Known fresh.2.extent made ∧ later.1 = .ok (shift.image made) ∧
      Embeds shift fresh.2 later.2) ∧
    (∀ made', later.1 = .ok made' → (∃ made, fresh.1 = .ok made) ∨
      ∃ limit chain, fresh.1 = .error (.recursionLimitExceeded limit chain)) ∧
    (∀ err, fresh.1 = .error err → (∃ limit chain, err = .recursionLimitExceeded limit chain) ∨
      ∃ shift, Agrees base.extent .id shift ∧ Faithful fresh.2.extent shift ∧
        Known fresh.2.extent err ∧ later.1 = .error (shift.image err)) := by
  intro base fresh later
  have leads : Leads { config } base := ⟨history, inside, rfl⟩
  have orderly := (leads.orderly (orderly_initial config)).1
  have after := orderly.specialize_after id other known known'
  change (∃ err : TypeError, err.IsRunaway ∧ fresh.1 = .error err) ∨
    ∃ shift, Agrees base.extent .id shift ∧ Faithful fresh.2.extent shift ∧
      Known fresh.2.extent fresh.1 ∧ later.1 = shift.image fresh.1 ∧
      (fresh.1.isOk → Embeds shift fresh.2 later.2) at after
  clear_value fresh later
  obtain ⟨err, ⟨limit, chain, rfl⟩, failed⟩ | ⟨shift, agrees, faithful, inner, same, embeds⟩ := after
  · refine ⟨fun made succeeded => ?_, fun made' _ => .inr ⟨limit, chain, failed⟩,
      fun err failed' => .inl ⟨limit, chain, ?_⟩⟩
    · cases failed.symm.trans succeeded
    · cases failed.symm.trans failed'
      rfl
  · refine ⟨fun made succeeded => ?_, fun made' succeeded => .inl ?_, fun err failed => .inr ?_⟩
    · rw [succeeded] at inner same embeds
      exact ⟨shift, agrees, known_ok.1 inner, same, embeds rfl⟩
    · rw [succeeded] at same
      cases ended : fresh.1 with
      | error err =>
        rw [ended] at same
        cases same
      | ok made => exact ⟨made, rfl⟩
    · rw [failed] at inner same
      exact ⟨shift, agrees, faithful, known_error.1 inner, same⟩

/-- A structure with a field of another structure, which points to itself. Requested alone, the outer
one is declared first; after the inner one, it is declared second. -/
theorem specialization_independent_of_inner :
    let base := ({} : TypeContext).after
      [.register ⟨.empty, [], .struct [⟨.empty, .pointer (.apply ⟨0⟩ [])⟩]⟩,
        .register ⟨.empty, [], .struct [⟨.empty, .apply ⟨0⟩ []⟩]⟩]
    let fresh := base.specialize ⟨1⟩ []
    let later := (base.specialize ⟨0⟩ []).2.specialize ⟨1⟩ []
    fresh.1 = .ok (.type ⟨13⟩) ∧ ∃ shift, Agrees base.extent .id shift ∧
      later.1 = .ok (.type (shift.types ⟨13⟩)) ∧ Embeds shift fresh.2 later.2 := by
  intro base fresh later
  have succeeded : fresh.1 = .ok (.type ⟨13⟩) := by cbv
  have inside : ({} : TypeContext).Scoped
      [.register ⟨.empty, [], .struct [⟨.empty, .pointer (.apply ⟨0⟩ [])⟩]⟩,
        .register ⟨.empty, [], .struct [⟨.empty, .apply ⟨0⟩ []⟩]⟩] :=
    ⟨fun _ _ _ => rfl, fun _ _ _ => rfl, trivial⟩
  obtain ⟨alike, -⟩ :=
    specialization_independent {} _ inside ⟨1⟩ ⟨0⟩ [] [] known_nil known_nil
  obtain ⟨shift, agrees, -, same, embeds⟩ := alike _ succeeded
  exact ⟨succeeded, shift, agrees, same, embeds⟩

/-- With a recursion limit of one, a template that applies another one is beyond the limit, but not
when the instance of the other one is there already. -/
theorem specialization_dependent_at_limit :
    let base := ({ config := { recursionLimit := 1 } } : TypeContext).after
      [.register ⟨.empty, [], .synonym (.concrete .bool)⟩,
        .register ⟨.empty, [], .synonym (.apply ⟨0⟩ [])⟩]
    let fresh := base.specialize ⟨1⟩ []
    let later := (base.specialize ⟨0⟩ []).2.specialize ⟨1⟩ []
    fresh.1 = .error (.recursionLimitExceeded 1 [⟨⟨1⟩, []⟩, ⟨⟨0⟩, []⟩]) ∧
      later.1 = .ok (.type .bool) ∧ ¬ (later.1.isOk ↔ fresh.1.isOk) := by
  intro base fresh later
  have failed : fresh.1 = .error (.recursionLimitExceeded 1 [⟨⟨1⟩, []⟩, ⟨⟨0⟩, []⟩]) := by cbv
  have succeeded : later.1 = .ok (.type .bool) := by cbv
  refine ⟨failed, succeeded, ?_⟩
  rw [failed, succeeded]
  decide

/-- A synonym that comes back to itself through a structure is refused. Once the structure is there,
which finds itself on the way, the synonym is found there too. -/
example :
    let base := ({} : TypeContext).after
      [.register ⟨.empty, [], .struct [⟨.empty, .apply ⟨1⟩ []⟩]⟩,
        .register ⟨.empty, [], .synonym (.pointer (.apply ⟨0⟩ []))⟩]
    (base.specialize ⟨1⟩ []).1 =
        .error (.recursionLimitExceeded 256 [⟨⟨1⟩, []⟩, ⟨⟨0⟩, []⟩, ⟨⟨1⟩, []⟩]) ∧
      ((base.specialize ⟨0⟩ []).2.specialize ⟨1⟩ []).1 = .ok (.type ⟨14⟩) :=
  ⟨by cbv, by cbv⟩

end TypeContext

end FrontEnd
