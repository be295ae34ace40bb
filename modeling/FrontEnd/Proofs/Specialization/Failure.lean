import FrontEnd.Proofs.Renaming.History
import FrontEnd.Proofs.Specialization.Cache

/-!
Failed requests leave no trace. However deep inside a request the failure arose, the tables keep
their instances, definitions, names, templates and layouts; only the pool may hold more types and
the next definition gets a later id. So whatever is requested afterwards is answered as if the
failed request had never been made, up to the numbers that are given out.
-/

namespace FrontEnd

namespace TypeContext

variable {ctx : TypeContext} {id : TemplateId} {arguments : List TemplateArgument} {err : TypeError}
  {state : Specializer}

/-- A request that fails leaves the tables the same but for types in the pool and ids. -/
theorem twin_failed (indexed : ctx.Indexed) (twin : Twin .id ctx ctx)
    (failed : Specializer.Failed ctx id arguments err state) :
    Twin .id ctx state.withdraw.context := by
  obtain ⟨added, made, growth⟩ := failed.growth
  obtain ⟨names, size, found⟩ := Specializer.registry_withdraw growth indexed rfl
  exact twin.more growth.config failed.indexed.pool growth.pool
    (Nat.le_trans growth.size (Nat.le_of_eq size.symm)) found names growth.templates
    growth.instances growth.layouts

/-- After a request that fails, at whatever depth, the instances, the definitions and their names,
the templates and the layouts are exactly what they were, and no request is in progress. Every
history of requests that mention only what was given out to them is then answered as it would have
been without the failed request, up to a renaming of types and definitions that fixes those given
out before; and the tables at its end hold the same under that renaming. -/
theorem failed_specialization (config : TypeConfig) (history : List TableRequest)
    (id : TemplateId) (arguments : List TemplateArgument) (err : TypeError)
    (failed : (Specializer.specialize { context := ({ config } : TypeContext).after history }
      id arguments).1 = .error err) :
    let before := ({ config } : TypeContext).after history
    let state := (Specializer.specialize { context := before } id arguments).2
    let after := state.context
    (state.chain = [] ∧ state.pending = [] ∧ state.declared = []) ∧
    (after.config = before.config ∧ after.instances = before.instances ∧
      (∀ id, after.registry.get? id = before.registry.get? id) ∧
      after.registry.names = before.registry.names ∧ after.templates = before.templates ∧
      after.layouts = before.layouts ∧ TypePool.Kept before.pool after.pool) ∧
    (({ config } : TypeContext).Scoped history → ∀ later, before.Scoped later →
      ∃ shift, Agrees before.extent .id shift ∧
        (after.run (shift.image later)).1 = shift.image (before.run later).1 ∧
        Twin shift (before.after later) (after.after (shift.image later))) := by
  intro before state after
  have sound : CacheSound before := (after_sound (cacheSound_initial config) history).1
  have indexed := sound.indexed
  rcases Specializer.specialize_cases indexed id arguments with
    ⟨cause, last, ended⟩ | ⟨made, last, ended⟩
  · have ran : state = last.withdraw := congrArg Prod.snd ended.ran
    have restored : after = last.withdraw.context := congrArg Specializer.context ran
    obtain ⟨added, results, growth⟩ := ended.growth
    obtain ⟨names, size, found⟩ := Specializer.registry_withdraw growth indexed rfl
    refine ⟨ran ▸ ⟨growth.chain, rfl, rfl⟩, restored ▸ ⟨growth.config, growth.instances, found,
      names, growth.templates, growth.layouts, growth.pool⟩, fun inside later inside' => ?_⟩
    obtain ⟨first, -, started, -⟩ := (twin_initial config).run inside
    obtain ⟨shift, agrees, twin, answers⟩ :=
      (twin_failed indexed started.self ended).run inside'
    rw [restored]
    exact ⟨shift, agrees, answers, twin⟩
  · rw [ended.ran] at failed
    cases failed

/-- A structure whose only field has a parameter for its type that the template does not have: its
definition is reserved before the field fails. -/
theorem failed_specialization_of_field :
    let template : TemplateDef := ⟨.empty, [], .struct [⟨.empty, .param 0⟩]⟩
    let before := ({} : TypeContext).after [.register template]
    let ran := Specializer.specialize { context := before } ⟨0⟩ []
    ran.1 = .error (.badParamReference ⟨0⟩ 0 .type) ∧ ran.2.chain = [] ∧
      (∀ id, ran.2.context.registry.get? id = before.registry.get? id) ∧
      ∃ shift, Agrees before.extent .id shift ∧
        (ran.2.context.run (shift.image [.declare none .struct none])).1 =
          shift.image (before.run [.declare none .struct none]).1 := by
  intro template before ran
  have registered : before.templates.get? ⟨0⟩ = some template := rfl
  have bound : before.bind ⟨0⟩ template [] = .ok [] := rfl
  have absent : Specializer.find? { context := before } ⟨⟨0⟩, []⟩ = none := by
    change ({} : Std.HashMap SpecializationKey Instance)[_]? = none
    simp
  have steps := Specializer.outcome_specializeWithin 256 ⟨0⟩ [] { context := before }
  simp only [registered, bound, absent] at steps
  rw [if_neg List.not_mem_nil] at steps
  obtain ⟨entry, context, -, reserved⟩ := Specializer.outcome_reserve .empty .struct ⟨⟨0⟩, []⟩
    { context := before }
  obtain ⟨last, field⟩ : ∃ last, outcome
      (Specializer.make ⟨⟨0⟩, []⟩ template (Specializer.applyWithin 255)) { context := before } =
        (.error (.badParamReference ⟨0⟩ 0 .type), last) := by
    refine ⟨{ context, declared := [entry.id], pending := [(⟨⟨0⟩, []⟩, .type entry.type)] }, ?_⟩
    exact (outcome_bind_ok reserved).trans
      ((outcome_bind_ok (Specializer.outcome_remember _ _ _)).trans (outcome_bind_error rfl))
  have failed : ran.1 = .error (.badParamReference ⟨0⟩ 0 .type) := by
    have settled := Specializer.specialize_settled { context := before } ⟨0⟩ []
    rw [show before.config.recursionLimit - Specializer.depth { context := before } = 256 from rfl,
      steps, field] at settled
    exact congrArg Prod.fst settled
  obtain ⟨idle, same, later⟩ := failed_specialization {} [.register template] ⟨0⟩ [] _ failed
  have inside : ({} : TypeContext).Scoped [.register template] :=
    ⟨fun _ _ _ => rfl, trivial⟩
  obtain ⟨shift, agrees, answers, -⟩ := later inside [.declare none .struct none]
    ⟨fun _ _ _ => rfl, trivial⟩
  exact ⟨failed, idle.1, same.2.2.1, shift, agrees, answers⟩

end TypeContext

end FrontEnd
