import FrontEnd.Proofs.Declaration.Instance
import FrontEnd.Proofs.Declaration.Pass

/-!
The class templates of a module. What the pass registers for a class is followed to the instances
that are made of it later, whatever was requested of the tables in between.
-/

namespace FrontEnd

open TypeContext (Leads)

namespace ModuleSource

variable {source : ModuleSource} {definition : Definition} {earlier later : List Definition}
  {types : TypeContext} {state : Declaring}

/-! ### The course of the pass -/

theorem fit_initial {config : TypeConfig} (reached : Leads { config } types)
    (imports : ∀ exports ∈ source.imports, exports.Inside types.extent) (queue : DiagnosticQueue) :
    source.Fit { types, queue } := by
  refine ⟨(reached.orderly (TypeContext.orderly_initial config)).1, fun exports member => ?_⟩
  rcases List.mem_cons.1 member with rfl | member
  · intro name ty found
    simp at found
  · exact imports exports member

/-- A class template without any parts gives a type for all arguments that it takes. -/
theorem specializeType_empty {ctx : TypeContext} {id : TemplateId} {name : Name}
    {parameters : List TemplateParameter} {arguments full : List TemplateArgument}
    (room : 0 < ctx.config.recursionLimit)
    (registered : ctx.templates.get? id = some ⟨name, parameters, .classType none [] []⟩)
    (bound : ctx.bind id ⟨name, parameters, .classType none [] []⟩ arguments = .ok full)
    (absent : Specializer.find? { context := ctx } ⟨id, full⟩ = none) :
    ∃ ty, (ctx.specializeType id arguments).1 = .ok ty := by
  obtain ⟨budget, limit⟩ := Nat.exists_eq_add_one_of_ne_zero (Nat.ne_of_gt room)
  obtain ⟨entry, context, declared, reserved⟩ := Specializer.outcome_reserve name .classType
    ⟨id, full⟩ { context := ctx }
  obtain ⟨bare, live, -⟩ :=
    Specializer.growth_reserved absent List.not_mem_nil registered rfl declared
  obtain ⟨registry, defined⟩ : ∃ registry, context.registry.define entry.id {} = .ok registry :=
    TypeRegistry.define_bare live bare
  let middle : Specializer :=
    { context, declared := [entry.id], pending := [(⟨id, full⟩, .type entry.type)] }
  have body : outcome (Specializer.nested ⟨id, full⟩ (Specializer.evalBody ⟨id, full⟩
      (Specializer.applyWithin budget) (.classType none [] []))) middle = (.ok {}, middle) := rfl
  have complete := Specializer.outcome_complete entry.id {} middle
  simp only [middle, defined] at complete
  have steps := Specializer.outcome_specializeWithin (budget + 1) id arguments { context := ctx }
  simp only [registered, bound, absent] at steps
  rw [if_neg List.not_mem_nil] at steps
  have made : outcome (Specializer.make ⟨id, full⟩ ⟨name, parameters, .classType none [] []⟩
      (Specializer.applyWithin budget)) { context := ctx } =
        (.ok (.type entry.type), { middle with context := { context with registry } }) :=
    (outcome_bind_ok reserved).trans ((outcome_bind_ok (Specializer.outcome_remember _ _ _)).trans
      ((outcome_bind_ok body).trans (outcome_bind_ok complete)))
  have settled := Specializer.specialize_settled { context := ctx } id arguments
  rw [show ctx.config.recursionLimit - Specializer.depth { context := ctx } = budget + 1 from limit,
    steps, made] at settled
  refine ⟨entry.type, ?_⟩
  unfold TypeContext.specializeType TypeContext.specialize
  rw [settled]
  rfl

end ModuleSource

end FrontEnd
