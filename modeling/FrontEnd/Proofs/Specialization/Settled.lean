import FrontEnd.Proofs.Specialization.Tables

/-!
Settled instances. Between requests, every instance is all that its template denotes under its key,
and what an expression denotes is already in the tables. So evaluating it once more adds nothing and
gives the same: a request may stand still where another, which knows less, has to make an instance.
-/

namespace FrontEnd

namespace Specializer

variable {before after state : Specializer} {key : SpecializationKey}

/-- The instance is all that its template denotes, and nothing of it is in progress. -/
def Settled (state : Specializer) (key : SpecializationKey) (made : Instance) : Prop :=
  ∃ template, state.context.templates.get? key.template = some template ∧
    (DenotesInstance state key template.body made ∨
      ∃ id entry body, state.context.registry.get? id = some entry ∧ made = .type entry.type ∧
        entry.InstanceOf key template ∧ entry.body = some body ∧
        DenotesBody state key template.body body)

/-- An instance stays settled while no definition changes that has a body. -/
theorem Settled.onward (onward : Onward before after)
    (whole : ∀ id entry, before.context.registry.get? id = some entry → entry.body.isSome →
      after.context.registry.get? id = some entry) {made : Instance}
    (settled : before.Settled key made) : after.Settled key made := by
  obtain ⟨template, registered, plain | ⟨id, entry, body, live, same, shape, given, denotes⟩⟩ :=
    settled
  · exact ⟨template, onward.templates _ _ registered, .inl (plain.onward onward)⟩
  · exact ⟨template, onward.templates _ _ registered, .inr ⟨id, entry, body,
      whole id entry live (by rw [given]; rfl), same, shape, given, denotes.onward onward⟩⟩

/-! ### Evaluating once more -/

theorem outcome_intern_of_form? {form : TypeForm} {ty : TypeId} (pool : state.context.pool.Exact)
    (found : state.context.pool.form? ty = some form) :
    outcome (intern form) state = (.ok ty, state) := by
  rw [outcome_intern, TypeContext.intern, TypePool.intern_of_form? pool found]

theorem outcome_qualified_of_qualifies {base ty : TypeId} {quals : Qualifiers}
    (qualifies : state.context.pool.Qualifies base quals ty) :
    outcome (qualified base quals) state = (.ok ty, state) := by
  rw [outcome_qualified, TypeContext.qualified, qualifies.2]

theorem outcome_applyWithin_of_gives {id : TemplateId} {arguments : List TemplateArgument}
    {ty : TypeId} (gives : state.Gives id arguments ty) (budget : Nat) :
    outcome (applyWithin budget id arguments) state = (.ok ty, state) := by
  obtain ⟨template, full, registered, bound, found⟩ := gives
  have ran := outcome_specializeWithin budget id arguments state
  simp only [registered, bound, found] at ran
  rw [outcome_applyWithin, ran]
  rfl

mutual

/-- Evaluating an expression gives what it denotes, and adds nothing. -/
theorem outcome_eval_of_denotes (pool : state.context.pool.Exact) (budget : Nat) :
    {expr : TypeExpr} → {ty : TypeId} → Denotes state key expr ty →
    outcome (eval key (applyWithin budget) expr) state = (.ok ty, state)
  | .concrete own, _, denotes => by
    cases denotes
    rw [eval]
    rfl
  | .param index, ty, denotes => by
    rw [eval, outcome_lift]
    exact congrArg (·, state) denotes
  | .pointer target, ty, ⟨inner, part, form⟩ => by
    rw [eval, outcome_bind_ok (outcome_eval_of_denotes pool budget part)]
    exact outcome_intern_of_form? pool form
  | .array element length, ty, ⟨inner, part, form⟩ => by
    rw [eval, outcome_bind_ok (outcome_eval_of_denotes pool budget part)]
    exact outcome_intern_of_form? pool form
  | .arrayOfParam element index, ty, ⟨inner, length, given, part, form⟩ => by
    rw [eval, given, lift_ok, pure_bind, outcome_bind_ok (outcome_eval_of_denotes pool budget part)]
    exact outcome_intern_of_form? pool form
  | .slice element, ty, ⟨inner, part, form⟩ => by
    rw [eval, outcome_bind_ok (outcome_eval_of_denotes pool budget part)]
    exact outcome_intern_of_form? pool form
  | .qualified base quals, ty, ⟨inner, part, qualifies⟩ => by
    rw [eval, outcome_bind_ok (outcome_eval_of_denotes pool budget part)]
    exact outcome_qualified_of_qualifies qualifies
  | .function parameters result variadic, ty, ⟨types, inner, parts, part, form⟩ => by
    rw [eval, outcome_bind_ok (outcome_evalAll_of_denotes pool budget parts),
      outcome_bind_ok (outcome_eval_of_denotes pool budget part)]
    exact outcome_intern_of_form? pool form
  | .apply id arguments, ty, ⟨given, parts, gives⟩ => by
    rw [eval, outcome_bind_ok (outcome_evalArguments_of_denotes pool budget parts)]
    exact outcome_applyWithin_of_gives gives budget
  | .applyParam index arguments, ty, ⟨id, given, own, parts, gives⟩ => by
    rw [eval, own, lift_ok, pure_bind,
      outcome_bind_ok (outcome_evalArguments_of_denotes pool budget parts)]
    exact outcome_applyWithin_of_gives gives budget

theorem outcome_evalAll_of_denotes (pool : state.context.pool.Exact) (budget : Nat) :
    {exprs : List TypeExpr} → {types : List TypeId} → DenotesAll state key exprs types →
    outcome (evalAll key (applyWithin budget) exprs) state = (.ok types, state)
  | [], [], _ => by
    rw [evalAll]
    rfl
  | expr :: rest, ty :: types, ⟨part, parts⟩ => by
    rw [evalAll, outcome_bind_ok (outcome_eval_of_denotes pool budget part),
      outcome_bind_ok (outcome_evalAll_of_denotes pool budget parts)]
    rfl
  | [], _ :: _, denotes => denotes.elim
  | _ :: _, [], denotes => denotes.elim

theorem outcome_evalArgument_of_denotes (pool : state.context.pool.Exact) (budget : Nat) :
    {argument : ArgExpr} → {given : TemplateArgument} → DenotesArgument state key argument given →
    outcome (evalArgument key (applyWithin budget) argument) state = (.ok given, state)
  | .type expr, _, ⟨ty, same, part⟩ => by
    rw [evalArgument, outcome_bind_ok (outcome_eval_of_denotes pool budget part), same]
    rfl
  | .value value, _, same => by
    cases same
    rw [evalArgument]
    rfl
  | .template id, _, same => by
    cases same
    rw [evalArgument]
    rfl
  | .param index, _, own => by
    rw [evalArgument, outcome_lift]
    exact congrArg (·, state) own

theorem outcome_evalArguments_of_denotes (pool : state.context.pool.Exact) (budget : Nat) :
    {arguments : List ArgExpr} → {given : List TemplateArgument} →
    DenotesArguments state key arguments given →
    outcome (evalArguments key (applyWithin budget) arguments) state = (.ok given, state)
  | [], [], _ => by
    rw [evalArguments]
    rfl
  | argument :: rest, given :: others, ⟨part, parts⟩ => by
    rw [evalArguments, outcome_bind_ok (outcome_evalArgument_of_denotes pool budget part),
      outcome_bind_ok (outcome_evalArguments_of_denotes pool budget parts)]
    rfl
  | [], _ :: _, denotes => denotes.elim
  | _ :: _, [], denotes => denotes.elim

end

theorem outcome_evalFields_of_denotes (pool : state.context.pool.Exact) (budget : Nat)
    {fields : List FieldExpr} {members : List Member}
    (denotes : List.Forall₂ (DenotesMember state key) fields members) :
    outcome (evalFields key (applyWithin budget) fields) state = (.ok members, state) := by
  induction denotes with
  | nil => rfl
  | cons part _ ih =>
    rw [evalFields, outcome_bind_ok (outcome_eval_of_denotes pool budget part.2),
      outcome_bind_ok ih, ← part.1]
    rfl

theorem outcome_evalMethods_of_denotes (pool : state.context.pool.Exact) (budget : Nat)
    {methods : List MethodExpr} {made : List Method}
    (denotes : List.Forall₂ (DenotesMethod state key) methods made) :
    outcome (evalMethods key (applyWithin budget) methods) state = (.ok made, state) := by
  induction denotes with
  | nil => rfl
  | cons part _ ih =>
    obtain ⟨types, result, parts, returned, form, same⟩ := part
    rw [evalMethods, outcome_bind_ok (outcome_evalAll_of_denotes pool budget parts),
      outcome_bind_ok (outcome_eval_of_denotes pool budget returned),
      outcome_bind_ok (outcome_intern_of_form? pool form), outcome_bind_ok ih, ← same]
    rfl

/-- Evaluating the body of a template gives what it denotes, and adds nothing. -/
theorem outcome_evalBody_of_denotes (pool : state.context.pool.Exact) (budget : Nat)
    {template : TemplateBody} {body : DefBody}
    (denotes : DenotesBody state key template body) :
    outcome (evalBody key (applyWithin budget) template) state = (.ok body, state) := by
  cases template with
  | struct fields | union fields =>
    obtain ⟨members, rfl, parts⟩ := denotes
    exact outcome_bind_ok (outcome_evalFields_of_denotes pool budget parts)
  | classType base fields methods =>
    obtain ⟨members, parent, made, rfl, parts, related, callable⟩ := denotes
    refine (outcome_bind_ok (outcome_evalFields_of_denotes pool budget parts)).trans ?_
    have finish := outcome_evalMethods_of_denotes pool budget callable
    cases related with
    | none => exact outcome_bind_ok finish
    | some part =>
      rename_i base parent
      have ran : outcome (some <$> eval key (applyWithin budget) base) state =
          (.ok (some parent), state) := by
        rw [map_eq_pure_bind, outcome_bind_ok (outcome_eval_of_denotes pool budget part)]
        rfl
      exact (outcome_bind_ok ran).trans (outcome_bind_ok finish)
  | synonym target =>
    cases denotes
    rfl
  | function parameters result variadic =>
    cases denotes
    rfl

end Specializer

namespace TypeContext

open Specializer (Settled)

/-- After a request that succeeds, each instance was kept before it or is settled. -/
theorem Orderly.settled_publish {ctx : TypeContext} {id : TemplateId}
    {arguments : List TemplateArgument} {found : Instance} {state : Specializer}
    (orderly : ctx.Orderly) (known : Known ctx.extent arguments)
    (succeeded : Specializer.Succeeded ctx id arguments found state) (key : SpecializationKey)
    (made : Instance) (kept : state.publish.context.instances[key]? = some made) :
    ctx.instances[key]? = some made ∨ Settled { context := state.publish.context } key made := by
  obtain ⟨added, results, growth, -⟩ := succeeded.growth
  have ran : (ctx.specialize id arguments).2 = state.publish.context := by
    rw [specialize_eq, succeeded.ran]
  obtain ⟨orderly', -⟩ := orderly.perform (known_specializeRequest.2 known : Known ctx.extent
    (TableRequest.specialize id arguments))
  rw [show (ctx.perform (.specialize id arguments)).2 = state.publish.context from ran] at orderly'
  obtain ⟨template, registered, nominal⟩ := orderly'.sound.cached key made kept
  cases kind : template.body.defKind? with
  | some kind =>
    obtain ⟨place, entry, live, same, shape, -⟩ := nominal (by rw [kind]; rfl)
    obtain ⟨own, template', body, carries, registered', given, denotes⟩ :=
      orderly'.meant place entry live (by rw [shape.specialization]; rfl)
    cases shape.specialization.symm.trans carries
    cases registered.symm.trans registered'
    exact .inr ⟨template, registered, .inr ⟨place, entry, body, live, same, shape, given, denotes⟩⟩
  | none =>
    obtain ⟨step, -⟩ := Specializer.specializeWithin_means _ id arguments _ found state
      orderly.state known succeeded.steps
    have kept' := (Specializer.instances_publish growth rfl key).symm.trans kept
    refine (step.results key made kept').imp_right fun explained => ?_
    obtain ⟨template', registered', denotes⟩ := explained
    cases (show state.context.templates.get? key.template = some template from
      registered).symm.trans registered'
    have onward : Specializer.Onward state { context := state.publish.context } :=
      Specializer.onward_of_same step.orderly rfl rfl fun other result found =>
        (Specializer.instances_publish growth rfl other).trans found
    exact ⟨template, registered, .inl ((denotes kind).onward onward)⟩

end TypeContext

end FrontEnd
