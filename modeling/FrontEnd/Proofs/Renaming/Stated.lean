import FrontEnd.Proofs.Renaming.Template
import FrontEnd.Proofs.Specialization.Upkeep

/-!
What is stated and what is known. An argument, or the body of a template, mentions no types but those
that it states, so that it is known exactly if they are.
-/

namespace FrontEnd

variable {extent : Extent}

/-- The types that a form is built from are known if it is. -/
theorem known_parts {form : TypeForm} (known : Known extent form) :
    ∀ part ∈ form.children, Known extent part := by
  cases form with
  | pointer target => exact List.forall_mem_singleton.2 (known_pointer.1 known)
  | array element length => exact List.forall_mem_singleton.2 (known_array.1 known)
  | slice element => exact List.forall_mem_singleton.2 (known_slice.1 known)
  | qualified base quals => exact List.forall_mem_singleton.2 (known_qualified.1 known)
  | function parameters result variadic =>
    obtain ⟨all, last⟩ := known_function.1 known
    exact List.forall_mem_cons.2 ⟨last, known_list.1 all⟩
  | _ => exact List.forall_mem_nil _

theorem known_stated {argument : TemplateArgument} :
    Known extent argument ↔ ∀ ty ∈ argument.stated, Known extent ty := by
  cases argument <;> simp [TemplateArgument.stated]

theorem known_allStated {arguments : List TemplateArgument} :
    Known extent arguments ↔ ∀ ty ∈ arguments.flatMap TemplateArgument.stated, Known extent ty := by
  simp only [known_list, known_stated, List.mem_flatMap]
  exact ⟨fun all ty ⟨argument, listed, member⟩ => all argument listed ty member,
    fun all argument listed ty member => all ty ⟨argument, listed, member⟩⟩

mutual

theorem known_exprStated : (expr : TypeExpr) →
    (Known extent expr ↔ ∀ ty ∈ expr.stated, Known extent ty)
  | .concrete ty => by rw [known_concrete, TypeExpr.stated, List.forall_mem_singleton]
  | .param index => iff_of_true (fun _ _ _ => rfl) (List.forall_mem_nil _)
  | .pointer target => known_pointerExpr.trans (known_exprStated target)
  | .array element _ => known_arrayExpr.trans (known_exprStated element)
  | .arrayOfParam element _ => known_arrayOfParam.trans (known_exprStated element)
  | .slice element => known_sliceExpr.trans (known_exprStated element)
  | .qualified base _ => known_qualifiedExpr.trans (known_exprStated base)
  | .function parameters result _ => by
    rw [known_functionExpr, TypeExpr.stated, List.forall_mem_append, known_exprsStated parameters,
      known_exprStated result]
  | .apply _ arguments => known_apply.trans (known_argExprsStated arguments)
  | .applyParam _ arguments => known_applyParam.trans (known_argExprsStated arguments)

theorem known_exprsStated : (exprs : List TypeExpr) →
    (Known extent exprs ↔ ∀ ty ∈ TypeExpr.statedAll exprs, Known extent ty)
  | [] => iff_of_true known_nil (List.forall_mem_nil _)
  | expr :: rest => by
    rw [known_cons, TypeExpr.statedAll, List.forall_mem_append, known_exprStated expr,
      known_exprsStated rest]

theorem known_argExprStated : (argument : ArgExpr) →
    (Known extent argument ↔ ∀ ty ∈ argument.stated, Known extent ty)
  | .type expr => known_typeExprArgument.trans (known_exprStated expr)
  | .value _ | .template _ | .param _ => iff_of_true (fun _ _ _ => rfl) (List.forall_mem_nil _)

theorem known_argExprsStated : (arguments : List ArgExpr) →
    (Known extent arguments ↔ ∀ ty ∈ ArgExpr.statedAll arguments, Known extent ty)
  | [] => iff_of_true known_nil (List.forall_mem_nil _)
  | argument :: rest => by
    rw [known_cons, ArgExpr.statedAll, List.forall_mem_append, known_argExprStated argument,
      known_argExprsStated rest]

end

theorem known_fieldsStated {fields : List FieldExpr} :
    Known extent fields ↔ ∀ ty ∈ fields.flatMap FieldExpr.stated, Known extent ty := by
  induction fields with
  | nil => exact iff_of_true known_nil (List.forall_mem_nil _)
  | cons field rest ih =>
    rw [known_cons, known_field, known_exprStated, ih, List.flatMap_cons, List.forall_mem_append]
    rfl

theorem known_methodsStated {methods : List MethodExpr} :
    Known extent methods ↔ ∀ ty ∈ methods.flatMap MethodExpr.stated, Known extent ty := by
  induction methods with
  | nil => exact iff_of_true known_nil (List.forall_mem_nil _)
  | cons method rest ih =>
    rw [known_cons, known_methodExpr, known_exprsStated, known_exprStated, ih, List.flatMap_cons,
      List.forall_mem_append, MethodExpr.stated, List.forall_mem_append]

/-- The body of a template mentions no types but those that it states. -/
theorem known_bodyStated {body : TemplateBody} :
    Known extent body ↔ ∀ ty ∈ body.stated, Known extent ty := by
  cases body with
  | struct fields => exact known_structBody.trans known_fieldsStated
  | union fields => exact known_unionBody.trans known_fieldsStated
  | synonym target => exact known_synonymBody.trans (known_exprStated target)
  | function parameters result variadic =>
    rw [known_functionBody, TemplateBody.stated, List.forall_mem_append, known_exprsStated,
      known_exprStated]
  | classType base fields methods =>
    have above : Known extent base ↔ ∀ ty ∈ (base.map TypeExpr.stated).getD [], Known extent ty := by
      cases base with
      | none => exact iff_of_true known_none (List.forall_mem_nil _)
      | some base => exact known_some.trans (known_exprStated base)
    rw [known_classBody, above, known_fieldsStated, known_methodsStated, TemplateBody.stated,
      List.forall_mem_append, List.forall_mem_append, and_assoc]

/-- The types that a template states are known if it is. -/
theorem known_of_templateStated {template : TemplateDef} (known : Known extent template) :
    ∀ ty ∈ template.stated, Known extent ty := by
  obtain ⟨parameters, body⟩ := known_templateDef.1 known
  refine List.forall_mem_append.2 ⟨?_, known_bodyStated.1 body⟩
  refine known_allStated.1 (known_list.2 fun argument default => ?_)
  obtain ⟨param, listed, has⟩ := List.mem_filterMap.1 default
  exact known_some.1 (has ▸ (known_parameter.1 (known_list.1 parameters param listed)).2)

end FrontEnd
