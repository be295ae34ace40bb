import FrontEnd.Typing.Specialization

/-!
The key of a request. Binding may refuse the arguments, but what it gives depends on nothing else
than the arguments and the defaults of the template.
-/

namespace FrontEnd

/-- The arguments, with the defaults of the parameters that they do not reach. -/
def TemplateDef.fill (template : TemplateDef) (arguments : List TemplateArgument) :
    List TemplateArgument :=
  arguments ++ (template.parameters.drop arguments.length).filterMap (·.default)

namespace TypeContext

variable {ctx : TypeContext} {id : TemplateId} {template : TemplateDef}

theorem bindFrom_cons (arity : TypeError) (param : TemplateParameter)
    (params : List TemplateParameter) (index : Nat) (arguments : List TemplateArgument) :
    ctx.bindFrom id arity index (param :: params) arguments =
      match arguments.head?.or param.default with
      | none => .error arity
      | some argument =>
        if ctx.accepts param.kind argument then
          (ctx.bindFrom id arity (index + 1) params (arguments.drop 1)).map (argument :: ·)
        else .error (.templateArgumentMismatch id index param.kind.sort argument.sort) := by
  have chosen : (arguments.head? <|> param.default) = arguments.head?.or param.default := by
    cases arguments <;> rfl
  simp only [bindFrom, chosen]
  cases arguments.head?.or param.default with
  | none => rfl
  | some argument =>
    dsimp only
    split
    · cases ctx.bindFrom id arity (index + 1) params (arguments.drop 1) <;> rfl
    · rfl

private theorem bindFrom_fill {arity : TypeError} {params : List TemplateParameter} {index : Nat}
    {arguments full : List TemplateArgument} (enough : arguments.length ≤ params.length)
    (bound : ctx.bindFrom id arity index params arguments = .ok full) :
    full = arguments ++ (params.drop arguments.length).filterMap (·.default) := by
  induction params generalizing index arguments full with
  | nil =>
    obtain rfl := List.length_eq_zero_iff.1 (Nat.le_zero.1 enough)
    cases bound
    rfl
  | cons param params ih =>
    rw [bindFrom_cons] at bound
    split at bound
    · cases bound
    · rename_i argument chosen
      split at bound
      · cases others : ctx.bindFrom id arity (index + 1) params (arguments.drop 1) with
        | error err =>
          rw [others] at bound
          cases bound
        | ok rest =>
          have tail := ih (by simp only [List.length_drop, List.length_cons] at enough ⊢; omega)
            others
          rw [others] at bound
          cases bound
          subst tail
          cases arguments with
          | nil =>
            simp only [List.head?_nil, Option.none_or] at chosen
            simp [chosen]
          | cons first arguments =>
            simp only [List.head?_cons, Option.some_or, Option.some.injEq] at chosen
            simp [chosen]
      · cases bound

/-- What arguments are bound to depends on nothing but the pool and the templates. -/
theorem bind_congr {one two : TypeContext} (pool : one.pool = two.pool)
    (templates : one.templates = two.templates) (id : TemplateId) (template : TemplateDef)
    (arguments : List TemplateArgument) :
    one.bind id template arguments = two.bind id template arguments := by
  have accepts : one.accepts = two.accepts := by
    funext kind argument
    simp only [TypeContext.accepts, pool, templates]
  have from_ : ∀ arity index params arguments,
      one.bindFrom id arity index params arguments =
        two.bindFrom id arity index params arguments := by
    intro arity index params
    induction params generalizing index with
    | nil => exact fun _ => rfl
    | cons param rest ih =>
      intro arguments
      simp only [TypeContext.bindFrom, ih, accepts]
  simp only [TypeContext.bind, from_]

/-- Binding gives the arguments with the missing defaults, or refuses them. -/
theorem bind_fill {arguments full : List TemplateArgument}
    (bound : ctx.bind id template arguments = .ok full) : full = template.fill arguments := by
  unfold TypeContext.bind at bound
  dsimp only at bound
  split at bound
  · cases bound
  · rename_i within
    simp only [Bool.or_eq_true, decide_eq_true_eq, not_or, Nat.not_lt] at within
    exact bindFrom_fill within.2 bound

end TypeContext

end FrontEnd
