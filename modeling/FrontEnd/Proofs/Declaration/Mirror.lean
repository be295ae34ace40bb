import FrontEnd.Declaration.Template
import FrontEnd.Proofs.Declaration.Parallel

/-!
Bodies of templates in scopes that mirror each other. Where every name means the same in two scopes,
under new numbers for types, a spelling is translated to the same expression in both, or has the same
error. So a body is the same in both, and the same errors are found in it.
-/

namespace FrontEnd

variable {shift : Renaming} {scope scope' : TemplateScope}

namespace TemplateScope

/-- Both are the scope of the same template, and every name means the same under the new numbers. -/
structure Mirrors (shift : Renaming) (one two : TemplateScope) : Prop where
  names : two.outer.names = one.outer.names
  lookup : ∀ text, two.outer.lookup? text = shift.image (one.outer.lookup? text)
  id : two.id = one.id
  name : two.name = one.name
  parameters : two.parameters = one.parameters
  primitive : ∀ ty : TypeId, ty.index < TypeId.primitiveCount → shift.types ty = ty

namespace Mirrors

theorem parameter? (mirrors : scope.Mirrors shift scope') (name : String) :
    scope'.parameter? name = scope.parameter? name := by
  unfold TemplateScope.parameter?
  rw [mirrors.parameters]

theorem lookup? (mirrors : scope.Mirrors shift scope') (text : String) :
    scope'.lookup? text = shift.image (scope.lookup? text) := by
  unfold TemplateScope.lookup?
  rw [mirrors.names, mirrors.name, mirrors.id, mirrors.lookup]
  split <;> rfl

theorem bareParameter? (mirrors : scope.Mirrors shift scope') (spelling : Spelling) :
    scope'.bareParameter? spelling = scope.bareParameter? spelling := by
  cases spelling with
  | named name => exact mirrors.parameter? name
  | _ => rfl

theorem bareTemplate? (mirrors : scope.Mirrors shift scope') (spelling : Spelling) :
    scope'.outer.bareTemplate? spelling = scope.outer.bareTemplate? spelling := by
  cases spelling with
  | named name =>
    dsimp only [Scope.bareTemplate?]
    rw [mirrors.lookup]
    rcases scope.outer.lookup? name with _ | _ | _ <;> rfl
  | _ => rfl

end Mirrors

/-! ### Spellings -/

private theorem exprOfName_image (mirrors : scope.Mirrors shift scope') (name : String)
    (isBare : Bool) {arguments arguments' : Except DeclareError (List ArgExpr)}
    (given : arguments' = arguments.map shift.image) :
    scope'.exprOfName name isBare arguments' =
      (scope.exprOfName name isBare arguments).map shift.image := by
  unfold exprOfName
  rw [mirrors.lookup?, given]
  rcases scope.lookup? name with _ | ty | id
  · rfl
  · cases isBare <;> rfl
  · cases arguments with
    | error err => rfl
    | ok exprs => exact congrArg Except.ok image_apply.symm

mutual

theorem expr_image (mirrors : scope.Mirrors shift scope') : (spelling : Spelling) →
    scope'.expr spelling = (scope.expr spelling).map shift.image
  | .pointer target => by
    rw [expr, expr, expr_image mirrors target]
    cases scope.expr target <;> rfl
  | .slice element => by
    rw [expr, expr, expr_image mirrors element]
    cases scope.expr element <;> rfl
  | .array element (.literal length) => by
    rw [expr, expr, expr_image mirrors element]
    cases scope.expr element <;> rfl
  | .array element (.parameter name) => by
    rw [expr, expr, expr_image mirrors element, mirrors.parameter?]
    cases scope.expr element <;> cases scope.parameter? name <;> rfl
  | .qualified base quals => by
    rw [expr, expr, expr_image mirrors base]
    cases scope.expr base <;> rfl
  | .named name => by
    rw [expr, expr, mirrors.parameter?]
    split
    · rfl
    · split
      · rename_i ty named
        have fixed := mirrors.primitive ty (TypeId.lt_primitiveCount_of_ofPrimitiveName? named)
        exact congrArg (fun ty => Except.ok (TypeExpr.concrete ty)) fixed.symm
      · exact exprOfName_image mirrors name true rfl
  | .applied name arguments => by
    rw [expr, expr, mirrors.parameter?]
    split
    · rw [argumentExprs_image mirrors arguments]
      cases scope.argumentExprs arguments with
      | error err => rfl
      | ok exprs => exact congrArg Except.ok image_applyParam.symm
    · exact exprOfName_image mirrors name false (argumentExprs_image mirrors arguments)

theorem argumentExpr_image (mirrors : scope.Mirrors shift scope') : (argument : SpelledArgument) →
    scope'.argumentExpr argument = (scope.argumentExpr argument).map shift.image
  | .int value => by
    rw [argumentExpr, argumentExpr]
    rfl
  | .bool value => by
    rw [argumentExpr, argumentExpr]
    rfl
  | .type spelling => by
    rw [argumentExpr, argumentExpr, mirrors.bareParameter?, mirrors.bareTemplate?,
      expr_image mirrors spelling]
    split
    · rfl
    · split
      · rfl
      · cases scope.expr spelling <;> rfl

theorem argumentExprs_image (mirrors : scope.Mirrors shift scope') :
    (arguments : List SpelledArgument) →
    scope'.argumentExprs arguments = (scope.argumentExprs arguments).map shift.image
  | [] => by
    rw [argumentExprs, argumentExprs]
    rfl
  | argument :: rest => by
    rw [argumentExprs, argumentExprs, argumentExpr_image mirrors argument,
      argumentExprs_image mirrors rest]
    cases scope.argumentExpr argument with
    | error err => rfl
    | ok expr => cases scope.argumentExprs rest <;> rfl

end

theorem exprOfText_image (mirrors : scope.Mirrors shift scope') (text : String) :
    scope'.exprOfText text = (scope.exprOfText text).map shift.image := by
  unfold exprOfText
  split
  · exact expr_image mirrors _
  · rfl

/-! ### Bodies -/

/-- The second steps find the same errors, and read the same up to the new numbers. -/
def Reflects [Renames α] (shift : Renaming) (steps steps' : BodyM α) : Prop :=
  ∀ errors, steps'.run errors = (shift.image (steps.run errors).1, (steps.run errors).2)

section Steps

variable [Renames α] [Renames β] {steps steps' : BodyM α} {rest rest' : α → BodyM β}

theorem reflects_pure (value : α) : Reflects shift (pure value) (pure (shift.image value)) :=
  fun _ => rfl

theorem reflects_bind (first : Reflects shift steps steps')
    (second : ∀ value, Reflects shift (rest value) (rest' (shift.image value))) :
    Reflects shift (steps >>= rest) (steps' >>= rest') := by
  intro errors
  rw [run_bind_of (first errors)]
  exact second _ _

theorem reflects_mapM {steps steps' : γ → BodyM β} (each : ∀ x, Reflects shift (steps x) (steps' x))
    (xs : List γ) : Reflects shift (xs.mapM steps) (xs.mapM steps') := by
  induction xs with
  | nil => exact reflects_pure []
  | cons x rest ih =>
    rw [List.mapM_cons, List.mapM_cons]
    exact reflects_bind (each x) fun first => reflects_bind ih fun others =>
      reflects_pure (first :: others)

end Steps

private theorem orError_image (mirrors : scope.Mirrors shift scope') (span : TokenSpan)
    {result result' : Except DeclareError TypeExpr} (same : result' = result.map shift.image) :
    Reflects shift (orError span result) (orError span result') := by
  subst same
  cases result with
  | ok expr => exact reflects_pure expr
  | error err =>
    intro errors
    have fixed := mirrors.primitive .error (by decide)
    exact congrArg (fun ty => (TypeExpr.concrete ty, errors ++ [(err, span)])) fixed.symm

private theorem statedExpr_image (mirrors : scope.Mirrors shift scope') (stated : Option Name)
    (owner : Name) (span : TokenSpan) :
    Reflects shift (scope.statedExpr stated owner span) (scope'.statedExpr stated owner span) := by
  unfold statedExpr TemplateScope.textOf
  rw [mirrors.names]
  refine orError_image mirrors span ?_
  cases stated with
  | some spelled => exact exprOfText_image mirrors _
  | none => rfl

private theorem resultExpr_image (mirrors : scope.Mirrors shift scope') (stated : Option Name)
    (span : TokenSpan) :
    Reflects shift (scope.resultExpr stated span) (scope'.resultExpr stated span) := by
  unfold resultExpr TemplateScope.textOf
  rw [mirrors.names]
  cases stated with
  | some spelled => exact orError_image mirrors span (exprOfText_image mirrors _)
  | none =>
    intro errors
    have fixed := mirrors.primitive .void (by decide)
    exact congrArg (fun ty => (TypeExpr.concrete ty, errors)) fixed.symm

private theorem parameterExpr_image (mirrors : scope.Mirrors shift scope') (param : Definition)
    (isLast : Bool) :
    Reflects shift (scope.parameterExpr param isLast) (scope'.parameterExpr param isLast) := by
  unfold parameterExpr
  rw [mirrors.names]
  split
  · exact reflects_bind (orError_image mirrors _ rfl) fun expr => reflects_pure (expr, false)
  · rename_i text variadic _
    refine reflects_bind (orError_image mirrors _ ?_) fun expr => reflects_pure (expr, variadic)
    rw [exprOfText_image mirrors]
    cases scope.exprOfText text <;> cases variadic <;> rfl

private theorem parameterExprs_image (mirrors : scope.Mirrors shift scope')
    (params : List Definition) :
    Reflects shift (scope.parameterExprs params) (scope'.parameterExprs params) := by
  induction params with
  | nil => exact reflects_pure ([], false)
  | cons param rest ih =>
    exact reflects_bind (parameterExpr_image mirrors param _) fun first =>
      reflects_bind ih fun others =>
        reflects_pure (first.1 :: others.1, first.2 || others.2)

private theorem fieldExpr_image (mirrors : scope.Mirrors shift scope') (field : Definition) :
    Reflects shift (scope.fieldExpr field) (scope'.fieldExpr field) :=
  reflects_bind (statedExpr_image mirrors _ _ _) fun expr => reflects_pure (FieldExpr.mk field.name expr)

private theorem methodExpr_image (mirrors : scope.Mirrors shift scope') (tree : ItemTree)
    (method : Definition) :
    Reflects shift (scope.methodExpr tree method) (scope'.methodExpr tree method) :=
  reflects_bind (parameterExprs_image mirrors _) fun parameters =>
    reflects_bind (resultExpr_image mirrors _ _) fun result =>
      reflects_pure (MethodExpr.mk method.name parameters.1 result)

/-- The body of a template is the same in both scopes, and so are the errors in it. -/
theorem body_image (mirrors : scope.Mirrors shift scope') (tree : ItemTree)
    (definition : Definition) :
    Reflects shift (scope.body tree definition) (scope'.body tree definition) := by
  have fields : ∀ fields, Reflects shift ((tree.definitions fields).mapM scope.fieldExpr)
      ((tree.definitions fields).mapM scope'.fieldExpr) :=
    fun _ => reflects_mapM (fieldExpr_image mirrors) _
  have methods : ∀ methods, Reflects shift ((tree.definitions methods).mapM (scope.methodExpr tree))
      ((tree.definitions methods).mapM (scope'.methodExpr tree)) :=
    fun _ => reflects_mapM (methodExpr_image mirrors tree) _
  unfold body
  split
  · refine reflects_bind (fields _) fun made => ?_
    split
    · exact reflects_pure (TemplateBody.union made)
    · exact reflects_pure (TemplateBody.struct made)
  · rename_i _ base _ _ _ _
    have parent : Reflects shift
        (base.mapM fun base => scope.statedExpr (some base) base definition.span)
        (base.mapM fun base => scope'.statedExpr (some base) base definition.span) := by
      cases base with
      | none => exact reflects_pure none
      | some spelled =>
        have given : Reflects shift
            (do return some (← scope.statedExpr (some spelled) spelled definition.span))
            (do return some (← scope'.statedExpr (some spelled) spelled definition.span)) :=
          reflects_bind (statedExpr_image mirrors _ _ _) fun expr => reflects_pure (some expr)
        exact given
    exact reflects_bind parent fun base => reflects_bind (fields _) fun fields =>
      reflects_bind (methods _) fun methods => reflects_pure (TemplateBody.classType base fields methods)
  · exact reflects_bind (parameterExprs_image mirrors _) fun parameters =>
      reflects_bind (resultExpr_image mirrors _ _) fun result =>
        reflects_pure (TemplateBody.function parameters.1 result parameters.2)
  · exact reflects_bind (statedExpr_image mirrors _ _ _) fun target =>
      reflects_pure (TemplateBody.synonym target)

end TemplateScope

end FrontEnd
