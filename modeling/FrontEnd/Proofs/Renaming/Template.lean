import FrontEnd.Proofs.Renaming.Data

/-!
How templates are renamed. The body of a template mentions types only where it states them, and
parameters by position, so renaming it is renaming the types that it states.
-/

namespace FrontEnd

variable {shift : Renaming} {extent : Extent}

/-! ### Expressions -/

mutual

/-- The expression with the types that it states renamed. -/
def TypeExpr.renamed (shift : Renaming) : TypeExpr → TypeExpr
  | .concrete ty => .concrete (shift.image ty)
  | .param index => .param index
  | .pointer target => .pointer (target.renamed shift)
  | .array element length => .array (element.renamed shift) length
  | .arrayOfParam element index => .arrayOfParam (element.renamed shift) index
  | .slice element => .slice (element.renamed shift)
  | .qualified base quals => .qualified (base.renamed shift) quals
  | .function parameters result variadic =>
    .function (TypeExpr.renamedAll shift parameters) (result.renamed shift) variadic
  | .apply template arguments => .apply template (ArgExpr.renamedAll shift arguments)
  | .applyParam index arguments => .applyParam index (ArgExpr.renamedAll shift arguments)

def TypeExpr.renamedAll (shift : Renaming) : List TypeExpr → List TypeExpr
  | [] => []
  | expr :: rest => expr.renamed shift :: TypeExpr.renamedAll shift rest

def ArgExpr.renamed (shift : Renaming) : ArgExpr → ArgExpr
  | .type expr => .type (expr.renamed shift)
  | .value value => .value value
  | .template id => .template id
  | .param index => .param index

def ArgExpr.renamedAll (shift : Renaming) : List ArgExpr → List ArgExpr
  | [] => []
  | argument :: rest => argument.renamed shift :: ArgExpr.renamedAll shift rest

end

section Laws

variable (first second : Renaming)

mutual

private theorem renamed_id : (expr : TypeExpr) → expr.renamed .id = expr
  | .concrete _ | .param _ => by simp [TypeExpr.renamed]
  | .pointer target => by simp [TypeExpr.renamed, renamed_id target]
  | .array element _ => by simp [TypeExpr.renamed, renamed_id element]
  | .arrayOfParam element _ => by simp [TypeExpr.renamed, renamed_id element]
  | .slice element => by simp [TypeExpr.renamed, renamed_id element]
  | .qualified base _ => by simp [TypeExpr.renamed, renamed_id base]
  | .function parameters result _ => by
    simp [TypeExpr.renamed, renamedAll_id parameters, renamed_id result]
  | .apply _ arguments => by simp [TypeExpr.renamed, renamedArguments_id arguments]
  | .applyParam _ arguments => by simp [TypeExpr.renamed, renamedArguments_id arguments]

private theorem renamedAll_id : (exprs : List TypeExpr) → TypeExpr.renamedAll .id exprs = exprs
  | [] => by simp [TypeExpr.renamedAll]
  | expr :: rest => by simp [TypeExpr.renamedAll, renamed_id expr, renamedAll_id rest]

private theorem renamedArgument_id : (argument : ArgExpr) → argument.renamed .id = argument
  | .type expr => by simp [ArgExpr.renamed, renamed_id expr]
  | .value _ | .template _ | .param _ => by simp [ArgExpr.renamed]

private theorem renamedArguments_id : (arguments : List ArgExpr) →
    ArgExpr.renamedAll .id arguments = arguments
  | [] => by simp [ArgExpr.renamedAll]
  | argument :: rest => by
    simp [ArgExpr.renamedAll, renamedArgument_id argument, renamedArguments_id rest]

end

mutual

private theorem renamed_renamed : (expr : TypeExpr) →
    (expr.renamed first).renamed second = expr.renamed (first.andThen second)
  | .concrete _ | .param _ => by simp [TypeExpr.renamed]
  | .pointer target => by simp [TypeExpr.renamed, renamed_renamed target]
  | .array element _ => by simp [TypeExpr.renamed, renamed_renamed element]
  | .arrayOfParam element _ => by simp [TypeExpr.renamed, renamed_renamed element]
  | .slice element => by simp [TypeExpr.renamed, renamed_renamed element]
  | .qualified base _ => by simp [TypeExpr.renamed, renamed_renamed base]
  | .function parameters result _ => by
    simp [TypeExpr.renamed, renamedAll_renamedAll parameters, renamed_renamed result]
  | .apply _ arguments => by simp [TypeExpr.renamed, renamedArguments_renamed arguments]
  | .applyParam _ arguments => by simp [TypeExpr.renamed, renamedArguments_renamed arguments]

private theorem renamedAll_renamedAll : (exprs : List TypeExpr) →
    TypeExpr.renamedAll second (TypeExpr.renamedAll first exprs) =
      TypeExpr.renamedAll (first.andThen second) exprs
  | [] => by simp [TypeExpr.renamedAll]
  | expr :: rest => by
    simp [TypeExpr.renamedAll, renamed_renamed expr, renamedAll_renamedAll rest]

private theorem renamedArgument_renamed : (argument : ArgExpr) →
    (argument.renamed first).renamed second = argument.renamed (first.andThen second)
  | .type expr => by simp [ArgExpr.renamed, renamed_renamed expr]
  | .value _ | .template _ | .param _ => by simp [ArgExpr.renamed]

private theorem renamedArguments_renamed : (arguments : List ArgExpr) →
    ArgExpr.renamedAll second (ArgExpr.renamedAll first arguments) =
      ArgExpr.renamedAll (first.andThen second) arguments
  | [] => by simp [ArgExpr.renamedAll]
  | argument :: rest => by
    simp [ArgExpr.renamedAll, renamedArgument_renamed argument, renamedArguments_renamed rest]

end

end Laws

instance : Renames TypeExpr where
  image := TypeExpr.renamed
  image_id := renamed_id
  image_image := renamed_renamed

instance : Renames ArgExpr where
  image := ArgExpr.renamed
  image_id := renamedArgument_id
  image_image := renamedArgument_renamed

private theorem renamedAll_eq (exprs : List TypeExpr) :
    TypeExpr.renamedAll shift exprs = shift.image exprs := by
  induction exprs with
  | nil => rfl
  | cons expr rest ih => rw [TypeExpr.renamedAll, ih]; rfl

private theorem renamedArguments_eq (arguments : List ArgExpr) :
    ArgExpr.renamedAll shift arguments = shift.image arguments := by
  induction arguments with
  | nil => rfl
  | cons argument rest ih => rw [ArgExpr.renamedAll, ih]; rfl

section Expressions

variable {ty : TypeId} {index length : Nat} {expr result : TypeExpr} {quals : Qualifiers}
  {parameters : List TypeExpr} {variadic : Bool} {id : TemplateId} {arguments : List ArgExpr}
  {value : ConstValue}

@[simp] theorem image_concrete :
    shift.image (TypeExpr.concrete ty) = .concrete (shift.image ty) := rfl

@[simp] theorem image_param : shift.image (TypeExpr.param index) = .param index := rfl

@[simp] theorem image_pointerExpr :
    shift.image (TypeExpr.pointer expr) = .pointer (shift.image expr) := rfl

@[simp] theorem image_arrayExpr :
    shift.image (TypeExpr.array expr length) = .array (shift.image expr) length := rfl

@[simp] theorem image_arrayOfParam :
    shift.image (TypeExpr.arrayOfParam expr index) = .arrayOfParam (shift.image expr) index := rfl

@[simp] theorem image_sliceExpr :
    shift.image (TypeExpr.slice expr) = .slice (shift.image expr) := rfl

@[simp] theorem image_qualifiedExpr :
    shift.image (TypeExpr.qualified expr quals) = .qualified (shift.image expr) quals := rfl

@[simp] theorem image_functionExpr : shift.image (TypeExpr.function parameters result variadic) =
    .function (shift.image parameters) (shift.image result) variadic := by
  rw [← renamedAll_eq]
  rfl

@[simp] theorem image_apply : shift.image (TypeExpr.apply id arguments) =
    .apply id (shift.image arguments) := by
  rw [← renamedArguments_eq]
  rfl

@[simp] theorem image_applyParam : shift.image (TypeExpr.applyParam index arguments) =
    .applyParam index (shift.image arguments) := by
  rw [← renamedArguments_eq]
  rfl

@[simp] theorem image_typeExprArgument :
    shift.image (ArgExpr.type expr) = .type (shift.image expr) := rfl

@[simp] theorem image_valueExprArgument : shift.image (ArgExpr.value value) = .value value := rfl

@[simp] theorem image_templateExprArgument :
    shift.image (ArgExpr.template id) = .template id := rfl

@[simp] theorem image_paramArgument : shift.image (ArgExpr.param index) = .param index := rfl

@[simp] theorem known_concrete : Known extent (TypeExpr.concrete ty) ↔ Known extent ty := by
  simp [Known]

@[simp] theorem known_pointerExpr :
    Known extent (TypeExpr.pointer expr) ↔ Known extent expr := by simp [Known]

@[simp] theorem known_arrayExpr :
    Known extent (TypeExpr.array expr length) ↔ Known extent expr := by simp [Known]

@[simp] theorem known_arrayOfParam :
    Known extent (TypeExpr.arrayOfParam expr index) ↔ Known extent expr := by simp [Known]

@[simp] theorem known_sliceExpr : Known extent (TypeExpr.slice expr) ↔ Known extent expr := by
  simp [Known]

@[simp] theorem known_qualifiedExpr :
    Known extent (TypeExpr.qualified expr quals) ↔ Known extent expr := by simp [Known]

@[simp] theorem known_functionExpr : Known extent (TypeExpr.function parameters result variadic) ↔
    Known extent parameters ∧ Known extent result := by simp [Known, forall_and]

@[simp] theorem known_apply :
    Known extent (TypeExpr.apply id arguments) ↔ Known extent arguments := by simp [Known]

@[simp] theorem known_applyParam :
    Known extent (TypeExpr.applyParam index arguments) ↔ Known extent arguments := by simp [Known]

@[simp] theorem known_typeExprArgument :
    Known extent (ArgExpr.type expr) ↔ Known extent expr := by simp [Known]

end Expressions

/-! ### Templates -/

instance : Renames FieldExpr where
  image shift field := { field with type := shift.image field.type }
  image_id field := by simp
  image_image first second field := by simp

instance : Renames MethodExpr where
  image shift method := { method with
    parameters := shift.image method.parameters
    result := shift.image method.result }
  image_id method := by simp
  image_image first second method := by simp

instance : Renames TemplateParamKind where
  image shift
    | .value ty => .value (shift.image ty)
    | kind => kind
  image_id kind := by cases kind <;> simp
  image_image first second kind := by cases kind <;> simp

instance : Renames TemplateParameter where
  image shift param := { param with
    kind := shift.image param.kind
    default := shift.image param.default }
  image_id param := by simp
  image_image first second param := by simp

instance : Renames TemplateBody where
  image shift
    | .struct fields => .struct (shift.image fields)
    | .union fields => .union (shift.image fields)
    | .classType base fields methods =>
      .classType (shift.image base) (shift.image fields) (shift.image methods)
    | .synonym target => .synonym (shift.image target)
    | .function parameters result variadic =>
      .function (shift.image parameters) (shift.image result) variadic
  image_id body := by cases body <;> simp
  image_image first second body := by cases body <;> simp

instance : Renames TemplateDef where
  image shift template := { template with
    parameters := shift.image template.parameters
    body := shift.image template.body }
  image_id template := by simp
  image_image first second template := by simp

section Templates

variable {name : Name} {expr result target : TypeExpr} {exprs : List TypeExpr} {ty : TypeId}
  {arity : Nat} {param : TemplateParameter} {fields : List FieldExpr} {methods : List MethodExpr}
  {base : Option TypeExpr} {variadic : Bool} {template : TemplateDef}

@[simp] theorem image_field : shift.image (FieldExpr.mk name expr) = ⟨name, shift.image expr⟩ := rfl

@[simp] theorem image_methodExpr : shift.image (MethodExpr.mk name exprs result) =
    ⟨name, shift.image exprs, shift.image result⟩ := rfl

@[simp] theorem image_typeParam : shift.image TemplateParamKind.type = .type := rfl

@[simp] theorem image_valueParam :
    shift.image (TemplateParamKind.value ty) = .value (shift.image ty) := rfl

@[simp] theorem image_templateParam :
    shift.image (TemplateParamKind.template arity) = .template arity := rfl

theorem image_parameter : shift.image param = { param with
    kind := shift.image param.kind
    default := shift.image param.default } := rfl

@[simp] theorem image_structBody :
    shift.image (TemplateBody.struct fields) = .struct (shift.image fields) := rfl

@[simp] theorem image_unionBody :
    shift.image (TemplateBody.union fields) = .union (shift.image fields) := rfl

@[simp] theorem image_classBody : shift.image (TemplateBody.classType base fields methods) =
    .classType (shift.image base) (shift.image fields) (shift.image methods) := rfl

@[simp] theorem image_synonymBody :
    shift.image (TemplateBody.synonym target) = .synonym (shift.image target) := rfl

@[simp] theorem image_functionBody : shift.image (TemplateBody.function exprs result variadic) =
    .function (shift.image exprs) (shift.image result) variadic := rfl

theorem image_templateDef : shift.image template = { template with
    parameters := shift.image template.parameters
    body := shift.image template.body } := rfl

@[simp] theorem parameters_image :
    (shift.image template).parameters = shift.image template.parameters := rfl

/-- New numbers do not change what kind of definition a template makes. -/
theorem defKind?_image : (shift.image template).body.defKind? = template.body.defKind? := by
  cases template with
  | mk name parameters body => cases body <;> rfl

@[simp] theorem known_field : Known extent (FieldExpr.mk name expr) ↔ Known extent expr := by
  simp [Known]

@[simp] theorem known_methodExpr : Known extent (MethodExpr.mk name exprs result) ↔
    Known extent exprs ∧ Known extent result := by simp [Known, forall_and]

@[simp] theorem known_valueParam :
    Known extent (TemplateParamKind.value ty) ↔ Known extent ty := by simp [Known]

theorem known_parameter :
    Known extent param ↔ Known extent param.kind ∧ Known extent param.default := by
  simp only [Known, image_parameter, ← forall_and, TemplateParameter.mk.injEq, true_and]

@[simp] theorem known_structBody :
    Known extent (TemplateBody.struct fields) ↔ Known extent fields := by simp [Known]

@[simp] theorem known_unionBody :
    Known extent (TemplateBody.union fields) ↔ Known extent fields := by simp [Known]

@[simp] theorem known_classBody : Known extent (TemplateBody.classType base fields methods) ↔
    Known extent base ∧ Known extent fields ∧ Known extent methods := by
  simp [Known, forall_and]

@[simp] theorem known_synonymBody :
    Known extent (TemplateBody.synonym target) ↔ Known extent target := by simp [Known]

@[simp] theorem known_functionBody : Known extent (TemplateBody.function exprs result variadic) ↔
    Known extent exprs ∧ Known extent result := by simp [Known, forall_and]

theorem known_templateDef : Known extent template ↔
    Known extent template.parameters ∧ Known extent template.body := by
  simp only [Known, image_templateDef, ← forall_and, TemplateDef.mk.injEq, true_and]

end Templates

end FrontEnd
