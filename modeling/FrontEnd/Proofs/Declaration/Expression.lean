import FrontEnd.Declaration.Template
import FrontEnd.Proofs.Renaming.Stated
import FrontEnd.Proofs.Specialization.Living
import FrontEnd.Proofs.Specialization.Tables

/-!
Bodies of templates state only types that their scope knows: a name stands for a type of the exports
that are visible, for a parameter, or for a template. So whatever holds of all types that can be
named, and of the primitive types, holds of all types in the body.
-/

namespace FrontEnd

variable {extent : Extent} {exports : Exports} {scope : TemplateScope} {holds : TypeId → Prop}

/-- All types that a module exports were given out. -/
def Exports.Inside (exports : Exports) (extent : Extent) : Prop :=
  ∀ (name : Name) ty, exports.types[name]? = some ty → Known extent ty

theorem Exports.Inside.within {outer : Extent} (inside : exports.Inside extent)
    (within : extent.Within outer) : exports.Inside outer :=
  fun name ty found => (inside name ty found).within within

/-- All types that a scope knows were given out. -/
def Scope.Inside (scope : Scope) (extent : Extent) : Prop :=
  ∀ exports ∈ scope.own :: scope.imports, exports.Inside extent

theorem Scope.Inside.within {scope : Scope} {outer : Extent} (inside : scope.Inside extent)
    (within : extent.Within outer) : scope.Inside outer :=
  fun exports member => (inside exports member).within within

/-- A type that a name stands for is exported by the module itself or by an import. -/
theorem Scope.lookup?_type {scope : Scope} {text : String} {ty : TypeId}
    (found : scope.lookup? text = some (.type ty)) :
    ∃ exports ∈ scope.own :: scope.imports, ∃ name : Name, exports.types[name]? = some ty := by
  obtain ⟨name, -, found⟩ := Option.bind_eq_some_iff.1 found
  obtain ⟨exports, member, found⟩ := List.exists_of_findSome?_eq_some found
  unfold Exports.lookup? at found
  rcases Option.or_eq_some_iff.1 found with own | ⟨-, template⟩
  · obtain ⟨own, stored, same⟩ := Option.map_eq_some_iff.1 own
    cases same
    exact ⟨exports, member, name, stored⟩
  · obtain ⟨id, -, same⟩ := Option.map_eq_some_iff.1 template
    cases same

theorem Scope.Inside.lookup {scope : Scope} (inside : scope.Inside extent) {text : String}
    {ty : TypeId} (found : scope.lookup? text = some (.type ty)) : Known extent ty := by
  obtain ⟨exports, member, name, stored⟩ := Scope.lookup?_type found
  exact inside exports member name ty stored

namespace TemplateScope

/-- Every type that can be named in the body of a template has a property. -/
structure Grants (scope : TemplateScope) (holds : TypeId → Prop) : Prop where
  visible : ∀ exports ∈ scope.outer.own :: scope.outer.imports, ∀ (name : Name) ty,
    exports.types[name]? = some ty → holds ty
  primitive : ∀ ty : TypeId, ty.index < TypeId.primitiveCount → holds ty

theorem Grants.lookup (grants : scope.Grants holds) {name : String} {ty : TypeId}
    (found : scope.lookup? name = some (.type ty)) : holds ty := by
  unfold TemplateScope.lookup? at found
  split at found
  · cases found
  · obtain ⟨exports, member, own, stored⟩ := Scope.lookup?_type found
    exact grants.visible exports member own ty stored

theorem exprOfName_stated (grants : scope.Grants holds) {name : String} {isBare : Bool}
    {arguments : Except DeclareError (List ArgExpr)} {expr : TypeExpr}
    (given : ∀ exprs, arguments = .ok exprs → ∀ ty ∈ ArgExpr.statedAll exprs, holds ty)
    (translated : scope.exprOfName name isBare arguments = .ok expr) :
    ∀ ty ∈ expr.stated, holds ty := by
  unfold exprOfName at translated
  split at translated
  · rename_i ty found
    split at translated
    · cases translated
      exact List.forall_mem_singleton.2 (grants.lookup found)
    · cases translated
  · cases arguments with
    | error err => cases translated
    | ok exprs =>
      cases translated
      exact given exprs rfl
  · cases translated

mutual

theorem expr_stated (grants : scope.Grants holds) : (spelling : Spelling) → ∀ {expr : TypeExpr},
    scope.expr spelling = .ok expr → ∀ ty ∈ expr.stated, holds ty
  | .pointer target, expr, translated => by
    rw [TemplateScope.expr] at translated
    obtain ⟨inner, part, same⟩ := bind_eq_ok translated
    cases same
    have stated := expr_stated grants target part
    exact stated
  | .slice element, expr, translated => by
    rw [TemplateScope.expr] at translated
    obtain ⟨inner, part, same⟩ := bind_eq_ok translated
    cases same
    have stated := expr_stated grants element part
    exact stated
  | .array element (.literal length), expr, translated => by
    rw [TemplateScope.expr] at translated
    obtain ⟨inner, part, same⟩ := bind_eq_ok translated
    cases same
    have stated := expr_stated grants element part
    exact stated
  | .array element (.parameter name), expr, translated => by
    rw [TemplateScope.expr] at translated
    obtain ⟨inner, part, same⟩ := bind_eq_ok translated
    split at same
    · cases same
      have stated := expr_stated grants element part
      exact stated
    · cases same
  | .qualified base quals, expr, translated => by
    rw [TemplateScope.expr] at translated
    obtain ⟨inner, part, same⟩ := bind_eq_ok translated
    cases same
    have stated := expr_stated grants base part
    exact stated
  | .named name, expr, translated => by
    rw [TemplateScope.expr] at translated
    split at translated
    · cases translated
      exact nofun
    · split at translated
      · rename_i ty named
        cases translated
        exact List.forall_mem_singleton.2
          (grants.primitive ty (TypeId.lt_primitiveCount_of_ofPrimitiveName? named))
      · exact exprOfName_stated grants (fun exprs same => by cases same; exact nofun) translated
  | .applied name arguments, expr, translated => by
    rw [TemplateScope.expr] at translated
    split at translated
    · obtain ⟨inner, part, same⟩ := bind_eq_ok translated
      cases same
      exact argumentExprs_stated grants arguments part
    · exact exprOfName_stated grants (fun exprs => argumentExprs_stated grants arguments) translated

theorem argumentExpr_stated (grants : scope.Grants holds) : (argument : SpelledArgument) →
    ∀ {expr : ArgExpr}, scope.argumentExpr argument = .ok expr → ∀ ty ∈ expr.stated, holds ty
  | .int value, expr, translated => by
    rw [TemplateScope.argumentExpr] at translated
    cases translated
    exact nofun
  | .bool value, expr, translated => by
    rw [TemplateScope.argumentExpr] at translated
    cases translated
    exact nofun
  | .type spelling, expr, translated => by
    rw [TemplateScope.argumentExpr] at translated
    split at translated
    · cases translated
      exact nofun
    · split at translated
      · cases translated
        exact nofun
      · obtain ⟨inner, part, same⟩ := bind_eq_ok translated
        cases same
        exact expr_stated grants spelling part

theorem argumentExprs_stated (grants : scope.Grants holds) : (arguments : List SpelledArgument) →
    ∀ {exprs : List ArgExpr}, scope.argumentExprs arguments = .ok exprs →
    ∀ ty ∈ ArgExpr.statedAll exprs, holds ty
  | [], exprs, translated => by
    rw [TemplateScope.argumentExprs] at translated
    cases translated
    exact nofun
  | argument :: rest, exprs, translated => by
    rw [TemplateScope.argumentExprs] at translated
    obtain ⟨first, part, translated⟩ := bind_eq_ok translated
    obtain ⟨others, parts, same⟩ := bind_eq_ok translated
    cases same
    exact List.forall_mem_append.2 ⟨argumentExpr_stated grants argument part,
      argumentExprs_stated grants rest parts⟩

end

/-! ### Bodies -/

variable {errors : List (DeclareError × TokenSpan)} {span : TokenSpan}

private theorem text_stated (grants : scope.Grants holds) {text : String} {expr : TypeExpr}
    (translated : scope.exprOfText text = .ok expr) : ∀ ty ∈ expr.stated, holds ty := by
  unfold exprOfText at translated
  split at translated
  · exact expr_stated grants _ translated
  · cases translated

private theorem orError_stated (grants : scope.Grants holds) {result : Except DeclareError TypeExpr}
    (stated : ∀ expr, result = .ok expr → ∀ ty ∈ expr.stated, holds ty) :
    ∀ ty ∈ ((orError span result).run errors).1.stated, holds ty := by
  cases result with
  | ok expr => exact stated expr rfl
  | error err => exact List.forall_mem_singleton.2 (grants.primitive .error (by decide))

private theorem statedExpr_stated (grants : scope.Grants holds) (stated : Option Name)
    (owner : Name) : ∀ ty ∈ ((scope.statedExpr stated owner span).run errors).1.stated, holds ty := by
  refine orError_stated grants fun expr translated => ?_
  cases stated with
  | some spelled => exact text_stated grants translated
  | none => cases translated

private theorem resultExpr_stated (grants : scope.Grants holds) (stated : Option Name) :
    ∀ ty ∈ ((scope.resultExpr stated span).run errors).1.stated, holds ty := by
  cases stated with
  | some spelled => exact orError_stated grants fun expr => text_stated grants
  | none => exact List.forall_mem_singleton.2 (grants.primitive .void (by decide))

private theorem parameterExpr_stated (grants : scope.Grants holds) (param : Definition)
    (isLast : Bool) :
    ∀ ty ∈ ((scope.parameterExpr param isLast).run errors).1.1.stated, holds ty := by
  unfold parameterExpr
  rcases param.parameterText scope.outer.names isLast with err | ⟨text, variadic⟩
  · have refused : ∀ ty ∈ ((orError param.span (.error err)).run errors).1.stated, holds ty :=
      orError_stated grants fun expr wrong => by cases wrong
    exact refused
  · refine orError_stated grants fun expr translated => ?_
    cases variadic with
    | false => exact text_stated grants translated
    | true =>
      rw [if_pos rfl] at translated
      cases inner : scope.exprOfText text with
      | error err =>
        rw [inner] at translated
        cases translated
      | ok element =>
        rw [inner] at translated
        cases translated
        have stated := text_stated grants inner
        exact stated

private theorem parameterExprs_stated (grants : scope.Grants holds) (params : List Definition) :
    ∀ ty ∈ TypeExpr.statedAll ((scope.parameterExprs params).run errors).1.1, holds ty := by
  induction params generalizing errors with
  | nil => exact nofun
  | cons param rest ih =>
    exact List.forall_mem_append.2 ⟨parameterExpr_stated grants param _, ih⟩

private theorem mapM_stated {steps : α → BodyM β} {stated : β → List TypeId}
    (each : ∀ x errors, ∀ ty ∈ stated ((steps x).run errors).1, holds ty) (xs : List α) :
    ∀ ty ∈ ((xs.mapM steps).run errors).1.flatMap stated, holds ty := by
  induction xs generalizing errors with
  | nil => exact nofun
  | cons x rest ih =>
    rw [List.mapM_cons]
    exact List.forall_mem_append.2 ⟨each x errors, ih⟩

/-- Whatever errors are found in it, the body of a template states only types that can be named. -/
theorem body_stated (grants : scope.Grants holds) (tree : ItemTree) (definition : Definition) :
    ∀ ty ∈ ((scope.body tree definition).run errors).1.stated, holds ty := by
  have field : ∀ (field : Definition) errors,
      ∀ ty ∈ ((scope.fieldExpr field).run errors).1.stated, holds ty :=
    fun field _ => statedExpr_stated grants field.data.typeName field.name
  have method : ∀ (method : Definition) errors,
      ∀ ty ∈ ((scope.methodExpr tree method).run errors).1.stated, holds ty :=
    fun method _ => List.forall_mem_append.2 ⟨parameterExprs_stated grants _,
      resultExpr_stated grants (tree.callableParts method).2⟩
  have fields : ∀ fields errors, ∀ ty ∈ (((tree.definitions fields).mapM scope.fieldExpr).run
      errors).1.flatMap FieldExpr.stated, holds ty := fun fields _ => mapM_stated field _
  have methods : ∀ methods errors, ∀ ty ∈ (((tree.definitions methods).mapM
      (scope.methodExpr tree)).run errors).1.flatMap MethodExpr.stated, holds ty :=
    fun methods _ => mapM_stated method _
  unfold body
  split
  · rename_i _ written parts
    have stated := fields written errors
    by_cases union : definition.kind = .unionDefinition
    · simp only [union, ↓reduceIte]
      exact stated
    · simp only [union, ↓reduceIte]
      exact stated
  · rename_i _ base _ written callable parts
    refine List.forall_mem_append.2 ⟨List.forall_mem_append.2 ⟨?_, fields written _⟩,
      methods callable _⟩
    cases base with
    | none => exact nofun
    | some spelled => exact statedExpr_stated grants (some spelled) spelled
  · exact List.forall_mem_append.2 ⟨parameterExprs_stated grants _, resultExpr_stated grants _⟩
  · exact statedExpr_stated grants _ _

/-! ### What was given out -/

/-- What the names in the body of a template can stand for was given out, and so were the primitive
types. -/
structure Inside (scope : TemplateScope) (extent : Extent) : Prop where
  outer : scope.outer.Inside extent
  primitive : ∀ ty : TypeId, ty.index < TypeId.primitiveCount → Known extent ty

theorem Inside.within {outer : Extent} (inside : scope.Inside extent)
    (within : extent.Within outer) : scope.Inside outer where
  outer := inside.outer.within within
  primitive ty small := (inside.primitive ty small).within within

theorem Inside.grants (inside : scope.Inside extent) : scope.Grants (Known extent) :=
  ⟨inside.outer, inside.primitive⟩

theorem Inside.lookup (inside : scope.Inside extent) {name : String} {ty : TypeId}
    (found : scope.lookup? name = some (.type ty)) : Known extent ty :=
  inside.grants.lookup found

/-- Whatever errors are found in it, the body of a template mentions only what was given out. -/
theorem body_known (inside : scope.Inside extent) (tree : ItemTree) (definition : Definition) :
    Known extent ((scope.body tree definition).run errors).1 :=
  known_bodyStated.2 (body_stated inside.grants tree definition)

end TemplateScope

end FrontEnd
