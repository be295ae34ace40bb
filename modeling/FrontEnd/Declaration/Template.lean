import FrontEnd.Declaration.Definition
import FrontEnd.Declaration.Scope

/-!
Bodies of templates. A part whose spelling has no meaning is taken for an error, and the rest of
the body is read on.
-/

namespace FrontEnd

namespace TemplateScope

/-- The reading of a body, with the errors found so far and their places. -/
abbrev BodyM := StateM (List (DeclareError × TokenSpan))

/-- An expression, or an error in its place. -/
def orError (span : TokenSpan) : Except DeclareError TypeExpr → BodyM TypeExpr
  | .ok expr => return expr
  | .error err => do
    modify (· ++ [(err, span)])
    return .concrete .error

/-- The text of a name. -/
def textOf (scope : TemplateScope) (name : Name) : String := scope.outer.names.textOf name

/-- The expression for the type that a definition states. -/
def statedExpr (scope : TemplateScope) (stated : Option Name) (owner : Name) (span : TokenSpan) :
    BodyM TypeExpr :=
  orError span <| match stated with
    | some spelled => scope.exprOfText (scope.textOf spelled)
    | none => .error (.missingType (scope.textOf owner))

/-- The expression for the result of a function. One that states none gives nothing back. -/
def resultExpr (scope : TemplateScope) (stated : Option Name) (span : TokenSpan) :
    BodyM TypeExpr :=
  match stated with
  | some spelled => orError span (scope.exprOfText (scope.textOf spelled))
  | none => return .concrete .void

/-- The expression for a parameter, and whether it is variadic. -/
def parameterExpr (scope : TemplateScope) (param : Definition) (isLast : Bool) :
    BodyM (TypeExpr × Bool) :=
  match param.parameterText scope.outer.names isLast with
  | .error err => do return (← orError param.span (.error err), false)
  | .ok (text, variadic) => do
    let expr := scope.exprOfText text
    let expr ← orError param.span (if variadic then expr.map .slice else expr)
    return (expr, variadic)

/-- The expressions for parameters, and whether the last is variadic. -/
def parameterExprs (scope : TemplateScope) : List Definition → BodyM (List TypeExpr × Bool)
  | [] => return ([], false)
  | param :: rest => do
    let (expr, variadic) ← scope.parameterExpr param rest.isEmpty
    let (exprs, others) ← scope.parameterExprs rest
    return (expr :: exprs, variadic || others)

/-- The expression for a data member. -/
def fieldExpr (scope : TemplateScope) (field : Definition) : BodyM FieldExpr := do
  return ⟨field.name, ← scope.statedExpr field.data.typeName field.name field.span⟩

/-- The expressions for a method. -/
def methodExpr (scope : TemplateScope) (tree : ItemTree) (method : Definition) :
    BodyM MethodExpr := do
  let (parameters, result) := tree.callableParts method
  let (parameters, _) ← scope.parameterExprs parameters
  return ⟨method.name, parameters, ← scope.resultExpr result method.span⟩

/-- The body of a template. -/
def body (scope : TemplateScope) (tree : ItemTree) (definition : Definition) :
    BodyM TemplateBody := do
  match tree.partsOf definition with
  | .record _ fields =>
    let fields ← (tree.definitions fields).mapM scope.fieldExpr
    return if definition.kind = .unionDefinition then .union fields else .struct fields
  | .classDefinition _ base _ fields methods =>
    let base ← base.mapM fun base => scope.statedExpr (some base) base definition.span
    let fields ← (tree.definitions fields).mapM scope.fieldExpr
    let methods ← (tree.definitions methods).mapM (scope.methodExpr tree)
    return .classType base fields methods
  | .callable data parameters _ =>
    let (parameters, variadic) ← scope.parameterExprs (tree.definitions parameters)
    return .function parameters (← scope.resultExpr data.typeName definition.span) variadic
  | _ =>
    return .synonym (← scope.statedExpr definition.data.typeName definition.name definition.span)

end TemplateScope

end FrontEnd
