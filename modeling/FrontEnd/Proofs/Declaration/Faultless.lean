import FrontEnd.Declaration.Template
import Mathlib.Data.List.Forall2

/-!
Bodies of templates in which no error is found. Errors are only ever added, so that none is found at
the end only if none was found on the way: each part has a spelling, and the spelling has an
expression.
-/

namespace FrontEnd

namespace TemplateScope

variable {scope : TemplateScope} {errors : List (DeclareError × TokenSpan)} {span : TokenSpan}
  {expr : TypeExpr}

/-! ### Single parts -/

/-- The expression is the one for the type of a parameter, which is a slice if the parameter is
variadic. -/
def ParameterReads (scope : TemplateScope) (param : Definition) (isLast : Bool) (expr : TypeExpr)
    (variadic : Bool) : Prop :=
  ∃ text inner, param.parameterText scope.outer.names isLast = .ok (text, variadic) ∧
    scope.exprOfText text = .ok inner ∧ expr = if variadic then .slice inner else inner

/-- The expressions are those for parameters, and the last is variadic or not. -/
def ParametersRead (scope : TemplateScope) : List Definition → List TypeExpr → Bool → Prop
  | [], [], variadic => variadic = false
  | param :: rest, expr :: exprs, variadic => ∃ own others,
    scope.ParameterReads param rest.isEmpty expr own ∧ scope.ParametersRead rest exprs others ∧
      variadic = (own || others)
  | _, _, _ => False

end TemplateScope

end FrontEnd
