import FrontEnd.Name.Interner
import FrontEnd.Typing.Context

/-!
The text of types, as a source would spell them. What no source can spell, such as an anonymous
type, is shown between angle brackets.
-/

namespace FrontEnd

namespace TypeContext

/-- The name of a template. -/
def templateName (ctx : TypeContext) (names : Interner) (id : TemplateId) : String :=
  match ctx.templates.get? id with
  | some template => names.textOf template.name
  | none => "<unknown template>"

/-- The text of an argument, where `type` gives that of types. -/
def argumentText (ctx : TypeContext) (names : Interner) (type : TypeId → String) :
    TemplateArgument → String
  | .type ty => type ty
  | .value value => value.text
  | .template id => ctx.templateName names id

/-- The text of a key, where `type` gives that of types. -/
def keyText (ctx : TypeContext) (names : Interner) (type : TypeId → String)
    (key : SpecializationKey) : String :=
  ctx.templateName names key.template ++ "<" ++
    ", ".intercalate (key.arguments.map (ctx.argumentText names type)) ++ ">"

/-- The text of a definition. A withdrawn one is an error. -/
def defText (ctx : TypeContext) (names : Interner) (type : TypeId → String) (kind : DefKind)
    (id : DefId) : String :=
  match ctx.registry.get? id with
  | none => "<error>"
  | some entry => match entry.specialization, entry.name with
    | some key, _ => ctx.keyText names type key
    | none, some name => names.textOf name
    | none, none => s!"<anonymous {kind.keyword}#{id.index}>"

/-- The texts of parameters, with dots before the last if it is variadic. -/
def parameterTexts (type : TypeId → String) (variadic : Bool) : List TypeId → List String
  | [] => []
  | [last] => [if variadic then "..." ++ type last else type last]
  | first :: rest => type first :: parameterTexts type variadic rest

/-- The text of a form, where `type` gives that of its parts. -/
def formText (ctx : TypeContext) (names : Interner) (type : TypeId → String) : TypeForm → String
  | .nominal kind id => ctx.defText names type kind id
  | .pointer target => "*" ++ type target
  | .array element length => "[" ++ type element ++ "; " ++ toString length ++ "]"
  | .slice element => "[" ++ type element ++ "]"
  | .function parameters result variadic =>
    let result := if result = .void then "" else " -> " ++ type result
    "func(" ++ ", ".intercalate (parameterTexts type variadic parameters) ++ ")" ++ result
  | .qualified base quals => quals.text ++ " " ++ type base
  | .param template index =>
    let param := (ctx.templates.get? template).bind fun template => template.parameters[index]?
    match param with
    | some param => names.textOf param.name
    | none => s!"T{index}"
  | .void | .bool | .int .. | .float _ | .error => "<error>"

/-- The text of a type that is built in at most `depth` steps. -/
def textWithin (ctx : TypeContext) (names : Interner) : (depth : Nat) → TypeId → String
  | 0, _ => ""
  | depth + 1, ty => match ty.primitiveName? with
    | some name => name
    | none => match ctx.pool.form? ty with
      | none => "<error>"
      | some form => ctx.formText names (ctx.textWithin names depth) form

/-- The text of a type. No type is built in more steps than there are types. -/
def display (ctx : TypeContext) (names : Interner) (ty : TypeId) : String :=
  ctx.textWithin names (ctx.pool.size + 1) ty

/-- The text of a key. -/
def displayKey (ctx : TypeContext) (names : Interner) (key : SpecializationKey) : String :=
  ctx.keyText names (ctx.display names) key

end TypeContext

end FrontEnd
