import FrontEnd.Declaration.Error
import FrontEnd.Declaration.Exports
import FrontEnd.Spelling.Reader
import FrontEnd.Typing.Specialization

/-!
What spellings mean where a declaration stands. A name means a primitive type first, then what the
module itself declares, then what the imports do, in their order. In the body of a template the
names of its parameters come before all of these.

A spelling outside of templates is resolved to a type at once. In the body of a template it becomes
a type expression, which gives a type when the template is applied.
-/

namespace FrontEnd

/-- The names that are visible to a declaration. -/
structure Scope where
  names : Interner
  /-- What the module has declared so far. -/
  own : Exports
  imports : List Exports

/-- The steps of resolving a spelling, which may add types to the tables. -/
abbrev ResolveM := ExceptT DeclareError (StateM TypeContext)

namespace Scope

/-- What a name means, primitive types aside. -/
def lookup? (scope : Scope) (text : String) : Option ScopeEntry :=
  (scope.names.get? text).bind fun name =>
    (scope.own :: scope.imports).findSome? fun exports => exports.lookup? name

/-- The template that a spelling names without giving arguments. -/
def bareTemplate? (scope : Scope) : Spelling → Option TemplateId
  | .named name => match scope.lookup? name with
    | some (.template id) => some id
    | _ => none
  | _ => none

/-- The type of a form. -/
def intern (form : TypeForm) : ResolveM TypeId :=
  modifyGet fun ctx => ctx.intern form

/-- The type with further qualifiers. -/
def qualified (ty : TypeId) (quals : Qualifiers) : ResolveM TypeId :=
  modifyGet fun ctx => ctx.qualified ty quals

/-- The type that a template gives for arguments. -/
def specialize (id : TemplateId) (arguments : List TemplateArgument) : ResolveM TypeId := do
  let (result, ctx) := (← get).specializeType id arguments
  set ctx
  match result with
  | .ok ty => return ty
  | .error err => throw (.type err)

/-- The type that a name means, where `arguments` gives those of a template. -/
def resolveName (scope : Scope) (name : String) (isBare : Bool)
    (arguments : ResolveM (List TemplateArgument)) : ResolveM TypeId :=
  match scope.lookup? name with
  | some (.type ty) => if isBare then return ty else throw (.notATemplate name)
  | some (.template id) => do specialize id (← arguments)
  | none => throw (.unknownType name)

mutual

/-- The type that a spelling means. A template without arguments takes its defaults. -/
def resolve (scope : Scope) : Spelling → ResolveM TypeId
  | .pointer target => do intern (.pointer (← resolve scope target))
  | .slice element => do intern (.slice (← resolve scope element))
  | .array element (.literal length) => do intern (.array (← resolve scope element) length)
  | .array _ (.parameter name) => throw (.unknownType name)
  | .qualified base quals => do qualified (← resolve scope base) quals
  | .named name => match TypeId.ofPrimitiveName? name with
    | some ty => return ty
    | none => scope.resolveName name true (return [])
  | .applied name arguments =>
    scope.resolveName name false (resolveArguments scope arguments)

/-- The argument that a spelling means. The bare name of a template is the template itself. -/
def resolveArgument (scope : Scope) : SpelledArgument → ResolveM TemplateArgument
  | .int value => return .value (.int value)
  | .bool value => return .value (.bool value)
  | .type spelling => match scope.bareTemplate? spelling with
    | some id => return .template id
    | none => do return .type (← resolve scope spelling)

def resolveArguments (scope : Scope) : List SpelledArgument → ResolveM (List TemplateArgument)
  | [] => return []
  | argument :: rest => do
    let argument ← resolveArgument scope argument
    return argument :: (← resolveArguments scope rest)

end

/-- The type that a text spells. -/
def resolveText (scope : Scope) (text : String) : ResolveM TypeId :=
  match Spelling.ofText text with
  | .ok spelling => scope.resolve spelling
  | .error cause => throw (.malformed text cause)

end Scope

/-- The scope in the body of a template. -/
structure TemplateScope where
  outer : Scope
  /-- The template itself. -/
  id : TemplateId
  name : Name
  /-- The names of the parameters. -/
  parameters : List String

namespace TemplateScope

/-- The position of a parameter. Sixteen bits hold it. -/
def parameter? (scope : TemplateScope) (name : String) : Option Nat :=
  (scope.parameters.findIdx? (· == name)).filter (· < 65536)

/-- What a name means that is not a parameter. -/
def lookup? (scope : TemplateScope) (text : String) : Option ScopeEntry :=
  if scope.outer.names.get? text = some scope.name then some (.template scope.id)
  else scope.outer.lookup? text

/-- The parameter that a spelling names without giving arguments. -/
def bareParameter? (scope : TemplateScope) : Spelling → Option Nat
  | .named name => scope.parameter? name
  | _ => none

/-- The expression for a name that is not a parameter, where `arguments` gives those of a
template. -/
def exprOfName (scope : TemplateScope) (name : String) (isBare : Bool)
    (arguments : Except DeclareError (List ArgExpr)) : Except DeclareError TypeExpr :=
  match scope.lookup? name with
  | some (.type ty) => if isBare then .ok (.concrete ty) else .error (.notATemplate name)
  | some (.template id) => arguments.map (.apply id)
  | none => .error (.unknownType name)

mutual

/-- The expression for a spelling. -/
def expr (scope : TemplateScope) : Spelling → Except DeclareError TypeExpr
  | .pointer target => do return .pointer (← expr scope target)
  | .slice element => do return .slice (← expr scope element)
  | .array element (.literal length) => do return .array (← expr scope element) length
  | .array element (.parameter name) => do
    let element ← expr scope element
    match scope.parameter? name with
    | some index => return .arrayOfParam element index
    | none => throw (.unknownType name)
  | .qualified base quals => do return .qualified (← expr scope base) quals
  | .named name => match scope.parameter? name with
    | some index => .ok (.param index)
    | none => match TypeId.ofPrimitiveName? name with
      | some ty => .ok (.concrete ty)
      | none => scope.exprOfName name true (.ok [])
  | .applied name arguments => match scope.parameter? name with
    | some index => do return .applyParam index (← argumentExprs scope arguments)
    | none => scope.exprOfName name false (argumentExprs scope arguments)

/-- The expression for an argument. -/
def argumentExpr (scope : TemplateScope) : SpelledArgument → Except DeclareError ArgExpr
  | .int value => .ok (.value (.int value))
  | .bool value => .ok (.value (.bool value))
  | .type spelling => match scope.bareParameter? spelling with
    | some index => .ok (.param index)
    | none => match scope.outer.bareTemplate? spelling with
      | some id => .ok (.template id)
      | none => do return .type (← expr scope spelling)

def argumentExprs (scope : TemplateScope) : List SpelledArgument →
    Except DeclareError (List ArgExpr)
  | [] => .ok []
  | argument :: rest => do
    let argument ← argumentExpr scope argument
    return argument :: (← argumentExprs scope rest)

end

/-- The expression for a text. -/
def exprOfText (scope : TemplateScope) (text : String) : Except DeclareError TypeExpr :=
  match Spelling.ofText text with
  | .ok spelling => scope.expr spelling
  | .error cause => .error (.malformed text cause)

end TemplateScope

end FrontEnd
