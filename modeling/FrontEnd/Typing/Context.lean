import FrontEnd.Typing.Definition
import FrontEnd.Typing.Pool
import FrontEnd.Typing.Template

/-!
The type tables of a session: the pool of types, the definitions behind nominal types, the
templates with the instances made of them, and the layouts found so far.
-/

namespace FrontEnd

/-- Settings of the type tables. -/
structure TypeConfig where
  /-- How deeply specializations may be nested. -/
  recursionLimit : Nat := 256
  /-- The size and alignment of a pointer in bytes. -/
  pointerSize : UInt64 := 8
  deriving DecidableEq, Inhabited

/-- Size and alignment in bytes. -/
structure TypeLayout where
  size : UInt64
  align : UInt64
  deriving DecidableEq, Inhabited

/-- A function template applied to arguments. -/
structure FunctionInstance where
  key : SpecializationKey
  /-- The function type of the instance. -/
  signature : TypeId
  deriving DecidableEq

/-- What a template gives when it is applied. -/
inductive Instance where
  | type (ty : TypeId)
  | function (instance_ : FunctionInstance)
  deriving DecidableEq

/-- The type tables. -/
structure TypeContext where
  config : TypeConfig := {}
  pool : TypePool := .new
  registry : TypeRegistry := {}
  templates : TemplateRegistry := {}
  /-- The instances of templates whose requests succeeded. -/
  instances : Std.HashMap SpecializationKey Instance := {}
  /-- The layouts found so far. -/
  layouts : Std.HashMap TypeId TypeLayout := {}

namespace TypeContext

/-- The type of a form. -/
def intern (ctx : TypeContext) (form : TypeForm) : TypeId × TypeContext :=
  let (ty, pool) := ctx.pool.intern form
  (ty, { ctx with pool })

/-- The type with further qualifiers. -/
def qualified (ctx : TypeContext) (ty : TypeId) (quals : Qualifiers) : TypeId × TypeContext :=
  let (ty, pool) := ctx.pool.qualified ty quals
  (ty, { ctx with pool })

/-- The definition behind a nominal type, looking through qualifiers. -/
def defOf (ctx : TypeContext) (ty : TypeId) : Except TypeError (Option TypeDef) := do
  match ← ctx.pool.form (ctx.pool.unqualified ty) with
  | .nominal _ id => return ctx.registry.get? id
  | _ => return none

/-- The body of a nominal type. Other types have none, and some have none yet. -/
def bodyOf (ctx : TypeContext) (ty : TypeId) : Except TypeError (Option DefBody) := do
  return (← ctx.defOf ty).bind (·.body)

/-- The template and arguments that a nominal type is an instance of. -/
def specializationOf (ctx : TypeContext) (ty : TypeId) :
    Except TypeError (Option SpecializationKey) := do
  return (← ctx.defOf ty).bind (·.specialization)

/-- Declares a nominal type without a body. -/
def declare (ctx : TypeContext) (request : DefRequest) :
    Except TypeError (TypeDef × TypeContext) :=
  match ctx.registry.checkName request with
  | .error err => .error (.registry err)
  | .ok () =>
    let (ty, ctx) := ctx.intern (.nominal request.kind ctx.registry.nextId)
    let (entry, registry) := ctx.registry.push request ty
    .ok (entry, { ctx with registry })

/-- Gives a definition its body. -/
def defineId (ctx : TypeContext) (id : DefId) (body : DefBody) :
    Except RegistryError TypeContext := do
  let registry ← ctx.registry.define id body
  return { ctx with registry }

/-- Gives a declared type its body. -/
def define (ctx : TypeContext) (ty : TypeId) (body : DefBody) : Except TypeError TypeContext := do
  match ← ctx.defOf ty with
  | none => throw (.incompleteType ty)
  | some entry => match ctx.defineId entry.id body with
    | .ok ctx => return ctx
    | .error err => throw (.registry err)

/-- Declares a type and gives it its body at once. -/
def introduce (ctx : TypeContext) (request : DefRequest) (body : DefBody) :
    Except TypeError (TypeId × TypeContext) := do
  let (entry, ctx) ← ctx.declare request
  return (entry.type, ← ctx.define entry.type body)

/-- Registers a template. -/
def registerTemplate (ctx : TypeContext) (template : TemplateDef) :
    Except TemplateDefError (TemplateId × TypeContext) := do
  let (id, templates) ← ctx.templates.register template
  return (id, { ctx with templates })

end TypeContext

end FrontEnd
