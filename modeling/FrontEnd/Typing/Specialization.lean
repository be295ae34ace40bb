import FrontEnd.Typing.Context

/-!
Specialization: what a template gives for arguments. Instances are kept under their keys, so that
equal requests give the same type. A nominal instance is known before its body is, so that the body
may mention it; what such a request makes is kept only if the whole request succeeds.

Requests are nested at most as deeply as the recursion limit says, and no key occurs twice among
the requests in progress, so every request ends.
-/

namespace FrontEnd

/-- A request in progress. -/
structure Specializer where
  context : TypeContext
  /-- The keys that are being built, outermost first. -/
  chain : List SpecializationKey := []
  /-- What the request has made so far. -/
  pending : List (SpecializationKey × Instance) := []
  /-- The definitions that the request has declared. -/
  declared : List DefId := []

/-- A step of a request. What it did to the tables stays when it fails. -/
abbrev SpecializeM := ExceptT TypeError (StateM Specializer)

/-- A template parameter of a key that is not what the body takes it for. -/
def SpecializationKey.badParam (key : SpecializationKey) (index : Nat) (expected : ArgumentSort) :
    TypeError :=
  .badParamReference key.template index expected

namespace TypeContext

/-- Whether an argument is what a parameter asks for. -/
def accepts (ctx : TypeContext) (kind : TemplateParamKind) (argument : TemplateArgument) : Bool :=
  match kind, argument with
  | .type, .type _ => true
  | .value ty, .value (.bool _) => ctx.pool.unqualified ty == .bool
  | .value ty, .value (.int _) => ctx.pool.unqualified ty != .bool
  | .template arity, .template target => match ctx.templates.get? target with
    | some template => template.required ≤ arity && arity ≤ template.parameters.length
    | none => false
  | _, _ => false

/-- Gives each parameter from a position on its argument or its default. -/
def bindFrom (ctx : TypeContext) (template : TemplateId) (arity : TypeError) (index : Nat) :
    List TemplateParameter → List TemplateArgument → Except TypeError (List TemplateArgument)
  | [], _ => .ok []
  | param :: params, arguments => do
    match arguments.head? <|> param.default with
    | none => throw arity
    | some argument =>
      if ctx.accepts param.kind argument then
        return argument :: (← ctx.bindFrom template arity (index + 1) params (arguments.drop 1))
      else throw (.templateArgumentMismatch template index param.kind.sort argument.sort)

/-- Gives each parameter its argument or its default. -/
def bind (ctx : TypeContext) (id : TemplateId) (template : TemplateDef)
    (arguments : List TemplateArgument) : Except TypeError (List TemplateArgument) :=
  let least := template.required
  let most := template.parameters.length
  let arity := TypeError.templateArityMismatch id least most arguments.length
  if arguments.length < least || most < arguments.length then .error arity
  else ctx.bindFrom id arity 0 template.parameters arguments

end TypeContext

namespace Specializer

/-- How deeply the request is nested. -/
def depth (request : Specializer) : Nat := request.chain.length

/-- The instance of a key, among those of the request first. -/
def find? (request : Specializer) (key : SpecializationKey) : Option Instance :=
  match request.pending.find? (·.1 == key) with
  | some entry => some entry.2
  | none => request.context.instances[key]?

/-- Remembers an instance for the rest of the request. -/
def remember (key : SpecializationKey) (made : Instance) : SpecializeM Unit :=
  modify fun request => { request with pending := request.pending ++ [(key, made)] }

/-- The type of a form. -/
def intern (form : TypeForm) : SpecializeM TypeId :=
  modifyGet fun request =>
    let (ty, context) := request.context.intern form
    (ty, { request with context })

/-- The type with further qualifiers. -/
def qualified (ty : TypeId) (quals : Qualifiers) : SpecializeM TypeId :=
  modifyGet fun request =>
    let (ty, context) := request.context.qualified ty quals
    (ty, { request with context })

/-- The type argument at a position. -/
def typeArgument (key : SpecializationKey) (index : Nat) : Except TypeError TypeId :=
  match key.arguments[index]? with
  | some (.type ty) => .ok ty
  | _ => .error (key.badParam index .type)

/-- The length of an array that the argument at a position gives. -/
def lengthArgument (key : SpecializationKey) (index : Nat) : Except TypeError Nat :=
  match key.arguments[index]? with
  | some (.value (.int value)) =>
    if 0 ≤ value ∧ value < UInt64.size then .ok value.toNat else .error (key.badParam index .value)
  | _ => .error (key.badParam index .value)

/-- The template argument at a position. -/
def templateArgument (key : SpecializationKey) (index : Nat) : Except TypeError TemplateId :=
  match key.arguments[index]? with
  | some (.template id) => .ok id
  | _ => .error (key.badParam index .template)

/-- The argument at a position, of whatever sort. -/
def anyArgument (key : SpecializationKey) (index : Nat) : Except TypeError TemplateArgument :=
  match key.arguments[index]? with
  | some argument => .ok argument
  | none => .error (key.badParam index .type)

section Evaluation

variable (key : SpecializationKey) (apply : TemplateId → List TemplateArgument → SpecializeM TypeId)

mutual

/-- The type that an expression means under a key, where `apply` applies templates. -/
def eval : TypeExpr → SpecializeM TypeId
  | .concrete ty => return ty
  | .param index => typeArgument key index
  | .pointer target => do intern (.pointer (← eval target))
  | .array element length => do intern (.array (← eval element) length)
  | .arrayOfParam element index => do
    let length ← lengthArgument key index
    intern (.array (← eval element) length)
  | .slice element => do intern (.slice (← eval element))
  | .qualified base quals => do qualified (← eval base) quals
  | .function parameters result variadic => do
    let parameters ← evalAll parameters
    intern (.function parameters (← eval result) variadic)
  | .apply template arguments => do apply template (← evalArguments arguments)
  | .applyParam index arguments => do
    let template ← templateArgument key index
    apply template (← evalArguments arguments)

def evalAll : List TypeExpr → SpecializeM (List TypeId)
  | [] => return []
  | expr :: rest => do
    let ty ← eval expr
    return ty :: (← evalAll rest)

/-- The argument that an expression means under a key. -/
def evalArgument : ArgExpr → SpecializeM TemplateArgument
  | .type expr => do return .type (← eval expr)
  | .value value => return .value value
  | .template id => return .template id
  | .param index => anyArgument key index

def evalArguments : List ArgExpr → SpecializeM (List TemplateArgument)
  | [] => return []
  | argument :: rest => do
    let argument ← evalArgument argument
    return argument :: (← evalArguments rest)

end

def evalFields : List FieldExpr → SpecializeM (List Member)
  | [] => return []
  | field :: rest => do
    let type ← eval key apply field.type
    return ⟨field.name, type⟩ :: (← evalFields rest)

def evalMethods : List MethodExpr → SpecializeM (List Method)
  | [] => return []
  | method :: rest => do
    let parameters ← evalAll key apply method.parameters
    let result ← eval key apply method.result
    let signature ← intern (.function parameters result false)
    return { name := method.name, signature } :: (← evalMethods rest)

/-- The body of the definition that a template makes. -/
def evalBody : TemplateBody → SpecializeM DefBody
  | .struct fields | .union fields => do return { members := ← evalFields key apply fields }
  | .classType base fields methods => do
    let members ← evalFields key apply fields
    let base ← match base with
      | some base => some <$> eval key apply base
      | none => pure none
    return { members, base, methods := ← evalMethods key apply methods }
  | .synonym _ | .function .. => return {}

end Evaluation

/-- Runs steps inside of a key. -/
def nested (key : SpecializationKey) (steps : SpecializeM α) : SpecializeM α := fun request =>
  let (result, after) := steps { request with chain := request.chain ++ [key] }
  (result, { after with chain := request.chain })

/-- Declares the definition of a nominal instance. -/
def reserve (name : Name) (kind : DefKind) (key : SpecializationKey) : SpecializeM TypeDef := do
  let request ← get
  match request.context.declare { name := some name, kind, specialization := some key } with
  | .error err => throw err
  | .ok (entry, context) =>
    set { request with context, declared := request.declared ++ [entry.id] }
    return entry

/-- Gives a reserved definition its body. -/
def complete (id : DefId) (body : DefBody) : SpecializeM Unit := do
  let request ← get
  match request.context.defineId id body with
  | .error err => throw (.registry err)
  | .ok context => set { request with context }

/-- Takes the type out of an instance that is one. -/
def requireType (template : TemplateId) (made : Instance) : Except TypeError TypeId :=
  match made with
  | .type ty => .ok ty
  | .function _ => .error (.notATypeTemplate template)

/-- Takes the function out of an instance that is one. -/
def requireFunction (template : TemplateId) (made : Instance) :
    Except TypeError FunctionInstance :=
  match made with
  | .function made => .ok made
  | .type _ => .error (.notAFunctionTemplate template)

/-- Makes the instance of a key, where `apply` applies templates. -/
def make (key : SpecializationKey) (template : TemplateDef)
    (apply : TemplateId → List TemplateArgument → SpecializeM TypeId) : SpecializeM Instance :=
  match template.body with
  | .synonym target => do
    let ty ← nested key (eval key apply target)
    remember key (.type ty)
    return .type ty
  | .function parameters result variadic => do
    let signature ← nested key do
      let parameters ← evalAll key apply parameters
      let result ← eval key apply result
      intern (.function parameters result variadic)
    remember key (.function ⟨key, signature⟩)
    return .function ⟨key, signature⟩
  | .struct _ | .union _ | .classType .. => do
    let entry ← reserve template.name (template.body.defKind?.getD .struct) key
    remember key (.type entry.type)
    let body ← nested key (evalBody key apply template.body)
    complete entry.id body
    return .type entry.type

/-- The instance of a template for arguments, with so many more levels of nesting allowed. -/
def specializeWithin : (budget : Nat) → TemplateId → List TemplateArgument → SpecializeM Instance
  | budget, id, arguments => do
    let request ← get
    match request.context.templates.get? id with
    | none => throw (.unknownTemplate id)
    | some template =>
      let key : SpecializationKey := ⟨id, ← request.context.bind id template arguments⟩
      match request.find? key with
      | some made => return made
      | none =>
        let refused := TypeError.recursionLimitExceeded request.context.config.recursionLimit
          (request.chain ++ [key])
        match budget with
        | 0 => throw refused
        | budget + 1 =>
          if key ∈ request.chain then throw refused
          else make key template fun id arguments => do
            requireType id (← specializeWithin budget id arguments)

/-- Keeps what a request made. -/
def publish (request : Specializer) : Specializer :=
  let instances := request.pending.foldl (fun kept (key, made) => kept.insert key made)
    request.context.instances
  { request with context := { request.context with instances }, pending := [], declared := [] }

/-- Takes back the definitions that a request declared. -/
def withdraw (request : Specializer) : Specializer :=
  let registry := request.declared.foldl
    (fun registry id => (registry.withdraw id).toOption.getD registry) request.context.registry
  { request with context := { request.context with registry }, pending := [], declared := [] }

/-- The instance of a template for arguments. A request that fails leaves nothing behind but types
in the pool and ids that are not given out again. -/
def specialize (request : Specializer) (id : TemplateId) (arguments : List TemplateArgument) :
    Except TypeError Instance × Specializer :=
  let budget := request.context.config.recursionLimit - request.depth
  match (specializeWithin budget id arguments).run.run request with
  | (.ok made, request) => (.ok made, request.publish)
  | (.error err, request) => (.error err, request.withdraw)

end Specializer

namespace TypeContext

/-- The instance of a template for arguments. -/
def specialize (ctx : TypeContext) (id : TemplateId) (arguments : List TemplateArgument) :
    Except TypeError Instance × TypeContext :=
  let (result, request) := Specializer.specialize { context := ctx } id arguments
  (result, request.context)

/-- The type that a template gives for arguments. -/
def specializeType (ctx : TypeContext) (id : TemplateId) (arguments : List TemplateArgument) :
    Except TypeError TypeId × TypeContext :=
  let (result, ctx) := ctx.specialize id arguments
  (result.bind (Specializer.requireType id), ctx)

/-- The function that a template gives for arguments. -/
def specializeFunction (ctx : TypeContext) (id : TemplateId)
    (arguments : List TemplateArgument) : Except TypeError FunctionInstance × TypeContext :=
  let (result, ctx) := ctx.specialize id arguments
  (result.bind (Specializer.requireFunction id), ctx)

end TypeContext

end FrontEnd
