import FrontEnd.Declaration.Template
import FrontEnd.Diagnostic.Queue

/-!
The declaration of a module: its definitions become types, templates and function signatures. The
pass has four steps, so that declarations may mention each other in any order:

1. nominal definitions are declared, and so have types;
2. templates are registered, and then aliases are resolved in their order;
3. nominal definitions get their bodies;
4. functions get their signatures.

What cannot be resolved is reported and taken for an error, and the pass goes on.
-/

namespace FrontEnd

/-- The module that is declared: its tree, and what its imports export. -/
structure ModuleSource where
  names : Interner
  tree : ItemTree
  imports : List Exports

/-- What the declaration of a module has made so far. -/
structure Declaring where
  types : TypeContext
  queue : DiagnosticQueue
  exports : Exports := {}

/-- The steps of declaring a module. -/
abbrev DeclareM := StateM Declaring

namespace ModuleSource

variable (source : ModuleSource)

/-- The text of a name. -/
def textOf (name : Name) : String := source.names.textOf name

/-- Reports an error. -/
def report (err : DeclareError) (span : TokenSpan) : DeclareM Unit :=
  modify fun state =>
    { state with
      queue := state.queue.push (err.report state.types source.names source.tree.source span) }

/-- Changes the exports. -/
def updateExports (change : Exports → Exports) : DeclareM Unit :=
  modify fun state => { state with exports := change state.exports }

/-- Looks spellings up among what is declared so far. -/
def inScope (steps : Scope → ResolveM α) : DeclareM (Except DeclareError α) := do
  let state ← get
  let (result, types) := (steps ⟨source.names, state.exports, source.imports⟩).run.run state.types
  set { state with types }
  return result

/-- The type of a form. -/
def intern (form : TypeForm) : DeclareM TypeId :=
  modifyGet fun state =>
    let (ty, types) := state.types.intern form
    (ty, { state with types })

/-! ### Types -/

/-- A type, or an error in its place. -/
def orError (span : TokenSpan) (result : Except DeclareError TypeId) : DeclareM TypeId :=
  match result with
  | .ok ty => return ty
  | .error err => do
    source.report err span
    return .error

/-- The type that a text spells. -/
def typeOfText (text : String) (span : TokenSpan) : DeclareM TypeId := do
  source.orError span (← source.inScope fun scope => scope.resolveText text)

/-- The type that a name spells. -/
def typeOfName (spelled : Name) (span : TokenSpan) : DeclareM TypeId :=
  source.typeOfText (source.textOf spelled) span

/-- The type that a definition states. -/
def statedType (stated : Option Name) (owner : Name) (span : TokenSpan) : DeclareM TypeId :=
  match stated with
  | some spelled => source.typeOfName spelled span
  | none => source.orError span (.error (.missingType (source.textOf owner)))

/-- The result of a function. One that states none gives nothing back. -/
def resultType (stated : Option Name) (span : TokenSpan) : DeclareM TypeId :=
  match stated with
  | some spelled => source.typeOfName spelled span
  | none => return .void

/-- The type of a parameter, and whether it is variadic. A variadic parameter is a slice. -/
def parameterType (param : Definition) (isLast : Bool) : DeclareM (TypeId × Bool) :=
  match param.parameterText source.names isLast with
  | .error err => do return (← source.orError param.span (.error err), false)
  | .ok (text, false) => do return (← source.typeOfText text param.span, false)
  | .ok (text, true) => do
    let element ← source.typeOfText text param.span
    return (← intern (.slice element), true)

/-- The types of parameters, and whether the last is variadic. -/
def parameterTypes : List Definition → DeclareM (List TypeId × Bool)
  | [] => return ([], false)
  | param :: rest => do
    let (ty, variadic) ← source.parameterType param rest.isEmpty
    let (types, others) ← parameterTypes rest
    return (ty :: types, variadic || others)

/-- The signature of a function or method. -/
def signature (definition : Definition) : DeclareM TypeId := do
  let (parameters, result) := source.tree.callableParts definition
  let (parameters, variadic) ← source.parameterTypes parameters
  let result ← source.resultType result definition.span
  intern (.function parameters result variadic)

/-! ### Nominal definitions -/

/-- What is declared for a nominal definition. -/
def requestOf (definition : Definition) (kind : DefKind) : DefRequest where
  name := if definition.name = .empty then none else some definition.name
  kind
  locator := (source.tree.locator definition.id definition.node).toOption

/-- Declares a nominal definition, unless its name is taken. -/
def declareNominal (definition : Definition) (kind : DefKind) : DeclareM (Option TypeId) := do
  let name := definition.name
  let state ← get
  if name ≠ .empty && state.exports.declares name then
    source.report (.duplicate name) definition.span
    return none
  match state.types.declare (source.requestOf definition kind) with
  | .error err =>
    source.report (.type err) definition.span
    return none
  | .ok (entry, types) =>
    set { state with types }
    if name ≠ .empty then updateExports (·.addType name entry.type)
    return some entry.type

/-- Declares the nominal definitions that are no templates, and gives those that were declared
with their types. -/
def declareNominals : List Definition → DeclareM (List (Definition × TypeId))
  | [] => return []
  | definition :: rest =>
    match definition.defKind? with
    | none => declareNominals rest
    | some kind =>
      if source.tree.isTemplate definition then declareNominals rest
      else do
        let declared ← source.declareNominal definition kind
        let others ← declareNominals rest
        return (declared.map (definition, ·)).toList ++ others

/-! ### Templates and aliases -/

/-- The argument that stands for a parameter where none is given. -/
def defaultArgument (value : ItemId) (node : ItemNode) : DeclareM (Option TemplateArgument) := do
  match source.tree.rolesOf value node with
  | .textLiteral text =>
    if node.kind ≠ .integerLiteral then
      source.report (.missingType "template default") node.span
      return none
    match literalInteger? (source.textOf text) with
    | some number => return some (.value (.int number))
    | none =>
      source.report (.constantValue (source.textOf text)) node.span
      return none
  | .booleanLiteral truth => return some (.value (.bool truth))
  | .reference spelled =>
    let text := source.textOf spelled
    let state ← get
    match Scope.lookup? ⟨source.names, state.exports, source.imports⟩ text with
    | some (.template id) => return some (.template id)
    | _ => return some (.type (← source.typeOfText text node.span))
  | _ =>
    source.report (.missingType "template default") node.span
    return none

/-- What a parameter stands for. -/
def parameterKind (sort : ParameterSort) (span : TokenSpan) : DeclareM TemplateParamKind :=
  match sort with
  | .type => return .type
  | .variable spelled => do return .value (← source.typeOfName spelled span)
  | .template arity => return .template arity

/-- A parameter of a template. -/
def templateParameter (param : Definition) : DeclareM TemplateParameter := do
  match source.tree.partsOf param with
  | .parameter name sort default =>
    let kind ← source.parameterKind sort param.span
    match default.bind source.tree.definition? with
    | some value => return ⟨name, kind, ← source.defaultArgument value.id value.node⟩
    | none => return ⟨name, kind, none⟩
  | _ => return ⟨.empty, .type, none⟩

/-- The parameters of a template. -/
def templateParameters (definition : Definition) : DeclareM (List TemplateParameter) :=
  let parameters := match source.tree.templateParameters? definition.id with
    | some list => source.tree.childrenOf list (.kind .templateParameter)
    | none => []
  (source.tree.definitions parameters).mapM source.templateParameter

/-- The scope in the body of the template that is registered next. -/
def templateScope (definition : Definition) (parameters : List TemplateParameter)
    (state : Declaring) : TemplateScope where
  outer := ⟨source.names, state.exports, source.imports⟩
  id := state.types.templates.nextId
  name := definition.name
  parameters := parameters.map fun param => source.textOf param.name

/-- Registers a template with the parameters that it has, and reports the errors in its body. -/
def registerTemplate (definition : Definition) (parameters : List TemplateParameter) :
    DeclareM Unit := do
  let state ← get
  let scope := source.templateScope definition parameters state
  let (body, errors) := (scope.body source.tree definition).run []
  let registered := state.types.registerTemplate { name := definition.name, parameters, body }
  if let .ok (_, types) := registered then set { state with types }
  errors.forM fun (err, span) => source.report err span
  match registered with
  | .ok (id, _) => updateExports (·.addTemplate definition.name id)
  | .error err => source.report (.template err) definition.span

/-- Registers a template, unless its name is taken. -/
def declareTemplate (definition : Definition) : DeclareM Unit := do
  let name := definition.name
  if (← get).exports.declares name then
    source.report (.duplicate name) definition.span
    return
  match definition.unsupported? with
  | some subject => source.report (.unsupportedTemplate subject) definition.span
  | none => source.registerTemplate definition (← source.templateParameters definition)

/-- Resolves an alias, unless its name is taken. -/
def declareAlias (definition : Definition) : DeclareM Unit := do
  let name := definition.name
  if (← get).exports.declares name then source.report (.duplicate name) definition.span
  else
    let target ← source.statedType definition.data.typeName name definition.span
    updateExports (·.addType name target)

/-! ### Bodies -/

/-- A data member. -/
def member (field : Definition) : DeclareM Member := do
  return ⟨field.name, ← source.statedType field.data.typeName field.name field.span⟩

/-- A method. -/
def method (definition : Definition) : DeclareM Method := do
  return { name := definition.name, signature := ← source.signature definition }

/-- The value that a constant of an enumeration states, if it states one. -/
def constantValue (constant : Definition) : DeclareM (Option Int) := do
  match source.tree.partsOf constant with
  | .variable _ (some value) =>
    let node := source.tree.node? value
    let stated := match node.map fun node => (node.kind, node.payload) with
      | some (.integerLiteral, payload) => literalInteger? (source.textOf payload.text)
      | _ => none
    if stated.isNone then
      source.report (.constantValue (source.textOf constant.name)) (source.tree.span value)
    return stated
  | _ => return none

/-- The body of a nominal definition. -/
def bodyOf (definition : Definition) : DeclareM DefBody := do
  let tree := source.tree
  let resolve (spelled : Name) := source.typeOfName spelled definition.span
  match tree.partsOf definition with
  | .classDefinition _ base interfaces fields methods =>
    let members ← (tree.definitions fields).mapM source.member
    let base ← base.mapM resolve
    let interfaces ← interfaces.mapM resolve
    return { members, base, interfaces, methods := ← (tree.definitions methods).mapM source.method }
  | .interfaceDefinition data methods =>
    let interfaces ← data.bases.mapM resolve
    return { interfaces, methods := ← (tree.definitions methods).mapM source.method }
  | .enumeration data constants =>
    let index ← match data.typeName with
      | some spelled => resolve spelled
      | none => pure .i32
    let constants ← (tree.definitions constants).mapM fun constant => do
      return (constant.name, ← source.constantValue constant)
    return { indexType := some index, constants := EnumConstant.number constants }
  | .record _ fields => return { members := ← (tree.definitions fields).mapM source.member }
  | _ => return {}

/-- Gives a nominal definition its body. -/
def defineNominal (definition : Definition) (ty : TypeId) : DeclareM Unit := do
  let body ← source.bodyOf definition
  let state ← get
  match state.types.define ty body with
  | .ok types => set { state with types }
  | .error err => source.report (.type err) definition.span

/-! ### The pass -/

/-- Exports a function. -/
def declareFunction (definition : Definition) : DeclareM Unit := do
  let signature ← source.signature definition
  updateExports (·.addFunction ⟨definition.name, signature, definition.id⟩)

/-- The definitions of a kind that are no templates. -/
def plainOf (kind : ItemKind) (definitions : List Definition) : List Definition :=
  definitions.filter fun definition =>
    definition.kind == kind && !source.tree.isTemplate definition

/-- Declares the module. -/
def declare : DeclareM Unit := do
  let definitions := source.tree.topDefinitions
  let pending ← source.declareNominals definitions
  (definitions.filter source.tree.isTemplate).forM source.declareTemplate
  (source.plainOf .typeAliasDefinition definitions).forM source.declareAlias
  pending.forM fun (definition, ty) => source.defineNominal definition ty
  (source.plainOf .functionDefinition definitions).forM source.declareFunction

end ModuleSource

/-- Declares a module: the type tables with its types, the queue with its errors, its exports. -/
def declareModule (source : ModuleSource) (types : TypeContext) (queue : DiagnosticQueue) :
    Declaring :=
  (source.declare.run { types, queue }).2

end FrontEnd
