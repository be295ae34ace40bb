import FrontEnd.Build.Session
import FrontEnd.Module.Graph
import FrontEnd.Outline.Item
import FrontEnd.Outline.Source
import FrontEnd.Outline.Typing

/-!
Outlines of graphs, of what parsers give, and of the modules of a build. Those of exported types
lay the types out, which adds to the type tables.
-/

namespace FrontEnd

def ImportGraph.outline (graph : ImportGraph) (modules : List Nat) : Outline :=
  let schedule := graph.schedule
  .record [("len", graph.size), ("is_empty", graph.size == 0),
    ("dependencies", .each (fun m => .numbers (graph.dependencies m)) (List.range graph.size)),
    ("levels", .each .numbers schedule.levels), ("cyclic", .numbers schedule.cyclic),
    ("blocked", .numbers schedule.blocked),
    ("cycles", .each (fun m => .opt .numbers (graph.cycleThrough m)) modules)]

def ImportRef.outline (directive : ImportRef) : Outline :=
  .list [directive.path, directive.span.parts]

/-- What a parser gave for a source. -/
def ParsedSource.outline (parsed : ParsedSource) (source : SourceId) : Outline :=
  .record [("has_errors", parsed.hasErrors), ("tree", .opt (fun tree => tree.dump) parsed.tree),
    ("imports", .each ImportRef.outline parsed.imports),
    ("errors", .each (fun err => .list [err.message, (err.report source).outline])
      parsed.errors)]

def ModuleStamp.outline (stamp : ModuleStamp) : Outline :=
  .list [stamp.path, .opt (fun seconds => seconds) stamp.modified, .each .text stamp.dependencies]

/-- The outlining of types, which lays types out. -/
abbrev OutlineM := StateM TypeContext

namespace Exports

/-- Asks the type tables. -/
def ask (question : TypeContext → Except TypeError α) : OutlineM (Option α) := do
  return (question (← get)).toOption

/-- The layout of a type, or the title of the report that it has none. -/
def layoutOutline (names : Interner) (ty : TypeId) : OutlineM Outline := do
  match ← modifyGet fun ctx => ctx.layoutOf ty with
  | .ok layout => return layout.outline
  | .error err => return ((← get).report names err default .nowhere).title

/-- What a body adds to the outline of a type. -/
def bodyFields (names : Interner) (ty : TypeId) (body : DefBody) :
    OutlineM (List (String × Outline)) := do
  let ctx ← get
  let entry (name : Name) (ty : TypeId) : Outline := .list [name, .text (ctx.display names ty)]
  return [("members", .each (fun m => entry m.name m.type) body.members),
    ("methods", .each (fun m => entry m.name m.signature) body.methods),
    ("order", .each (fun ty => .text (ctx.display names ty)) (ctx.searchOrder ty)),
    ("constants", .each EnumConstant.outline body.constants)]

/-- What a definition adds to the outline of a type. -/
def entryFields (names : Interner) (ty : TypeId) (entry : TypeDef) :
    OutlineM (List (String × Outline)) := do
  let offsets : List (String × Outline) :=
    match ← modifyGet fun ctx => ctx.recordLayoutOf ty with
    | .ok layout => [("offsets", .each (fun offset => .wide offset.toNat) layout.offsets)]
    | .error _ => []
  let body ← match entry.body with
    | some body => bodyFields names ty body
    | none => pure []
  return [("kind", .text entry.kind.keyword),
    ("locator", .opt (fun locator => locator.dump) entry.locator)] ++ offsets ++ body

/-- An exported type. -/
def typeOutline (names : Interner) (ty : TypeId) : OutlineM Outline := do
  let layout ← layoutOutline names ty
  let entry ← ask (·.defOf ty)
  let fields ← match entry.join with
    | some entry => entryFields names ty entry
    | none => pure []
  return .record ([("display", .text ((← get).display names ty)), ("layout", layout)] ++ fields)

/-- An exported template. -/
def templateOutline (name : Name) (id : TemplateId) : OutlineM Outline := do
  let template := (← get).templates.get? id
  return .list [name, id, .opt (fun t => t.required) template,
    .opt (fun t => t.parameters.length) template]

/-- What a module exports, where `declared` are the names that it declares in their order. -/
def outline (exports : Exports) (names : Interner) (declared : List Name) : OutlineM Outline := do
  let types ← declared.filterMapM fun (name : Name) => do
    match exports.types[name]? with
    | some ty => return some (Outline.list [name, ← typeOutline names ty])
    | none => return none
  let templates ← declared.filterMapM fun (name : Name) => do
    match exports.templates[name]? with
    | some id => return some (← templateOutline name id)
    | none => return none
  let ctx ← get
  let function (f : FunctionDecl) : Outline :=
    .list [f.name, .text (ctx.display names f.signature), f.item.index,
      (exports.overloads f.name).length]
  return .record [("type_count", exports.types.size), ("template_count", exports.templates.size),
    ("types", .list types), ("templates", .list templates),
    ("functions", .each function exports.functions)]

end Exports

/-- The names that a module declares directly below the root of its tree. -/
def Module.declaredNames (m : Module) : List Name :=
  match m.tree with
  | some tree => (tree.topDefinitions.map Definition.name).eraseDups
  | none => []

def Module.outline (m : Module) (names : Interner) : OutlineM Outline := do
  return .record [("id", m.id), ("name", m.name), ("path", m.file.path),
    ("status", m.status.label), ("ready", m.isReady),
    ("tree", .opt (fun tree => tree.size) m.tree),
    ("imports", .each ImportRef.outline m.imports),
    ("dependencies", .numbers m.dependencies),
    ("diagnostics", .each Diagnostic.outline m.diagnostics), ("errors", m.errorCount),
    ("exports", ← m.exports.outline names m.declaredNames)]

/-- What a build made, in the session after it. -/
def BuildReport.outline (report : BuildReport) (session : Session) : OutlineM Outline := do
  let modules ← report.modules.mapM fun m => m.outline session.names
  return .record [("modules", .list modules),
    ("levels", .each .numbers report.levels),
    ("unattached", .each Diagnostic.outline report.unattached),
    ("diagnostics", report.diagnostics.length), ("errors", report.errorCount),
    ("has_errors", report.hasErrors),
    ("counts", .each (fun status => report.count status) ModuleStatus.all),
    ("render", .text (report.render session.sources session.names)),
    ("stamps", .each ModuleStamp.outline report.stamps),
    ("specializations", session.types.instances.size),
    ("definitions", session.types.registry.size)]

end FrontEnd
