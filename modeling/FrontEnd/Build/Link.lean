import FrontEnd.Build.Module
import FrontEnd.Module.Graph

/-!
Linking: imports name modules, and the first module of a name is meant. Later ones of the same name
fail, and so does a module with an import of a name that no module has. Modules on a cycle of
imports fail too; those behind one are blocked.
-/

namespace FrontEnd

namespace Module

/-- The report that a name is that of an earlier module. -/
def duplicateReport (m : Module) (names : Interner) : Diagnostic :=
  (Diagnostic.error .duplicateDefinition
    s!"module `{names.textOf m.name}` is defined more than once").withLabel
    m.id m.rootSpan "second definition"

/-- The report that no module has the name of an import. -/
def unresolvedReport (m : Module) (names : Interner) (directive : ImportRef) : Diagnostic :=
  (Diagnostic.error .unresolvedImport
    s!"unresolved import `{names.textOf directive.path}`").withLabel
    m.id directive.span "no module with this name in the build"

/-- The report of a cycle of imports that a module lies on. -/
def cycleReport (m : Module) (names : List String) (span : TokenSpan) : Diagnostic :=
  let way := " -> ".intercalate (names.map fun name => "`" ++ name ++ "`")
  (Diagnostic.error .importCycle s!"import cycle: {way}").withLabel m.id span
    "this import closes the cycle"

/-- Links an import to the module that it means, if there is one. -/
def link (names : Interner) (target? : Name → Option Nat) (m : Module) (directive : ImportRef) :
    Module :=
  match target? directive.path with
  | some target => { m with links := m.links ++ [⟨directive, target⟩] }
  | none => m.fail (m.unresolvedReport names directive)

end Module

/-- The modules of a build, by number. -/
abbrev Modules := Array Module

namespace Modules

/-- The first module of a name. -/
def named? (modules : Modules) (name : Name) : Option Nat :=
  modules.findIdx? fun m => m.name == name

/-- Fails the modules whose name is that of an earlier one. -/
def failDuplicates (modules : Modules) (names : Interner) : Modules :=
  modules.mapIdx fun index m =>
    if modules.named? m.name = some index then m else m.fail (m.duplicateReport names)

/-- Links the imports of all modules. -/
def link (modules : Modules) (names : Interner) : Modules :=
  (modules.failDuplicates names).map fun m => m.imports.foldl (Module.link names modules.named?) m

/-- The graph of the linked imports. -/
def graph (modules : Modules) : ImportGraph :=
  .ofEdges modules.size <| modules.toList.zipIdx.flatMap fun (m, index) =>
    m.dependencies.map fun target => (index, target)

/-- Fails a module that lies on a cycle of imports. The import that leads along the cycle is
pointed to. -/
def failCycle (names : Interner) (graph : ImportGraph) (modules : Modules) (index : Nat) :
    Modules :=
  match graph.cycleThrough index with
  | none => modules
  | some cycle =>
    let way := cycle.filterMap fun step => modules[step]?.map fun m => names.textOf m.name
    modules.modify index fun m =>
      let next := m.links.find? fun link => some link.target == cycle[1]?
      m.fail (m.cycleReport way ((next.map (·.directive.span)).getD .nowhere))

/-- Blocks a module. -/
def block (modules : Modules) (index : Nat) : Modules :=
  modules.modify index fun m => { m with status := .blocked }

/-- Settles the modules that reach a cycle. -/
def settleCycles (modules : Modules) (names : Interner) (graph : ImportGraph)
    (schedule : Schedule) : Modules :=
  schedule.blocked.foldl block (schedule.cyclic.foldl (failCycle names graph) modules)

end Modules

end FrontEnd
