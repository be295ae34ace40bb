import FrontEnd.Build.Link
import FrontEnd.Build.Report
import FrontEnd.Declaration.Pass

/-!
Sessions: the tables that all phases share, and the build that goes through the phases.

1. Every source is lexed and parsed.
2. Imports are linked, and the modules are sorted by the depth of their imports.
3. Modules are declared level by level, each after all that it imports.

A module with errors fails, those that import it are blocked, and all others go on.
-/

namespace FrontEnd

/-- The settings of a session. -/
structure SessionConfig where
  types : TypeConfig := {}
  /-- What the queue of each module refuses. -/
  diagnostics : QueueConfig := {}
  invalidation : InvalidationPolicy := default

/-- The tables of a session. -/
structure Session where
  config : SessionConfig := {}
  names : Interner := .new
  sources : SourceRegistry := {}
  types : TypeContext := {}

/-- The state of a build in its last phase. -/
structure Building where
  modules : Modules
  types : TypeContext

namespace Building

/-- Whether all that a module imports is ready. -/
def importsReady (building : Building) (m : Module) : Bool :=
  m.dependencies.all fun target => (building.modules[target]?.map (·.isReady)).getD false

/-- What the imports of a module export, in import order. -/
def importsOf (building : Building) (m : Module) : List Exports :=
  m.dependencies.filterMap fun target => building.modules[target]?.map (·.exports)

/-- Declares a module from its tree. -/
def declareTree (building : Building) (names : Interner) (index : Nat) (m : Module)
    (tree : ItemTree) : Building :=
  let made := declareModule ⟨names, tree, building.importsOf m⟩ building.types m.queue
  let m := { m with
    exports := made.exports
    queue := made.queue
    status := if made.queue.hasErrors then .failed else .ready }
  ⟨building.modules.modify index fun _ => m, made.types⟩

/-- Declares a module that is waiting for it, or blocks the module if an import is not ready. -/
def declare (names : Interner) (building : Building) (index : Nat) : Building :=
  match building.modules[index]? with
  | none => building
  | some m =>
    if m.status ≠ .parsed then building
    else if !building.importsReady m then
      { building with modules := building.modules.block index }
    else match m.tree with
      | some tree => building.declareTree names index m tree
      | none => building

end Building

namespace Session

/-- A session with nothing in it. -/
def new (config : SessionConfig) : Session := { config, types := { config := config.types } }

/-- The name of a file, without its extension. -/
def stemName (names : Interner) (file : SourceFile) : Name × Interner :=
  match Path.fileStem? file.path with
  | none => (.empty, names)
  | some stem =>
    let (name, names) := names.intern stem
    (name.toOption.getD .empty, names)

/-- Lexes and parses a source. -/
def parseFile (session : Session) (lexer : Lexer) (parser : Parser) (file : SourceFile) :
    Module × Session :=
  let (name, names) := stemName session.names file
  let m : Module := .ofFile file name { config := session.config.diagnostics }
  match session.sources.lexWith file lexer names with
  | (.error errs, sources, names) =>
    (errs.foldl (fun m err => m.report (err.report m.id)) m, { session with names, sources })
  | (.ok tokens, sources, names) =>
    let (parsed, names) := parser.parse names file tokens.stream
    (m.withParsed parsed, { session with names, sources })

/-- Lexes and parses sources one after the other. -/
def parseFiles (session : Session) (lexer : Lexer) (parser : Parser) :
    List SourceFile → List Module × Session
  | [] => ([], session)
  | file :: rest =>
    let (m, session) := session.parseFile lexer parser file
    let (others, session) := session.parseFiles lexer parser rest
    (m :: others, session)

/-- The sources of some ids, each once. -/
def filesOf (session : Session) (ids : List SourceId) : List SourceFile :=
  ids.eraseDups.filterMap fun id => (session.sources.file id).toOption

/-- The reports of the ids that no source has. -/
def unknownOf (session : Session) (ids : List SourceId) : List Diagnostic :=
  ids.eraseDups.filterMap fun id => match session.sources.file id with
    | .ok _ => none
    | .error err => some err.report

/-- Links, schedules and declares modules that are parsed. -/
def process (session : Session) (modules : Modules) : Building × Schedule :=
  let linked := modules.link session.names
  let graph := linked.graph
  let schedule := graph.schedule
  let settled := linked.settleCycles session.names graph schedule
  (schedule.levels.flatten.foldl (Building.declare session.names) ⟨settled, session.types⟩,
    schedule)

/-- Builds the sources of some ids. -/
def build (session : Session) (lexer : Lexer) (parser : Parser) (ids : List SourceId) :
    BuildReport × Session :=
  let (modules, parsed) := session.parseFiles lexer parser (session.filesOf ids)
  let (building, schedule) := parsed.process modules.toArray
  let report : BuildReport := {
    modules := building.modules.toList.map Module.finish
    levels := schedule.levels
    unattached := session.unknownOf ids }
  (report, { parsed with types := building.types })

end Session

end FrontEnd
