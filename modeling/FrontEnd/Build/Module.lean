import FrontEnd.Declaration.Exports
import FrontEnd.Diagnostic.Queue
import FrontEnd.Module.Stamp
import FrontEnd.Module.Syntax

/-!
Modules in a build: a source with all that the build found out about it.
-/

namespace FrontEnd

/-- How far a module got. -/
inductive ModuleStatus where
  /-- There is a tree, and the declarations are still to be made. -/
  | parsed
  /-- Declared without errors. -/
  | ready
  /-- The module has errors. -/
  | failed
  /-- The module imports one that is not ready. -/
  | blocked
  deriving DecidableEq, Inhabited

namespace ModuleStatus

/-- The statuses in the order in which they are counted. -/
def all : List ModuleStatus := [parsed, ready, failed, blocked]

/-- The name of a status. -/
def label : ModuleStatus → String
  | .parsed => "Parsed"
  | .ready => "Ready"
  | .failed => "Failed"
  | .blocked => "Blocked"

end ModuleStatus

/-- An import whose module is part of the build. -/
structure ModuleLink where
  directive : ImportRef
  /-- The number of the imported module. -/
  target : Nat
  deriving DecidableEq

/-- A module of a build. -/
structure Module where
  file : SourceFile
  /-- The name that the tree gives, or that of the file. -/
  name : Name
  tree : Option ItemTree := none
  imports : List ImportRef := []
  links : List ModuleLink := []
  status : ModuleStatus := .failed
  /-- The diagnostics while the build runs. -/
  queue : DiagnosticQueue
  /-- The diagnostics in order, once the build has ended. -/
  diagnostics : List Diagnostic := []
  exports : Exports := {}

namespace Module

def id (m : Module) : SourceId := m.file.id

/-- The numbers of the imported modules, in import order and as often as they are imported. -/
def dependencies (m : Module) : List Nat := m.links.map (·.target)

def isReady (m : Module) : Bool := m.status == .ready

/-- The root of the tree, the empty span if there is no tree. -/
def rootSpan (m : Module) : TokenSpan :=
  match m.tree with
  | some tree => tree.span tree.root
  | none => .nowhere

/-- Adds a diagnostic. -/
def report (m : Module) (diag : Diagnostic) : Module :=
  { m with queue := m.queue.push diag }

/-- Adds a diagnostic that keeps the module from being declared. -/
def fail (m : Module) (diag : Diagnostic) : Module :=
  { m.report diag with status := .failed }

/-- Settles the status and sorts the diagnostics. -/
def finish (m : Module) : Module :=
  { m with
    status := if m.queue.hasErrors && m.status != .blocked then .failed else m.status
    diagnostics := m.queue.flush.1 }

def errorCount (m : Module) : Nat := (Diagnostic.tally m.diagnostics).1

end Module

/-- The report of a lexer's fault. Lexers know bytes and no tokens, so that it points to the file as
a whole. -/
def LexError.report (err : LexError) (source : SourceId) : Diagnostic :=
  let code : ErrorCode := if err.unterminated then .strayCharacter else .unterminated
  (Diagnostic.error code err.message).withLabel source .nowhere "in this file"

/-- The report of a source that is not given. -/
def SourceError.report (err : SourceError) : Diagnostic :=
  let code : ErrorCode := match err with
    | .unreadable .. => .unreadableSource
    | _ => .outsideSource
  .error code (Fault.message err)

/-- The report of a tree whose root is no module. -/
def InvalidCast.report (cast : InvalidCast) (source : SourceId) (span : TokenSpan) : Diagnostic :=
  (Diagnostic.error .invalidCast s!"tree root is not a module: {Fault.message cast}").withLabel
    source span "parsed from here"

namespace Module

/-- A module of which nothing but the file is known. -/
def ofFile (file : SourceFile) (name : Name) (queue : DiagnosticQueue) : Module :=
  { file, name, queue }

/-- The module with the tree that was parsed, unless the root of the tree is no module. -/
def withTree (m : Module) (tree : ItemTree) : Module :=
  match tree.node? tree.root with
  | none => m
  | some root => match ItemTree.cast tree.root root (.kind .module) with
    | .error cast => m.report (cast.report m.id root.span)
    | .ok _ => match root.payload with
      | .module name =>
        { m with tree, status := .parsed, name := if name = .empty then m.name else name }
      | _ => { m with tree, status := .parsed }

/-- The module with what its parser gave. -/
def withParsed (m : Module) (parsed : ParsedSource) : Module :=
  let reported := parsed.errors.foldl (fun m err => m.report (err.report m.id)) m
  let m := { reported with imports := parsed.imports }
  match parsed.tree with
  | some tree => m.withTree tree
  | none => m

end Module

end FrontEnd
