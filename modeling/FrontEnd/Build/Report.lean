import FrontEnd.Build.Module
import FrontEnd.Diagnostic.Render

/-!
What a build made.
-/

namespace FrontEnd

/-- The modules of a build in the order of their sources. -/
structure BuildReport where
  modules : List Module := []
  /-- The numbers of the modules that reach no cycle, by the depth of their imports. -/
  levels : List (List Nat) := []
  /-- Diagnostics that are of no module. -/
  unattached : List Diagnostic := []

/-- Stamps that were kept of earlier builds, by path. -/
abbrev StampCache := List (String × ModuleStamp)

/-- The stamp kept last under a path. -/
def StampCache.get? (cache : StampCache) (path : String) : Option ModuleStamp :=
  (cache.reverse.find? fun entry => Path.same entry.1 path).map Prod.snd

namespace BuildReport

/-- The first module of a name. -/
def module? (report : BuildReport) (name : Name) : Option Module :=
  report.modules.find? (·.name == name)

/-- The type that the first module exports that has it. The name of one module may stand before
that of the type, with a dot between them. -/
def exportedType? (report : BuildReport) (names : Interner) (path : String) : Option TypeId :=
  let (modules, type) := match path.splitOn "." with
    | first :: second :: rest =>
      (((names.get? first).bind report.module?).toList, ".".intercalate (second :: rest))
    | _ => (report.modules, path)
  (names.get? type).bind fun name => modules.findSome? fun m => m.exports.types[name]?

/-- Every diagnostic, module by module. -/
def diagnostics (report : BuildReport) : List Diagnostic :=
  report.modules.flatMap (·.diagnostics) ++ report.unattached

def errorCount (report : BuildReport) : Nat := (Diagnostic.tally report.diagnostics).1

def hasErrors (report : BuildReport) : Bool := report.errorCount > 0

/-- How many modules have a status. -/
def count (report : BuildReport) (status : ModuleStatus) : Nat :=
  report.modules.countP (·.status == status)

/-- All diagnostics as plain text, with a line that sums them up. -/
def render (report : BuildReport) (sources : SourceRegistry) (names : Interner) : String :=
  let renderer : Renderer := { sources := some (sources, names) }
  let (errors, warnings) := Diagnostic.tally report.diagnostics
  renderer.diagnostics report.diagnostics ++ renderer.summary errors warnings

/-- What a module was built from. -/
def stampOf (report : BuildReport) (m : Module) : ModuleStamp where
  path := m.file.path
  modified := m.file.modified
  checksum := m.file.checksum
  dependencies := m.dependencies.filterMap fun target => report.modules[target]?.map (·.file.path)

/-- The stamps of all modules. -/
def stamps (report : BuildReport) : List ModuleStamp := report.modules.map report.stampOf

/-- The modules of which nothing is kept that still holds. -/
def stale (report : BuildReport) (policy : InvalidationPolicy) (cache : StampCache) :
    List Module :=
  report.modules.filter fun m =>
    let stamp := report.stampOf m
    policy.needsRebuild stamp (cache.get? stamp.path)

end BuildReport

end FrontEnd
