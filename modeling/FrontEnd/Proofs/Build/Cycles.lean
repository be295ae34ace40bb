import FrontEnd.Proofs.Build.Silence
import FrontEnd.Proofs.Module.Cycle

/-!
What a build tells of cycles of imports. Until the modules on a cycle are settled no queue keeps a
report of a cycle, and then each of these modules gets one, unless its queue keeps no further
errors. Nothing that comes later touches it.
-/

namespace FrontEnd

/-! ### The last report of a queue -/

namespace DiagnosticQueue

variable {queue : DiagnosticQueue} {diag : Diagnostic}

/-- The code is neither that of a cycle nor that of dropped errors. -/
def IsOther (code : ErrorCode) : Prop := code ≠ .importCycle ∧ code ≠ .tooManyErrors

instance : DecidablePred IsOther := fun _ => inferInstanceAs (Decidable (_ ∧ _))

/-- Neither a cycle nor dropped errors are reported yet. -/
def Early (queue : DiagnosticQueue) : Prop := ∀ diag ∈ queue.kept, IsOther diag.code

theorem Early.push (early : queue.Early) (other : IsOther diag.code) :
    (queue.push diag).Early := by
  intro kept listed
  rcases of_mem_kept_push listed with before | rfl
  · exact early kept before
  · exact other

end DiagnosticQueue

/-! ### Until the cycles are settled -/

namespace Module

open DiagnosticQueue (IsOther)

variable {m : Module} {config : QueueConfig} {diag : Diagnostic}

/-- The queue of a module is of these settings and holds no report of a cycle yet. -/
structure Early (config : QueueConfig) (m : Module) : Prop where
  config : m.queue.config = config
  queue : m.queue.Early

theorem Early.report (early : m.Early config) (other : IsOther diag.code) :
    (m.report diag).Early config :=
  ⟨(DiagnosticQueue.config_push _ _).trans early.config, early.queue.push other⟩

theorem Early.reports {ε : Type} (early : m.Early config) (diag : SourceId → ε → Diagnostic)
    (other : ∀ id err, IsOther (diag id err).code) (errs : List ε) :
    (errs.foldl (fun m err => m.report (diag m.id err)) m).Early config := by
  induction errs generalizing m with
  | nil => exact early
  | cons err rest ih => exact ih (early.report (other m.id err))

theorem Early.withTree (early : m.Early config) (tree : ItemTree) :
    (m.withTree tree).Early config := by
  unfold Module.withTree
  split
  · exact early
  · split
    · exact early.report (by decide : IsOther .invalidCast)
    · split <;> exact ⟨early.config, early.queue⟩

theorem Early.withParsed (early : m.Early config) (parsed : ParsedSource) :
    (m.withParsed parsed).Early config := by
  have reported := early.reports (fun id (err : SyntaxError) => err.report id)
    (fun _ _ => (by decide : IsOther .unexpectedToken)) parsed.errors
  unfold Module.withParsed
  dsimp only
  split
  · refine Early.withTree ?_ _
    exact ⟨reported.config, reported.queue⟩
  · exact ⟨reported.config, reported.queue⟩

theorem Early.link (early : m.Early config) (names : Interner) (target? : Name → Option Nat)
    (directive : ImportRef) : (m.link names target? directive).Early config := by
  unfold Module.link
  split
  · exact ⟨early.config, early.queue⟩
  · have reported : (m.report (m.unresolvedReport names directive)).Early config :=
      early.report (by decide : IsOther .unresolvedImport)
    exact ⟨reported.config, reported.queue⟩

/-- Linking reports imports that name no module, and nothing else. -/
theorem Early.links (early : m.Early config) (names : Interner) (target? : Name → Option Nat)
    (directives : List ImportRef) :
    (directives.foldl (Module.link names target?) m).Early config := by
  induction directives generalizing m with
  | nil => exact early
  | cons directive rest ih => exact ih (early.link names target? directive)

end Module

namespace Session

variable {lexer : Lexer} {parser : Parser} {m : Module} {index : Nat}

end Session

namespace Modules

variable {modules modules' : Modules} {names : Interner} {graph : ImportGraph} {index : Nat}
  {m : Module} {config : QueueConfig} {path : List Nat}

/-- The report of a cycle through a module. -/
def cycleReport (modules : Modules) (names : Interner) (path : List Nat) (m : Module) :
    Diagnostic :=
  let next := m.links.find? fun link => some link.target == path[1]?
  m.cycleReport (path.filterMap fun step => modules[step]?.map fun m => names.textOf m.name)
    ((next.map (·.directive.span)).getD .nowhere)

end Modules

/-! ### The report of the build -/

namespace Session

variable {session : Session} {modules : Modules} {index target : Nat} {m : Module}
  {report : BuildReport} {config : QueueConfig}

section Report

variable (bare : Bare modules)
  (made : report.modules = (session.process modules).1.modules.toList.map Module.finish)

include bare made

end Report

end Session

end FrontEnd
