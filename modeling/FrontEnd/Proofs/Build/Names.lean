import FrontEnd.Proofs.Build.Silence
import FrontEnd.Proofs.Declaration.Nominal

/-!
Nominal names in a build. All modules of a build are declared in the same type tables, one after the
other, and the tables have one index of nominal names. So a module fails if it shares such a name with
any module that was declared before it, whether or not it imports that module, and whether or not
that module is ready.
-/

namespace FrontEnd

open TypeContext (Leads)

/-- A run of the pass is given tables that are in order, and exports that are in the tables. -/
def DeclareCall.Fit (call : DeclareCall) : Prop :=
  call.source.Fit { types := call.types, queue := call.queue }

namespace DeclareCall

variable {call : DeclareCall}

/-- What a run does with nominal names. It gets types for all nominal definitions exactly if their
names are free, and fails otherwise. In any case the names are taken then. -/
theorem Fit.names (fit : call.Fit) :
    (∀ name, call.types.Taken name ∨ name ∈ call.source.nominalNames →
      call.made.types.Taken name) ∧
    ((call.source.declaredBy call.types call.queue).map Prod.fst = call.source.nominals ↔
      call.types.Free call.source.nominalNames) ∧
    (¬ call.types.Free call.source.nominalNames → call.status = .failed) := by
  obtain ⟨takes, all, taken⟩ := ModuleSource.declareModule_names fit
  exact ⟨takes, all, fun held => if_pos (taken held)⟩

end DeclareCall

namespace Successive

variable {types last : TypeContext} {calls before after : List DeclareCall} {call : DeclareCall}

/-- The names that a run finds taken are those that were taken first and those of all runs before. -/
theorem taken (runs : Successive types calls last) (fit : ∀ call ∈ calls, call.Fit)
    (split : calls = before ++ call :: after) :
    (∀ name, types.Taken name → call.types.Taken name) ∧
      ∀ earlier ∈ before, ∀ name ∈ earlier.source.nominalNames, call.types.Taken name := by
  induction before generalizing types calls with
  | nil =>
    subst split
    obtain ⟨rfl, -⟩ := runs
    exact ⟨fun name taken => taken, nofun⟩
  | cons first before ih =>
    subst split
    obtain ⟨rfl, runs⟩ := runs
    obtain ⟨fit₁, others⟩ := List.forall_mem_cons.1 fit
    obtain ⟨takes, -⟩ := fit₁.names
    obtain ⟨kept, later⟩ := ih runs others rfl
    refine ⟨fun name taken => kept name (takes name (.inl taken)), ?_⟩
    exact List.forall_mem_cons.2 ⟨fun name own => kept name (takes name (.inr own)), later⟩

end Successive

namespace Building

variable {building : Building} {names : Interner} {index : Nat} {call : DeclareCall}

/-- What holds between turns: the tables are in order, and what modules export was given out. -/
structure Fit (building : Building) : Prop where
  types : building.types.Orderly
  exports : ∀ (index : Nat) m, building.modules[index]? = some m →
    m.exports.Inside building.types.extent

theorem Fit.source (fit : building.Fit) (names : Interner) (tree : ItemTree) (m : Module)
    (queue : DiagnosticQueue) :
    ModuleSource.Fit ⟨names, tree, building.importsOf m⟩ { types := building.types, queue } := by
  refine ⟨fit.types, fun exports member => ?_⟩
  rcases List.mem_cons.1 member with rfl | member
  · intro name ty found
    simp at found
  · obtain ⟨target, -, imported⟩ := List.mem_filterMap.1 member
    obtain ⟨m, found, rfl⟩ := Option.map_eq_some_iff.1 imported
    exact fit.exports target m found

/-- Each turn leaves a build as it may be between turns. -/
theorem Fit.declare (fit : building.Fit) (names : Interner) (index : Nat) :
    (building.declare names index).Fit := by
  unfold Building.declare
  split
  · exact fit
  · split
    · exact fit
    · split
      · refine ⟨fit.types, fun other m found => ?_⟩
        simp only [Modules.block, Array.getElem?_modify] at found
        split at found
        · obtain ⟨before, stored, rfl⟩ := Option.map_eq_some_iff.1 found
          exact fit.exports other before stored
        · exact fit.exports other m found
      · split
        · rename_i m _ _ _ _ tree _
          have start := fit.source names tree m m.queue
          obtain ⟨leads, -, made, -⟩ := ModuleSource.makes_declare start
          refine ⟨made.types, fun other m' found => ?_⟩
          simp only [declareTree, Array.getElem?_modify] at found
          split at found
          · obtain ⟨before, stored, rfl⟩ := Option.map_eq_some_iff.1 found
            exact made.scope _ List.mem_cons_self
          · exact (fit.exports other m' found).within (start.within leads)
        · exact fit

theorem Fit.calls (fit : building.Fit) (names : Interner) (order : List Nat) :
    ∀ call ∈ building.calls names order, call.Fit := by
  induction order generalizing building with
  | nil => exact nofun
  | cons first rest ih =>
    intro call listed
    rcases List.mem_append.1 listed with now | later
    · obtain ⟨m, tree, -, -, -, -, rfl⟩ := call?_eq_some_iff.1 (Option.mem_toList.1 now)
      exact fit.source names tree m m.queue
    · exact ih (fit.declare names first) call later

end Building

namespace Session

variable {session : Session} {modules : Modules}

/-- When the declarations begin, no module exports anything. -/
theorem exports_settled (bare : Bare modules) (index : Nat) (m : Module)
    (found : ((modules.link session.names).settleCycles session.names
      (modules.link session.names).graph (modules.link session.names).graph.schedule)[index]? =
        some m) : m.exports = {} := by
  have below : index < modules.size := by
    have inside := (Array.getElem?_eq_some_iff.1 found).1
    rw [Modules.size_settleCycles] at inside
    simpa [Modules.link, Modules.failDuplicates] using inside
  obtain ⟨file, given, parsed⟩ := bare index _ (Array.getElem?_eq_getElem below)
  obtain ⟨linked, stored, from_⟩ :=
    Modules.link_linkedFrom session.names (Array.getElem?_eq_getElem below)
  have none_ : linked.exports = {} := from_.exports.trans parsed.exports
  rcases scheduled_or_left session below with listed | left
  · rw [Modules.settleCycles_scheduled _ _ listed, stored] at found
    cases found
    exact none_
  · obtain ⟨settled, stored', stays, -⟩ := Modules.settleCycles_left session.names
      (Modules.whole_graph_link session.names bare.links) left stored
    rw [stored'] at found
    cases found
    exact stays.exports.trans none_

end Session

end FrontEnd
