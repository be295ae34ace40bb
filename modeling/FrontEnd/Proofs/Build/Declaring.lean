import FrontEnd.Build.Session
import FrontEnd.Proofs.Build.Settling
import FrontEnd.Proofs.Declaration.Pushes

/-!
The last phase of a build: modules are declared in the order of the schedule. A module that waits for
it is declared if all that it imports is ready and is blocked otherwise. Since it stands behind its
imports, they are then as they are in the end.
-/

namespace FrontEnd

/-- A run of the declaration pass: the number of the module, and what the pass is given. -/
structure DeclareCall where
  index : Nat
  source : ModuleSource
  types : TypeContext
  queue : DiagnosticQueue

/-- What the run makes. -/
def DeclareCall.made (call : DeclareCall) : Declaring :=
  declareModule call.source call.types call.queue

/-- The status of a module that was declared. -/
def DeclareCall.status (call : DeclareCall) : ModuleStatus :=
  if call.made.queue.hasErrors then .failed else .ready

/-- The runs are made one after the other: each is given the type tables that the run before left,
and the last leaves those of the end. -/
def Successive (types : TypeContext) : List DeclareCall → TypeContext → Prop
  | [], last => last = types
  | call :: rest, last => call.types = types ∧ Successive call.made.types rest last

namespace Building

variable {building : Building} {names : Interner} {index other : Nat} {m : Module}
  {call : DeclareCall} {order before after : List Nat}

/-- The run of the declaration pass that is made when a module's turn comes, if one is made. -/
def call? (names : Interner) (building : Building) (index : Nat) : Option DeclareCall :=
  building.modules[index]?.bind fun m =>
    if m.status = .parsed ∧ building.importsReady m = true then
      m.tree.map fun tree =>
        ⟨index, ⟨names, tree, building.importsOf m⟩, building.types, m.queue⟩
    else none

/-- The runs that are made when the turns of some modules come. -/
def calls (names : Interner) : Building → List Nat → List DeclareCall
  | _, [] => []
  | building, index :: rest =>
    (building.call? names index).toList ++ calls names (building.declare names index) rest

/-! ### One turn -/

theorem own_declare (names : Interner) :
    Own (fun (building : Building) index => building.modules[index]?) (declare names) := by
  intro building index other different
  unfold declare
  split
  · rfl
  · split
    · rfl
    · split
      · exact Modules.own_block building.modules index other different
      · split
        · unfold declareTree
          dsimp only
          rw [Array.getElem?_modify, if_neg different.symm]
        · rfl

theorem size_declare (names : Interner) (building : Building) (index : Nat) :
    (building.declare names index).modules.size = building.modules.size := by
  unfold declare
  split
  · rfl
  · split
    · rfl
    · split
      · exact Array.size_modify
      · split
        · exact Array.size_modify
        · rfl

theorem call?_eq_some_iff : building.call? names index = some call ↔ ∃ m tree,
    building.modules[index]? = some m ∧ m.status = .parsed ∧ building.importsReady m = true ∧
      m.tree = some tree ∧
      call = ⟨index, ⟨names, tree, building.importsOf m⟩, building.types, m.queue⟩ := by
  simp only [call?, Option.bind_eq_some_iff, Option.ite_none_right_eq_some,
    Option.map_eq_some_iff]
  constructor
  · rintro ⟨m, found, ⟨parsed, ready⟩, tree, given, rfl⟩
    exact ⟨m, tree, found, parsed, ready, given, rfl⟩
  · rintro ⟨m, tree, found, parsed, ready, given, rfl⟩
    exact ⟨m, found, ⟨parsed, ready⟩, tree, given, rfl⟩

/-- A turn with a run puts what it makes into the module and into the tables. -/
theorem declare_of_call (found : building.modules[index]? = some m)
    (called : building.call? names index = some call) :
    (building.declare names index).modules[index]? = some { m with
        exports := call.made.exports
        queue := call.made.queue
        status := call.status } ∧
      (building.declare names index).types = call.made.types := by
  obtain ⟨m', tree, found', parsed, ready, given, rfl⟩ := call?_eq_some_iff.1 called
  obtain rfl : m' = m := Option.some.inj (found'.symm.trans found)
  have turn : building.declare names index = building.declareTree names index m' tree := by
    simp only [declare, found, parsed, ready, given]
    rfl
  rw [turn]
  unfold declareTree
  dsimp only
  rw [Array.getElem?_modify, if_pos rfl, found]
  exact ⟨rfl, rfl⟩

/-- A module that waits is blocked in a turn without a run. -/
theorem declare_of_none (found : building.modules[index]? = some m)
    (given : m.status = .parsed → m.tree.isSome) (none_ : building.call? names index = none) :
    (building.declare names index).modules[index]? = some { m with
      status := if m.status = .parsed then .blocked else m.status } := by
  by_cases parsed : m.status = .parsed
  · obtain ⟨tree, given⟩ := Option.isSome_iff_exists.1 (given parsed)
    have held : building.importsReady m = false := by
      refine Bool.eq_false_iff.2 fun ready => ?_
      have called : building.call? names index = some
          ⟨index, ⟨names, tree, building.importsOf m⟩, building.types, m.queue⟩ :=
        call?_eq_some_iff.2 ⟨m, tree, found, parsed, ready, given, rfl⟩
      rw [none_] at called
      cases called
    have turn : building.declare names index =
        { building with modules := building.modules.block index } := by
      simp only [declare, found, parsed, held]
      rfl
    rw [turn, if_pos parsed, Modules.block, Array.getElem?_modify, if_pos rfl, found]
    rfl
  · have turn : building.declare names index = building := by
      simp only [declare, found]
      rw [if_pos parsed]
    rw [turn, if_neg parsed]
    exact found

/-- A run is made in the turn of its module. -/
theorem mem_calls : call ∈ building.calls names order ↔ ∃ before after,
    order = before ++ call.index :: after ∧
      (before.foldl (declare names) building).call? names call.index = some call := by
  induction order generalizing building with
  | nil => simp [calls]
  | cons first rest ih =>
    rw [calls, List.mem_append, Option.mem_toList, ih]
    constructor
    · rintro (now | ⟨before, after, rfl, later⟩)
      · obtain ⟨m, tree, -, -, -, -, same⟩ := call?_eq_some_iff.1 now
        obtain rfl : call.index = first := congrArg DeclareCall.index same
        exact ⟨[], rest, rfl, now⟩
      · exact ⟨first :: before, after, rfl, later⟩
    · rintro ⟨before, after, same, made⟩
      cases before with
      | nil =>
        obtain ⟨rfl, rfl⟩ := List.cons.inj same
        exact .inl made
      | cons head before =>
        obtain ⟨rfl, rfl⟩ := List.cons.inj same
        exact .inr ⟨before, after, rfl, made⟩

/-- Runs are made in the order of the turns, and at most one in each turn. -/
theorem calls_sublist (names : Interner) (building : Building) (order : List Nat) :
    ((building.calls names order).map (·.index)).Sublist order := by
  induction order generalizing building with
  | nil => exact .slnil
  | cons first rest ih =>
    rw [calls, List.map_append]
    cases called : building.call? names first with
    | none => exact (ih _).cons first
    | some call =>
      obtain ⟨m, tree, -, -, -, -, rfl⟩ := call?_eq_some_iff.1 called
      exact (ih _).cons_cons first

/-- Whether and with what a module is declared depends on its imports alone. -/
theorem importsReady_congr {building' : Building}
    (same : ∀ target ∈ m.dependencies, building'.modules[target]? = building.modules[target]?) :
    building'.importsReady m = building.importsReady m := by
  unfold importsReady
  rw [Bool.eq_iff_iff, List.all_eq_true, List.all_eq_true]
  refine forall₂_congr fun target listed => ?_
  rw [same target listed]

theorem importsOf_congr {building' : Building}
    (same : ∀ target ∈ m.dependencies, building'.modules[target]? = building.modules[target]?) :
    building'.importsOf m = building.importsOf m :=
  List.filterMap_congr fun target listed => by rw [same target listed]

theorem importsReady_iff : building.importsReady m = true ↔
    ∀ target ∈ m.dependencies, ∃ imported, building.modules[target]? = some imported ∧
      imported.status = .ready := by
  unfold importsReady
  rw [List.all_eq_true]
  refine forall₂_congr fun target listed => ?_
  cases building.modules[target]? with
  | none => simp
  | some imported => simp [Module.isReady]

/-- A module was declared in its turn, and given what its imports export in the end. -/
structure DeclaredBy (names : Interner) (last : Building) (call : DeclareCall) (m m' : Module) :
    Prop where
  parsed : m.status = .parsed
  ready : last.importsReady m = true
  source : ∃ tree, m.tree = some tree ∧ call.source = ⟨names, tree, last.importsOf m⟩
  queue : call.queue = m.queue
  result : m' = { m with
    exports := call.made.exports
    queue := call.made.queue
    status := call.status }

/-- A module was not declared in its turn. -/
structure Undeclared (last : Building) (m m' : Module) : Prop where
  held : ¬ (m.status = .parsed ∧ last.importsReady m = true)
  result : m' = { m with status := if m.status = .parsed then .blocked else m.status }

/-- A module has one turn. -/
theorem call?_of_mem_calls (once : (before ++ call.index :: after).Nodup)
    (made : call ∈ building.calls names (before ++ call.index :: after)) :
    (before.foldl (declare names) building).call? names call.index = some call := by
  obtain ⟨before', after', same, made⟩ := mem_calls.1 made
  have later : call.index ∉ after :=
    (List.nodup_cons.1 (List.nodup_append.1 once).2.1).1
  obtain ⟨rfl, -, rfl⟩ := (List.append_cons_inj_of_notMem (not_mem_before once) later).1 same
  exact made

variable (building names) in
/-- Every module of an ordered list is declared in its turn if it waits for it and all that it
imports is ready in the end, and only then. -/
theorem turn {graph : ImportGraph} (once : order.Nodup) (ordered : graph.Ordered {} order)
    (listed : index ∈ order) (found : building.modules[index]? = some m)
    (links : ∀ target ∈ m.dependencies, graph.Imports index target)
    (given : m.status = .parsed → m.tree.isSome) :
    ∃ m', (order.foldl (declare names) building).modules[index]? = some m' ∧
      ((∃ call ∈ building.calls names order, call.index = index ∧
        DeclaredBy names (order.foldl (declare names) building) call m m') ∨
      ((∀ call ∈ building.calls names order, call.index ≠ index) ∧
        Undeclared (order.foldl (declare names) building) m m')) := by
  obtain ⟨before, after, rfl⟩ := List.append_of_mem listed
  have own := own_declare names
  have now : (before.foldl (declare names) building).modules[index]? = some m :=
    (own.foldl (not_mem_before once) building).trans found
  have imports : ∀ target ∈ m.dependencies,
      ((before ++ index :: after).foldl (declare names) building).modules[target]? =
        (before.foldl (declare names) building).modules[target]? := by
    intro target listed
    exact own.foldl_before once (ordered.imports_mem (links target listed)) building
  have ready := importsReady_congr imports
  have last := own.foldl_at once building
  cases called : (before.foldl (declare names) building).call? names index with
  | some call =>
    obtain ⟨m', tree, found', parsed, ready', parsedTo, same⟩ := call?_eq_some_iff.1 called
    obtain rfl : m' = m := Option.some.inj (found'.symm.trans now)
    have number : call.index = index := congrArg DeclareCall.index same
    have made : call ∈ building.calls names (before ++ index :: after) :=
      mem_calls.2 ⟨before, after, by rw [number], by rw [number]; exact called⟩
    refine ⟨_, last.trans (declare_of_call now called).1, .inl ⟨call, made, number, ?_⟩⟩
    refine ⟨parsed, ready.trans ready', ⟨tree, parsedTo, ?_⟩, congrArg DeclareCall.queue same, rfl⟩
    rw [importsOf_congr imports]
    exact congrArg DeclareCall.source same
  | none =>
    refine ⟨_, last.trans (declare_of_none now given called), .inr ⟨?_, ?_, rfl⟩⟩
    · rintro call made rfl
      rw [call?_of_mem_calls once made] at called
      cases called
    · rintro ⟨parsed, ready'⟩
      obtain ⟨tree, given⟩ := Option.isSome_iff_exists.1 (given parsed)
      have made : (before.foldl (declare names) building).call? names index = some
          ⟨index, ⟨names, tree, (before.foldl (declare names) building).importsOf m⟩,
            (before.foldl (declare names) building).types, m.queue⟩ :=
        call?_eq_some_iff.2 ⟨m, tree, now, parsed, ready.symm.trans ready', given, rfl⟩
      rw [called] at made
      cases made

end Building

end FrontEnd
