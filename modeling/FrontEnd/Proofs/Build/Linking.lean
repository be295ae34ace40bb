import FrontEnd.Build.Link
import FrontEnd.Proofs.Diagnostic.Queue
import FrontEnd.Proofs.Module.Levels

/-!
The second phase of a build: imports are linked to the first modules of their names, and the modules
that reach a cycle are settled. Only the first module of a name with all its imports linked may still
be declared.
-/

namespace FrontEnd

namespace Module

variable {m m' m'' : Module} {names : Interner}

/-- What only the parser settles is the same in two modules. -/
structure Same (m m' : Module) : Prop where
  file : m'.file = m.file
  name : m'.name = m.name
  tree : m'.tree = m.tree
  imports : m'.imports = m.imports

theorem Same.refl (m : Module) : m.Same m := ⟨rfl, rfl, rfl, rfl⟩

theorem Same.trans (first : m.Same m') (second : m'.Same m'') : m.Same m'' where
  file := second.file.trans first.file
  name := second.name.trans first.name
  tree := second.tree.trans first.tree
  imports := second.imports.trans first.imports

/-- The links of some imports. -/
def linksOf (target? : Name → Option Nat) (directives : List ImportRef) : List ModuleLink :=
  directives.filterMap fun directive => (target? directive.path).map fun target =>
    ⟨directive, target⟩

/-- Linking changes the links, and the status if an import names no module. -/
structure LinksTo (target? : Name → Option Nat) (directives : List ImportRef) (m m' : Module) :
    Prop where
  same : m.Same m'
  exports : m'.exports = m.exports
  links : m'.links = m.links ++ linksOf target? directives
  status : m'.status = if directives.all fun directive => (target? directive.path).isSome then
    m.status else .failed
  honest : m.queue.Honest → m'.queue.Honest

theorem LinksTo.trans {target? : Name → Option Nat} {earlier later : List ImportRef}
    (first : LinksTo target? earlier m m') (second : LinksTo target? later m' m'') :
    LinksTo target? (earlier ++ later) m m'' where
  same := first.same.trans second.same
  exports := second.exports.trans first.exports
  links := by
    rw [second.links, first.links, linksOf, linksOf, linksOf, List.filterMap_append,
      List.append_assoc]
  status := by
    rw [second.status, first.status, List.all_append]
    cases later.all fun directive => (target? directive.path).isSome <;>
      cases earlier.all fun directive => (target? directive.path).isSome <;> rfl
  honest := fun honest => second.honest (first.honest honest)

theorem link_linksTo (names : Interner) (target? : Name → Option Nat) (m : Module)
    (directive : ImportRef) : LinksTo target? [directive] m (link names target? m directive) := by
  unfold link
  cases found : target? directive.path with
  | some target =>
    refine ⟨⟨rfl, rfl, rfl, rfl⟩, rfl, ?_, ?_, fun honest => honest⟩
    · simp [linksOf, found]
    · simp [found]
  | none =>
    refine ⟨⟨rfl, rfl, rfl, rfl⟩, rfl, ?_, ?_, fun honest => honest.push _⟩
    · simp [linksOf, found, fail, report]
    · simp [fail, found]

theorem foldl_link (names : Interner) (target? : Name → Option Nat) (directives : List ImportRef)
    (m : Module) : LinksTo target? directives m (directives.foldl (link names target?) m) := by
  induction directives generalizing m with
  | nil => exact ⟨.refl m, rfl, (List.append_nil _).symm, rfl, fun honest => honest⟩
  | cons directive rest ih => exact (link_linksTo names target? m directive).trans (ih _)

end Module

namespace Modules

variable {modules : Modules} {names : Interner} {index target : Nat} {m : Module}

/-- Whether the module of a number may be declared as far as names go: it is the first of its name,
and there are modules of the names that it imports. -/
def resolved (modules : Modules) (index : Nat) (m : Module) : Bool :=
  modules.named? m.name == some index &&
    m.imports.all fun directive => (modules.named? directive.path).isSome

theorem getElem?_link (modules : Modules) (names : Interner) (index : Nat) :
    (modules.link names)[index]? = modules[index]?.map fun m =>
      let m := if modules.named? m.name = some index then m else m.fail (m.duplicateReport names)
      m.imports.foldl (Module.link names modules.named?) m := by
  rw [link, Array.getElem?_map, failDuplicates, Array.getElem?_mapIdx, Option.map_map]
  rfl

/-- A linked module is the parsed one with its links, and has failed unless it is resolved. -/
structure LinkedFrom (modules : Modules) (index : Nat) (m linked : Module) : Prop where
  same : m.Same linked
  exports : linked.exports = m.exports
  links : linked.links = m.links ++ Module.linksOf modules.named? m.imports
  status : linked.status = if modules.resolved index m then m.status else .failed
  honest : m.queue.Honest → linked.queue.Honest

theorem link_linkedFrom (names : Interner) (found : modules[index]? = some m) :
    ∃ linked, (modules.link names)[index]? = some linked ∧ modules.LinkedFrom index m linked := by
  rw [getElem?_link, found]
  refine ⟨_, rfl, ?_⟩
  by_cases first : modules.named? m.name = some index
  · have linked := Module.foldl_link names modules.named? m.imports m
    simp only [first, if_true]
    refine ⟨linked.same, linked.exports, linked.links, ?_, linked.honest⟩
    rw [linked.status, resolved, first, beq_self_eq_true, Bool.true_and]
  · let failed := m.fail (m.duplicateReport names)
    have linked := Module.foldl_link names modules.named? failed.imports failed
    have refused : modules.resolved index m = false := by
      rw [resolved, beq_false_of_ne first, Bool.false_and]
    have same : m.Same failed := ⟨rfl, rfl, rfl, rfl⟩
    simp only [first, if_false]
    refine ⟨same.trans linked.same, linked.exports, linked.links, ?_, fun honest => ?_⟩
    · rw [linked.status, refused]
      exact ite_self _
    · exact linked.honest (honest.push _)

theorem size_graph (modules : Modules) : modules.graph.size = modules.size :=
  ImportGraph.size_ofEdges _ _

/-- The edges of the graph are the links of the modules. -/
theorem imports_graph : modules.graph.Imports index target ↔
    ∃ m, modules[index]? = some m ∧ target ∈ m.dependencies := by
  rw [graph, ImportGraph.imports_ofEdges]
  simp only [List.mem_flatMap, List.mem_map, Prod.mk.injEq, Prod.exists,
    List.mem_zipIdx_iff_getElem?, Array.getElem?_toList]
  constructor
  · rintro ⟨-, m, number, found, target, listed, rfl, rfl⟩
    exact ⟨m, found, listed⟩
  · rintro ⟨m, found, listed⟩
    exact ⟨(Array.getElem?_eq_some_iff.1 found).1, m, index, found, target, listed, rfl, rfl⟩

/-- What a linked module imports is what its imports mean. -/
theorem LinkedFrom.mem_dependencies {linked : Module} (from_ : modules.LinkedFrom index m linked)
    (bare : m.links = []) : target ∈ linked.dependencies ↔
      ∃ directive ∈ m.imports, modules.named? directive.path = some target := by
  rw [Module.dependencies, from_.links, bare, List.nil_append, Module.linksOf]
  simp [List.mem_filterMap]

/-- Linked modules import only modules that there are. -/
theorem whole_graph_link (names : Interner)
    (bare : ∀ (index : Nat) (m : Module), modules[index]? = some m → m.links = []) :
    (modules.link names).graph.Whole := by
  intro index target imports
  obtain ⟨linked, found, listed⟩ := imports_graph.1 imports
  cases before : modules[index]? with
  | none =>
    rw [getElem?_link, before] at found
    cases found
  | some m =>
    obtain ⟨linked', found', from_⟩ := link_linkedFrom names before
    obtain rfl : linked' = linked := Option.some.inj (found'.symm.trans found)
    obtain ⟨directive, -, means⟩ := (from_.mem_dependencies (bare index m before)).1 listed
    obtain ⟨below, -⟩ := Array.findIdx?_eq_some_iff_getElem.1 means
    rw [size_graph, link, Array.size_map, failDuplicates, Array.size_mapIdx]
    exact below

end Modules

end FrontEnd
