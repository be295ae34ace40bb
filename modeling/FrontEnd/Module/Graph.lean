import Std.Data.HashSet

/-!
The import graph. Modules are sorted into levels, so that a module of one level imports only modules
of the levels before it. What is left lies on a cycle of imports or imports a module that does.

Whether a module lies on a cycle is found by following its imports through the modules that have no
level; which cycle it is, by looking for a way back in import order.
-/

namespace FrontEnd

/-- For each module, by number, the numbers of the modules that it imports: each once, in import
order. -/
structure ImportGraph where
  imports : Array (List Nat)

/-- The order in which modules can be processed. -/
structure Schedule where
  /-- Modules that reach no cycle, by the length of their longest chain of imports. -/
  levels : List (List Nat)
  /-- Modules on a cycle. -/
  cyclic : List Nat
  /-- Modules that reach a cycle and lie on none. -/
  blocked : List Nat
  deriving DecidableEq

namespace ImportGraph

/-- So many modules without imports. -/
def bare (modules : Nat) : ImportGraph := ⟨Array.replicate modules []⟩

/-- How many modules there are. -/
def size (graph : ImportGraph) : Nat := graph.imports.size

/-- What a module imports. -/
def dependencies (graph : ImportGraph) (m : Nat) : List Nat := (graph.imports[m]?).getD []

/-- Records that a module imports another. -/
def addEdge (graph : ImportGraph) (source target : Nat) : ImportGraph :=
  ⟨graph.imports.modify source fun known =>
    if target ∈ known then known else known ++ [target]⟩

/-- The graph of some edges between so many modules. -/
def ofEdges (modules : Nat) (edges : List (Nat × Nat)) : ImportGraph :=
  edges.foldl (fun graph edge => graph.addEdge edge.1 edge.2) (bare modules)

/-- Whether all that a module imports is placed. -/
def isFree (graph : ImportGraph) (placed : Std.HashSet Nat) (m : Nat) : Bool :=
  (graph.dependencies m).all fun imported => placed.contains imported

/-- The waiting modules that are free. -/
def free (graph : ImportGraph) (placed : Std.HashSet Nat) (waiting : List Nat) : List Nat :=
  waiting.filter (graph.isFree placed)

/-- The waiting modules that import one that is not placed. -/
def held (graph : ImportGraph) (placed : Std.HashSet Nat) (waiting : List Nat) : List Nat :=
  waiting.filter fun m => !graph.isFree placed m

theorem length_held_lt {graph : ImportGraph} {placed : Std.HashSet Nat} {waiting : List Nat}
    (found : graph.free placed waiting ≠ []) :
    (graph.held placed waiting).length < waiting.length := by
  obtain ⟨m, member⟩ := List.exists_mem_of_ne_nil _ found
  rw [free, List.mem_filter] at member
  exact List.length_filter_lt_length_iff_exists.2 ⟨m, member.1, by simp [member.2]⟩

/-- Places the free modules level by level until none of the waiting ones is free. -/
def levelsOf (graph : ImportGraph) (placed : Std.HashSet Nat) (waiting : List Nat) :
    List (List Nat) × List Nat :=
  if found : graph.free placed waiting = [] then ([], waiting)
  else
    have := length_held_lt found
    let level := graph.free placed waiting
    let (levels, rest) := levelsOf graph (placed.insertMany level) (graph.held placed waiting)
    (level :: levels, rest)
termination_by waiting.length

/-- How many modules have not been tried. -/
def untried (graph : ImportGraph) (tried : Std.HashSet Nat) : Nat :=
  ((List.range graph.size).filter fun m => !tried.contains m).length

theorem untried_le {graph : ImportGraph} {tried tried' : Std.HashSet Nat}
    (more : ∀ m, m ∈ tried → m ∈ tried') : graph.untried tried' ≤ graph.untried tried := by
  rw [untried, untried, ← List.countP_eq_length_filter, ← List.countP_eq_length_filter]
  refine List.countP_mono_left fun m _ fresh => ?_
  simp only [Bool.not_eq_true', ← Bool.not_eq_true, ← Std.HashSet.mem_iff_contains] at fresh ⊢
  exact fun known => fresh (more m known)

theorem untried_insert_lt {graph : ImportGraph} {tried : Std.HashSet Nat} {m : Nat}
    (inside : m < graph.size) (fresh : m ∉ tried) :
    graph.untried (tried.insert m) < graph.untried tried := by
  have fewer : ((List.range graph.size).filter fun m => !tried.contains m).filter (· != m) =
      (List.range graph.size).filter fun other => !(tried.insert m).contains other := by
    rw [List.filter_filter]
    refine List.filter_congr fun other _ => ?_
    rw [Std.HashSet.contains_insert, Bool.not_or, bne, BEq.comm]
  have listed : m ∈ (List.range graph.size).filter fun m => !tried.contains m := by
    rw [List.mem_filter, List.mem_range]
    exact ⟨inside, by simpa using fresh⟩
  rw [untried, untried, ← fewer]
  exact List.length_filter_lt_length_iff_exists.2 ⟨m, listed, by simp⟩

theorem dependencies_eq_nil {graph : ImportGraph} {m : Nat} (outside : ¬ m < graph.size) :
    graph.dependencies m = [] := by
  rw [dependencies, Array.getElem?_eq_none (Nat.le_of_not_lt outside), Option.getD_none]

/-- Whether the target is among the modules to be followed, or is imported by what they lead to
through modules that are not placed. No module is followed twice. -/
def leadsTo (graph : ImportGraph) (placed : Std.HashSet Nat) (target : Nat)
    (seen : Std.HashSet Nat) : (stack : List Nat) → Bool
  | [] => false
  | m :: stack =>
    if m = target then true
    else if m ∈ placed ∨ m ∈ seen then graph.leadsTo placed target seen stack
    else graph.leadsTo placed target (seen.insert m) ((graph.dependencies m).reverse ++ stack)
termination_by stack => (graph.untried seen, stack.length)
decreasing_by
  · exact Prod.Lex.right _ (Nat.lt_succ_self _)
  · rename_i followed
    by_cases inside : m < graph.size
    · exact Prod.Lex.left _ _ (untried_insert_lt inside (not_or.1 followed).2)
    · rw [dependencies_eq_nil inside]
      exact Prod.Lex.right' _ (untried_le fun n known => Std.HashSet.mem_insert.2 (.inr known))
        (Nat.lt_succ_self _)

/-- Whether a module lies on a cycle of modules that are not placed. -/
def importsItself (graph : ImportGraph) (placed : Std.HashSet Nat) (m : Nat) : Bool :=
  graph.leadsTo placed m {} (graph.dependencies m).reverse

/-- Sorts the modules into levels and tells those on a cycle from those behind one. -/
def schedule (graph : ImportGraph) : Schedule :=
  let (levels, rest) := graph.levelsOf {} (List.range graph.size)
  let placed := Std.HashSet.ofList levels.flatten
  let (cyclic, blocked) := rest.partition (graph.importsItself placed)
  { levels, cyclic, blocked }

/-- How many modules a path of imports can meet. -/
def depth (graph : ImportGraph) : Nat := graph.size + 1

/-- The first way from any of the given modules to the target, and the modules that have been
tried. What has been tried is not tried again. -/
def wayTo (graph : ImportGraph) (target : Nat) :
    (depth : Nat) → (tried : Std.HashSet Nat) → List Nat → Option (List Nat) × Std.HashSet Nat
  | _, tried, [] => (none, tried)
  | 0, tried, _ => (none, tried)
  | depth + 1, tried, m :: rest =>
    if m = target then (some [m], tried)
    else if tried.contains m then graph.wayTo target (depth + 1) tried rest
    else match graph.wayTo target depth (tried.insert m) (graph.dependencies m) with
      | (some way, tried) => (some (m :: way), tried)
      | (none, tried) => graph.wayTo target (depth + 1) tried rest
termination_by depth _ modules => (depth, modules.length)

/-- A cycle through a module, which it starts and ends with. -/
def cycleThrough (graph : ImportGraph) (m : Nat) : Option (List Nat) :=
  (graph.wayTo m graph.depth {} (graph.dependencies m)).1.map (m :: ·)

end ImportGraph

end FrontEnd
