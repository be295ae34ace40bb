import FrontEnd.Module.Graph
import Mathlib.Logic.Relation

/-!
Edges and searches of the import graph. A graph of edges holds exactly these, each at the module
that it starts from. Following imports finds exactly the modules on a cycle, though the
modules that have a level are not followed. Looking for a way to a module fails only if there is
none: what has been tried without success is closed under imports and does not hold the module.
-/

namespace FrontEnd

namespace ImportGraph

variable {graph : ImportGraph} {m source other target : Nat}

/-! ### Edges -/

/-- A module imports another. -/
def Imports (graph : ImportGraph) (m target : Nat) : Prop := target ∈ graph.dependencies m

/-- A module imports another, directly or not. -/
def Reaches (graph : ImportGraph) : Nat → Nat → Prop := Relation.TransGen graph.Imports

/-- Only modules that there are are imported. -/
def Whole (graph : ImportGraph) : Prop := ∀ m target, graph.Imports m target → target < graph.size

theorem size_addEdge (graph : ImportGraph) (source target : Nat) :
    (graph.addEdge source target).size = graph.size :=
  Array.size_modify

theorem mem_known {known : List Nat} :
    other ∈ (if target ∈ known then known else known ++ [target]) ↔
      other ∈ known ∨ other = target := by
  split
  · rename_i listed
    exact ⟨.inl, fun either => either.elim id fun same => same ▸ listed⟩
  · rw [List.mem_append, List.mem_singleton]

/-- An edge is added where it starts, if there is such a module, and nothing else changes. -/
theorem imports_addEdge : (graph.addEdge source target).Imports m other ↔
    graph.Imports m other ∨ (m < graph.size ∧ m = source ∧ other = target) := by
  unfold Imports dependencies addEdge size
  rw [Array.getElem?_modify]
  by_cases same : source = m
  · subst same
    by_cases inside : source < graph.imports.size
    · rw [if_pos rfl, Array.getElem?_eq_getElem inside, Option.map_some, Option.getD_some,
        Option.getD_some, mem_known]
      simp only [inside, true_and]
    · rw [if_pos rfl, Array.getElem?_eq_none (Nat.le_of_not_lt inside)]
      simp [inside]
  · rw [if_neg same]
    exact ⟨.inl, fun either => either.elim id fun added => absurd added.2.1.symm same⟩

theorem imports_foldl_addEdge (edges : List (Nat × Nat)) (graph : ImportGraph) :
    (edges.foldl (fun graph edge => graph.addEdge edge.1 edge.2) graph).Imports m other ↔
      graph.Imports m other ∨ (m < graph.size ∧ (m, other) ∈ edges) := by
  induction edges generalizing graph with
  | nil => simp
  | cons edge rest ih =>
    rw [List.foldl_cons, ih, imports_addEdge, size_addEdge, List.mem_cons, Prod.ext_iff]
    grind

theorem size_ofEdges (modules : Nat) (edges : List (Nat × Nat)) :
    (ofEdges modules edges).size = modules := by
  have kept : ∀ graph : ImportGraph,
      (edges.foldl (fun graph edge => graph.addEdge edge.1 edge.2) graph).size = graph.size := by
    induction edges with
    | nil => exact fun graph => rfl
    | cons edge rest ih => exact fun graph => (ih _).trans (size_addEdge _ _ _)
  exact (kept _).trans Array.size_replicate

/-- A graph of edges holds exactly these. -/
theorem imports_ofEdges {modules : Nat} {edges : List (Nat × Nat)} :
    (ofEdges modules edges).Imports m other ↔ m < modules ∧ (m, other) ∈ edges := by
  have none_ : ¬ (bare modules).Imports m other := by
    unfold Imports dependencies bare
    rw [Array.getElem?_replicate]
    split <;> simp
  rw [ofEdges, imports_foldl_addEdge, size, bare, Array.size_replicate]
  exact ⟨fun found => found.resolve_left none_, .inr⟩

/-! ### Following imports -/

/-- A search finds only what is followed, or imported by it directly or not. -/
theorem reaches_of_leadsTo {placed seen : Std.HashSet Nat} {stack : List Nat}
    (found : graph.leadsTo placed target seen stack = true) :
    ∃ start ∈ stack, Relation.ReflTransGen graph.Imports start target := by
  fun_induction graph.leadsTo placed target seen stack with
  | case1 seen => cases found
  | case2 seen stack => exact ⟨target, List.mem_cons_self, .refl⟩
  | case3 seen m stack other skipped ih =>
    obtain ⟨start, listed, way⟩ := ih found
    exact ⟨start, List.mem_cons_of_mem _ listed, way⟩
  | case4 seen m stack other followed ih =>
    obtain ⟨start, listed, way⟩ := ih found
    rcases List.mem_append.1 listed with imported | listed
    · exact ⟨m, List.mem_cons_self, .head (List.mem_reverse.1 imported) way⟩
    · exact ⟨start, List.mem_cons_of_mem _ listed, way⟩

/-- No module of these is the target, and each is placed or has been seen. -/
def Passed (placed : Std.HashSet Nat) (target : Nat) (seen : Std.HashSet Nat)
    (modules : List Nat) : Prop :=
  ∀ m ∈ modules, m ≠ target ∧ (m ∈ placed ∨ m ∈ seen)

/-- A search that fails has seen a set of modules whose imports it has passed, all of them. -/
theorem passed_of_not_leadsTo {placed seen : Std.HashSet Nat} {stack : List Nat}
    (failed : graph.leadsTo placed target seen stack = false) :
    ∃ seen', (∀ m ∈ seen, m ∈ seen') ∧ Passed placed target seen' stack ∧
      ∀ m ∈ seen', m ∉ seen → Passed placed target seen' (graph.dependencies m) := by
  fun_induction graph.leadsTo placed target seen stack with
  | case1 seen =>
    exact ⟨seen, fun m known => known, fun m listed => absurd listed List.not_mem_nil,
      fun m known fresh => absurd known fresh⟩
  | case2 seen stack => cases failed
  | case3 seen m stack other skipped ih =>
    obtain ⟨seen', more, passed, closed⟩ := ih failed
    refine ⟨seen', more, fun n listed => ?_, closed⟩
    cases listed with
    | head => exact ⟨other, skipped.imp_right (more m)⟩
    | tail _ listed => exact passed n listed
  | case4 seen m stack other followed ih =>
    obtain ⟨seen', more, passed, closed⟩ := ih failed
    have met : m ∈ seen' := more m Std.HashSet.mem_insert_self
    refine ⟨seen', fun n known => more n (Std.HashSet.mem_insert.2 (.inr known)), ?_, ?_⟩
    · intro n listed
      cases listed with
      | head => exact ⟨other, .inr met⟩
      | tail _ listed => exact passed n (List.mem_append_right _ listed)
    · intro n known fresh
      by_cases same : n = m
      · subst same
        exact fun next imports => passed next (List.mem_append_left _ (List.mem_reverse.2 imports))
      · refine closed n known fun earlier => ?_
        exact (Std.HashSet.mem_insert.1 earlier).elim (fun eq => same (eq_of_beq eq).symm) fresh

/-- If no module on a cycle is placed, the search finds exactly the modules on a cycle. -/
theorem importsItself_iff {placed : Std.HashSet Nat}
    (acyclic : ∀ m ∈ placed, ¬ graph.Reaches m m) :
    graph.importsItself placed m = true ↔ graph.Reaches m m := by
  constructor
  · intro found
    obtain ⟨start, listed, way⟩ := reaches_of_leadsTo found
    exact Relation.TransGen.head' (List.mem_reverse.1 listed) way
  intro cycle
  refine eq_true_of_ne_false fun missed => ?_
  obtain ⟨seen, -, passed, closed⟩ := passed_of_not_leadsTo missed
  -- On the way around the cycle nothing is placed, so that all of it is seen and passed.
  have around : ∀ n, graph.Reaches m n → Relation.ReflTransGen graph.Imports n m →
      n ≠ m ∧ n ∈ seen := by
    intro n way
    induction way with
    | single imports =>
      intro back
      obtain ⟨differs, known⟩ := passed _ (List.mem_reverse.2 imports)
      exact ⟨differs, known.resolve_left fun listed => acyclic _ listed (.trans_right back (.single imports))⟩
    | tail before imports ih =>
      intro back
      obtain ⟨-, met⟩ := ih (.head imports back)
      obtain ⟨differs, known⟩ := closed _ met Std.HashSet.not_mem_empty _ imports
      exact ⟨differs, known.resolve_left fun listed =>
        acyclic _ listed (.trans_right back (before.tail imports))⟩
  exact (around m cycle .refl).1 rfl

/-! ### Looking for a way -/

/-- All that has been tried since is no way to the target, and leads only to what has been tried. -/
def Exhausted (graph : ImportGraph) (target : Nat) (tried tried' : Std.HashSet Nat) : Prop :=
  ∀ m, m ∈ tried' → m ∉ tried → m ≠ target ∧ ∀ next, graph.Imports m next → next ∈ tried'

/-- A search that fails has tried all modules that it was given, and did not stop early. -/
theorem wayTo_none (whole : graph.Whole) {depth : Nat} {tried tried' : Std.HashSet Nat}
    {modules : List Nat} (room : graph.untried tried < depth)
    (inside : ∀ m ∈ modules, m < graph.size)
    (failed : graph.wayTo target depth tried modules = (none, tried')) :
    (∀ m, m ∈ tried → m ∈ tried') ∧ (∀ m ∈ modules, m ≠ target ∧ m ∈ tried') ∧
      graph.Exhausted target tried tried' := by
  fun_induction graph.wayTo target depth tried modules generalizing tried' with
  | case1 depth tried =>
    cases failed
    exact ⟨fun m known => known, fun m listed => absurd listed List.not_mem_nil,
      fun m known fresh => absurd known fresh⟩
  | case2 tried m rest => exact absurd room (Nat.not_lt_zero _)
  | case3 depth tried rest => cases failed
  | case4 depth tried m rest other known ih =>
    obtain ⟨more, listed, closed⟩ := ih room (fun n member => inside n (.tail _ member)) failed
    refine ⟨more, fun n member => ?_, closed⟩
    cases member with
    | head => exact ⟨other, more m (Std.HashSet.mem_iff_contains.2 known)⟩
    | tail _ member => exact listed n member
  | case5 depth tried m rest other fresh way tried₁ found ih => cases failed
  | case6 depth tried m rest other fresh tried₁ found ihImports ihRest =>
    have unknown : m ∉ tried := fun known => fresh (Std.HashSet.mem_iff_contains.1 known)
    have here : m < graph.size := inside m List.mem_cons_self
    have less := untried_insert_lt here unknown
    obtain ⟨more₁, imported, closed₁⟩ := ihImports (Nat.lt_of_lt_of_le less (Nat.le_of_lt_succ room))
      (fun next listed => whole m next listed) found
    have inserted : ∀ n, n ∈ tried → n ∈ tried.insert m :=
      fun n known => Std.HashSet.mem_insert.2 (.inr known)
    have room₁ : graph.untried tried₁ < depth + 1 :=
      Nat.lt_of_le_of_lt (untried_le fun n known => more₁ n (inserted n known)) room
    obtain ⟨more₂, listed, closed₂⟩ := ihRest room₁ (fun n member => inside n (.tail _ member)) failed
    have met : m ∈ tried₁ := more₁ m Std.HashSet.mem_insert_self
    refine ⟨fun n known => more₂ n (more₁ n (inserted n known)), fun n member => ?_, ?_⟩
    · cases member with
      | head => exact ⟨other, more₂ m met⟩
      | tail _ member => exact listed n member
    · intro n member untried_
      by_cases before : n ∈ tried₁
      · by_cases same : n = m
        · subst same
          exact ⟨other, fun next imports => more₂ next (imported next imports).2⟩
        · have outside : n ∉ tried.insert m := fun known =>
            (Std.HashSet.mem_insert.1 known).elim (fun eq => same (eq_of_beq eq).symm) untried_
          obtain ⟨differs, leads⟩ := closed₁ n before outside
          exact ⟨differs, fun next imports => more₂ next (leads next imports)⟩
      · exact closed₂ n member before

/-- There is a way to what is reached. -/
theorem wayTo_isSome (whole : graph.Whole) (reaches : graph.Reaches m target) :
    (graph.wayTo target graph.depth {} (graph.dependencies m)).1 ≠ none := by
  intro fails
  obtain ⟨found, tried, searched⟩ : ∃ found tried,
      graph.wayTo target graph.depth {} (graph.dependencies m) = (found, tried) := ⟨_, _, rfl⟩
  rw [searched] at fails
  obtain rfl : found = none := fails
  have room : graph.untried {} < graph.depth := by
    exact Nat.lt_succ_of_le
      (Nat.le_trans (List.length_filter_le _ _) (Nat.le_of_eq List.length_range))
  obtain ⟨-, imported, closed⟩ :=
    wayTo_none whole room (fun next listed => whole m next listed) searched
  -- All that is reached is tried, and the target never is.
  have passed : ∀ n, graph.Reaches m n → n ≠ target ∧ n ∈ tried := by
    intro n way
    induction way with
    | single imports => exact imported _ imports
    | tail _ imports ih =>
      have next := (closed _ ih.2 Std.HashSet.not_mem_empty).2 _ imports
      exact ⟨(closed _ next Std.HashSet.not_mem_empty).1, next⟩
  exact (passed target reaches).1 rfl

/-- A module on a cycle has a cycle that can be told. -/
theorem cycleThrough_isSome (whole : graph.Whole) (cycle : graph.Reaches m m) :
    graph.cycleThrough m ≠ none := by
  rw [cycleThrough, ne_eq, Option.map_eq_none_iff]
  exact wayTo_isSome whole cycle

end ImportGraph

end FrontEnd
