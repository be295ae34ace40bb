import FrontEnd.Proofs.Module.Search
import Mathlib.Data.List.Basic

/-!
The schedule of an import graph. Read level by level it is an order in which every module stands
behind all that it imports, so that no module in it lies on a cycle. What is left over imports
something that is left over.
-/

namespace FrontEnd

namespace ImportGraph

variable {graph : ImportGraph} {m target : Nat} {order : List Nat} {placed : Std.HashSet Nat}
  {waiting : List Nat}

/-- Every module of the list stands behind all its imports that are not placed before the list. -/
def Ordered (graph : ImportGraph) (placed : Std.HashSet Nat) (order : List Nat) : Prop :=
  ∀ before m after, order = before ++ m :: after →
    ∀ target, graph.Imports m target → target ∈ before ∨ target ∈ placed

/-- What a module of the list imports stands before it. -/
theorem Ordered.imports_mem {before after : List Nat}
    (ordered : graph.Ordered {} (before ++ m :: after)) (imports : graph.Imports m target) :
    target ∈ before :=
  (ordered before m after rfl target imports).resolve_right Std.HashSet.not_mem_empty

/-- Following an import leads to an earlier place in the list. -/
theorem Ordered.idxOf_lt (ordered : graph.Ordered {} order) (listed : m ∈ order)
    (imports : graph.Imports m target) : order.idxOf target < order.idxOf m := by
  obtain ⟨before, after, rfl, first⟩ := List.eq_append_cons_of_mem listed
  have earlier := ordered.imports_mem imports
  rw [List.idxOf_append_of_mem earlier, List.idxOf_append_of_notMem first, List.idxOf_cons_self]
  exact List.idxOf_lt_length_of_mem earlier

/-- No module of the list lies on a cycle. -/
theorem Ordered.not_reaches_self (ordered : graph.Ordered {} order) (listed : m ∈ order) :
    ¬ graph.Reaches m m := by
  have earlier : ∀ other, graph.Reaches m other →
      other ∈ order ∧ order.idxOf other < order.idxOf m := by
    intro other way
    induction way with
    | single imports =>
      have less := ordered.idxOf_lt listed imports
      exact ⟨List.idxOf_lt_length_iff.1 (Nat.lt_trans less (List.idxOf_lt_length_of_mem listed)),
        less⟩
    | tail _ imports ih =>
      have less := Nat.lt_trans (ordered.idxOf_lt ih.1 imports) ih.2
      exact ⟨List.idxOf_lt_length_iff.1 (Nat.lt_trans less (List.idxOf_lt_length_of_mem listed)),
        less⟩
  intro cycle
  exact Nat.lt_irrefl _ (earlier m cycle).2

/-! ### Levels -/

theorem isFree_iff :
    graph.isFree placed m = true ↔ ∀ target, graph.Imports m target → target ∈ placed := by
  simp only [isFree, List.all_eq_true, Imports, Std.HashSet.mem_iff_contains]

/-- Every waiting module is put into a level or left over, once. -/
theorem levelsOf_perm (graph : ImportGraph) (placed : Std.HashSet Nat) (waiting : List Nat) :
    ((graph.levelsOf placed waiting).1.flatten ++ (graph.levelsOf placed waiting).2).Perm
      waiting := by
  fun_induction graph.levelsOf placed waiting with
  | case1 placed waiting none_ => exact .refl _
  | case2 placed waiting found less level levels rest made ih =>
    rw [made] at ih
    have split_ : (level ++ graph.held placed waiting).Perm waiting :=
      List.filter_append_perm _ _
    rw [List.flatten_cons, List.append_assoc]
    exact (List.Perm.append_left level ih).trans split_

/-- The order of the levels is one by imports. -/
theorem levelsOf_ordered (graph : ImportGraph) (placed : Std.HashSet Nat) (waiting : List Nat) :
    graph.Ordered placed (graph.levelsOf placed waiting).1.flatten := by
  fun_induction graph.levelsOf placed waiting with
  | case1 placed waiting none_ =>
    intro before m after empty
    exact absurd (congrArg List.length empty) (by simp)
  | case2 placed waiting found less level levels rest made ih =>
    rw [made] at ih
    intro before m after same target imports
    rw [List.flatten_cons] at same
    -- The module is in a later level, or in this one, where all imports are placed.
    have cases_ : (∃ inner, before = level ++ inner ∧ levels.flatten = inner ++ m :: after) ∨
        m ∈ level := by
      rcases List.append_eq_append_iff.1 same with ⟨inner, front, back⟩ | ⟨inner, front, back⟩
      · exact .inl ⟨inner, front, back⟩
      · cases inner with
        | nil => exact .inl ⟨[], by simpa using front.symm, back.symm⟩
        | cons first inner =>
          obtain ⟨rfl, -⟩ := List.cons.inj back
          exact .inr (front ▸ List.mem_append_right _ List.mem_cons_self)
    rcases cases_ with ⟨inner, rfl, later⟩ | listed
    · rcases ih inner m after later target imports with earlier | known
      · exact .inl (List.mem_append_right _ earlier)
      · rcases Std.HashSet.mem_insertMany_list.1 known with known | added
        · exact .inr known
        · exact .inl (List.mem_append_left _ (List.contains_iff_mem.1 added))
    · exact .inr (isFree_iff.1 (List.mem_filter.1 listed).2 target imports)

/-- What is left over imports something that is left over. -/
theorem levelsOf_rest (graph : ImportGraph) (placed : Std.HashSet Nat) (waiting : List Nat)
    (left : m ∈ (graph.levelsOf placed waiting).2) :
    ∃ target, graph.Imports m target ∧ target ∉ placed ∧
      target ∉ (graph.levelsOf placed waiting).1.flatten := by
  fun_induction graph.levelsOf placed waiting with
  | case1 placed waiting none_ =>
    have held : ¬ graph.isFree placed m = true := by
      intro isFree
      have listed : m ∈ graph.free placed waiting := List.mem_filter.2 ⟨left, isFree⟩
      rw [none_] at listed
      cases listed
    rw [isFree_iff] at held
    obtain ⟨target, imports, fresh⟩ : ∃ target, graph.Imports m target ∧ target ∉ placed := by
      simpa using held
    exact ⟨target, imports, fresh, List.not_mem_nil⟩
  | case2 placed waiting found less level levels rest made ih =>
    rw [made] at ih
    obtain ⟨target, imports, fresh, later⟩ := ih left
    rw [Std.HashSet.mem_insertMany_list, not_or, List.contains_iff_mem] at fresh
    refine ⟨target, imports, fresh.1, ?_⟩
    rw [List.flatten_cons, List.mem_append, not_or]
    exact ⟨fresh.2, later⟩

/-- The modules that reach no cycle, in the order in which they are declared. -/
def scheduled (graph : ImportGraph) : List Nat := graph.schedule.levels.flatten

theorem schedule_eq (graph : ImportGraph) : graph.schedule =
    let made := graph.levelsOf {} (List.range graph.size)
    let placed := Std.HashSet.ofList made.1.flatten
    { levels := made.1
      cyclic := made.2.filter (graph.importsItself placed)
      blocked := made.2.filter fun m => !graph.importsItself placed m } := by
  simp only [schedule, List.partition_eq_filter_filter]
  rfl

/-- What is left over is told apart. -/
theorem left_perm (graph : ImportGraph) :
    (graph.schedule.cyclic ++ graph.schedule.blocked).Perm
      (graph.levelsOf {} (List.range graph.size)).2 := by
  rw [schedule_eq]
  exact List.filter_append_perm _ _

/-- Every module is scheduled, on a cycle or behind one, and listed once. -/
theorem schedule_perm (graph : ImportGraph) :
    (graph.scheduled ++ (graph.schedule.cyclic ++ graph.schedule.blocked)).Perm
      (List.range graph.size) := by
  rw [scheduled, schedule_eq graph]
  exact (List.Perm.append_left _ (List.filter_append_perm _ _)).trans (graph.levelsOf_perm {} _)

theorem scheduled_ordered (graph : ImportGraph) : graph.Ordered {} graph.scheduled := by
  rw [scheduled, schedule_eq]
  exact graph.levelsOf_ordered {} _

theorem scheduled_nodup (graph : ImportGraph) : graph.scheduled.Nodup :=
  (List.nodup_append.1 (graph.schedule_perm.nodup_iff.2 List.nodup_range)).1

theorem left_nodup (graph : ImportGraph) :
    (graph.schedule.cyclic ++ graph.schedule.blocked).Nodup :=
  (List.nodup_append.1 (graph.schedule_perm.nodup_iff.2 List.nodup_range)).2.1

theorem not_mem_scheduled (left : m ∈ graph.schedule.cyclic ++ graph.schedule.blocked) :
    m ∉ graph.scheduled := by
  intro listed
  have nodup := graph.schedule_perm.nodup_iff.2 List.nodup_range
  exact (List.nodup_append.1 nodup).2.2 m listed m left rfl

/-- A module that is left over imports one that is not scheduled. -/
theorem imports_not_mem_scheduled (left : m ∈ graph.schedule.cyclic ++ graph.schedule.blocked) :
    ∃ target, graph.Imports m target ∧ target ∉ graph.scheduled := by
  obtain ⟨target, imports, -, outside⟩ :=
    graph.levelsOf_rest {} _ (graph.left_perm.mem_iff.1 left)
  rw [scheduled, schedule_eq]
  exact ⟨target, imports, outside⟩

/-- A module that is scheduled lies on no cycle. -/
theorem not_reaches_self_of_mem_scheduled (listed : m ∈ graph.scheduled) : ¬ graph.Reaches m m :=
  graph.scheduled_ordered.not_reaches_self listed

/-- The search for cycles, which does not follow what is scheduled, finds them. -/
theorem importsItself_scheduled :
    graph.importsItself (Std.HashSet.ofList graph.scheduled) m = true ↔ graph.Reaches m m :=
  importsItself_iff fun _ listed => not_reaches_self_of_mem_scheduled
    (List.contains_iff_mem.1 (Std.HashSet.mem_ofList.1 listed))

/-- The modules of the list of cycles are those on a cycle. -/
theorem mem_cyclic : m ∈ graph.schedule.cyclic ↔
    m ∈ graph.schedule.cyclic ++ graph.schedule.blocked ∧ graph.Reaches m m := by
  rw [graph.left_perm.mem_iff, ← importsItself_scheduled, scheduled, schedule_eq]
  exact List.mem_filter

/-- The modules of the list of blocked ones are those left over that are on no cycle. -/
theorem mem_blocked : m ∈ graph.schedule.blocked ↔
    m ∈ graph.schedule.cyclic ++ graph.schedule.blocked ∧ ¬ graph.Reaches m m := by
  rw [graph.left_perm.mem_iff, ← importsItself_scheduled, scheduled, schedule_eq, List.mem_filter,
    Bool.not_eq_true', Bool.not_eq_true]

end ImportGraph

end FrontEnd
