import FrontEnd.Proofs.Module.Levels
import Mathlib.Data.Fintype.EquivFin
import Mathlib.Data.Fintype.Pigeonhole
import Mathlib.Data.List.Chain

/-!
Scheduling is exact. The level of a module is the length of its longest chain of imports, and every
module that reaches no cycle has one. A module without a level imports another one without, and as
there are finitely many of them, some are met again: it reaches a cycle.
-/

namespace FrontEnd

/-- A module is listed in the level of this number. -/
def StandsAt (levels : List (List Nat)) (k m : Nat) : Prop :=
  ∃ level, levels[k]? = some level ∧ m ∈ level

section Levels

variable {level : List Nat} {levels : List (List Nat)} {k m : Nat}

theorem standsAt_cons_zero : StandsAt (level :: levels) 0 m ↔ m ∈ level := by
  simp [StandsAt]

theorem standsAt_cons_succ : StandsAt (level :: levels) (k + 1) m ↔ StandsAt levels k m := by
  simp [StandsAt]

theorem mem_flatten_iff_standsAt : m ∈ levels.flatten ↔ ∃ k, StandsAt levels k m := by
  rw [List.mem_flatten]
  constructor
  · rintro ⟨level, listed, member⟩
    obtain ⟨k, found⟩ := List.getElem?_of_mem listed
    exact ⟨k, level, found, member⟩
  · rintro ⟨k, level, found, member⟩
    exact ⟨level, List.mem_of_getElem? found, member⟩

end Levels

namespace ImportGraph

variable {graph : ImportGraph} {m target k : Nat} {placed : Std.HashSet Nat} {waiting : List Nat}

/-! ### Chains and cycles -/

/-- A module lies on a cycle of imports or reaches one. -/
def MeetsCycle (graph : ImportGraph) (m : Nat) : Prop :=
  ∃ other, Relation.ReflTransGen graph.Imports m other ∧ graph.Reaches other other

/-- A chain of so many imports starts at a module. -/
def HasChain (graph : ImportGraph) (m edges : Nat) : Prop :=
  ∃ path : List Nat, path.length = edges ∧ List.IsChain graph.Imports (m :: path)

/-- The longest chain of imports that starts at a module has so many. -/
def LongestChain (graph : ImportGraph) (m edges : Nat) : Prop :=
  graph.HasChain m edges ∧ ∀ other, graph.HasChain m other → other ≤ edges

theorem LongestChain.unique {edges other : Nat} (longest : graph.LongestChain m edges)
    (longest' : graph.LongestChain m other) : edges = other :=
  Nat.le_antisymm (longest'.2 _ longest.1) (longest.2 _ longest'.1)

theorem HasChain.cons {edges : Nat} (imports : graph.Imports m target)
    (chain : graph.HasChain target edges) : graph.HasChain m (edges + 1) := by
  obtain ⟨path, length, linked⟩ := chain
  exact ⟨target :: path, congrArg (· + 1) length, List.isChain_cons_cons.2 ⟨imports, linked⟩⟩

/-- A chain is empty or goes on at something that its module imports. -/
theorem HasChain.cases {edges : Nat} (chain : graph.HasChain m edges) : edges = 0 ∨
    ∃ target rest, graph.Imports m target ∧ graph.HasChain target rest ∧ edges = rest + 1 := by
  obtain ⟨path, rfl, linked⟩ := chain
  cases path with
  | nil => exact .inl rfl
  | cons target path =>
    obtain ⟨imports, linked⟩ := List.isChain_cons_cons.1 linked
    exact .inr ⟨target, path.length, imports, ⟨path, rfl, linked⟩, rfl⟩

/-- If imports can always be followed further, there is a walk without an end. -/
theorem exists_walk {inside : Nat → Prop}
    (goesOn : ∀ m, inside m → ∃ target, graph.Imports m target ∧ inside target) (start : inside m) :
    ∃ walk : Nat → Nat, walk 0 = m ∧
      ∀ step, inside (walk step) ∧ graph.Imports (walk step) (walk (step + 1)) := by
  choose next imports stays using goesOn
  let here (step : Nat) : { m // inside m } :=
    (fun at_ => ⟨next at_.1 at_.2, stays at_.1 at_.2⟩)^[step] ⟨m, start⟩
  refine ⟨fun step => (here step).1, rfl, fun step => ⟨(here step).2, ?_⟩⟩
  have moved : here (step + 1) = ⟨next (here step).1 (here step).2, _⟩ :=
    Function.iterate_succ_apply' _ step _
  change graph.Imports (here step).1 (here (step + 1)).1
  rw [moved]
  exact imports (here step).1 (here step).2

/-- A walk leads from each of its modules to all that come after. -/
theorem reaches_along {walk : Nat → Nat}
    (onward : ∀ step, graph.Imports (walk step) (walk (step + 1))) {first second : Nat}
    (less : first < second) : graph.Reaches (walk first) (walk second) := by
  induction second, less using Nat.le_induction with
  | base => exact .single (onward first)
  | succ second _ ih => exact ih.tail (onward second)

/-- A walk without an end among finitely many modules meets one of them again. -/
theorem meetsCycle_of_walk {walk : Nat → Nat} {bound : Nat}
    (onward : ∀ step, graph.Imports (walk step) (walk (step + 1)))
    (below : ∀ step, walk step < bound) : graph.MeetsCycle (walk 0) := by
  have again : ∀ first second, first < second → walk first = walk second →
      graph.MeetsCycle (walk 0) := by
    intro first second less same
    have cycle : graph.Reaches (walk first) (walk first) := by
      nth_rewrite 2 [same]
      exact reaches_along onward less
    rcases Nat.eq_zero_or_pos first with rfl | positive
    · exact ⟨walk 0, .refl, cycle⟩
    · exact ⟨walk first, (reaches_along onward positive).to_reflTransGen, cycle⟩
  obtain ⟨first, second, differ, same⟩ := Finite.exists_ne_map_eq_of_infinite
    fun step => (⟨walk step, below step⟩ : Fin bound)
  have same : walk first = walk second := congrArg Fin.val same
  rcases Nat.lt_or_gt_of_ne differ with less | less
  · exact again first second less same
  · exact again second first less same.symm

/-! ### Levels -/

/-- What a module of a level imports is placed already or stands at an earlier level. -/
theorem levelsOf_imports (imports : graph.Imports m target) :
    ∀ k, StandsAt (graph.levelsOf placed waiting).1 k m → target ∈ placed ∨
      ∃ earlier < k, StandsAt (graph.levelsOf placed waiting).1 earlier target := by
  fun_induction graph.levelsOf placed waiting with
  | case1 placed waiting none_ =>
    intro k stands
    obtain ⟨level, found, -⟩ := stands
    cases found
  | case2 placed waiting found less level levels rest made ih =>
    rw [made] at ih
    intro k stands
    cases k with
    | zero =>
      have free := (List.mem_filter.1 (standsAt_cons_zero.1 stands)).2
      exact .inl (isFree_iff.1 free target imports)
    | succ k =>
      rcases ih k (standsAt_cons_succ.1 stands) with known | ⟨earlier, below, listed⟩
      · rcases Std.HashSet.mem_insertMany_list.1 known with known | added
        · exact .inl known
        · exact .inr ⟨0, Nat.succ_pos k, standsAt_cons_zero.2 (List.contains_iff_mem.1 added)⟩
      · exact .inr ⟨earlier + 1, Nat.succ_lt_succ below, standsAt_cons_succ.2 listed⟩

/-- A module above the first level imports one of the level before. -/
theorem levelsOf_previous : ∀ k, StandsAt (graph.levelsOf placed waiting).1 (k + 1) m →
    ∃ target, graph.Imports m target ∧ StandsAt (graph.levelsOf placed waiting).1 k target := by
  fun_induction graph.levelsOf placed waiting with
  | case1 placed waiting none_ =>
    intro k stands
    obtain ⟨level, found, -⟩ := stands
    cases found
  | case2 placed waiting found less level levels rest made ih =>
    have perm := graph.levelsOf_perm (placed.insertMany level) (graph.held placed waiting)
    rw [made] at ih perm
    intro k stands
    have stands := standsAt_cons_succ.1 stands
    cases k with
    | zero =>
      -- The module was held back by something that its level before has placed.
      have held : m ∈ graph.held placed waiting := perm.mem_iff.1
        (List.mem_append_left _ (mem_flatten_iff_standsAt.2 ⟨0, stands⟩))
      have held : ¬ graph.isFree placed m = true := by simpa using (List.mem_filter.1 held).2
      rw [isFree_iff] at held
      obtain ⟨target, imports, fresh⟩ : ∃ target, graph.Imports m target ∧ target ∉ placed := by
        simpa using held
      have lowest : StandsAt (graph.levelsOf (placed.insertMany level)
          (graph.held placed waiting)).1 0 m := made ▸ stands
      rcases levelsOf_imports imports 0 lowest with known | ⟨earlier, below, -⟩
      · have added := (Std.HashSet.mem_insertMany_list.1 known).resolve_left fresh
        exact ⟨target, imports, standsAt_cons_zero.2 (List.contains_iff_mem.1 added)⟩
      · exact absurd below (Nat.not_lt_zero _)
    | succ k =>
      obtain ⟨target, imports, listed⟩ := ih k stands
      exact ⟨target, imports, standsAt_cons_succ.2 listed⟩

/-- No level is empty, and each lists its modules in the order in which they wait. -/
theorem levelsOf_sublist (graph : ImportGraph) (placed : Std.HashSet Nat) (waiting : List Nat) :
    (∀ level ∈ (graph.levelsOf placed waiting).1, level ≠ [] ∧ level.Sublist waiting) ∧
      (graph.levelsOf placed waiting).2.Sublist waiting := by
  fun_induction graph.levelsOf placed waiting with
  | case1 placed waiting none_ =>
    exact ⟨fun level listed => absurd listed List.not_mem_nil, List.Sublist.refl _⟩
  | case2 placed waiting found less level levels rest made ih =>
    rw [made] at ih
    have held : (graph.held placed waiting).Sublist waiting := List.filter_sublist
    refine ⟨fun listed member => ?_, ih.2.trans held⟩
    cases member with
    | head => exact ⟨found, List.filter_sublist⟩
    | tail _ member => exact ⟨(ih.1 listed member).1, (ih.1 listed member).2.trans held⟩

/-! ### The schedule -/

theorem standsAt_imports (stands : StandsAt graph.schedule.levels k m)
    (imports : graph.Imports m target) :
    ∃ earlier < k, StandsAt graph.schedule.levels earlier target := by
  rw [schedule_eq] at stands ⊢
  exact (levelsOf_imports imports k stands).resolve_left Std.HashSet.not_mem_empty

theorem standsAt_previous (stands : StandsAt graph.schedule.levels (k + 1) m) :
    ∃ target, graph.Imports m target ∧ StandsAt graph.schedule.levels k target := by
  rw [schedule_eq] at stands ⊢
  exact levelsOf_previous k stands

theorem mem_scheduled : m ∈ graph.scheduled ↔ ∃ k, StandsAt graph.schedule.levels k m :=
  mem_flatten_iff_standsAt

/-- The number of a level is the length of the longest chains that start there. -/
theorem longestChain_of_standsAt (stands : StandsAt graph.schedule.levels k m) :
    graph.LongestChain m k := by
  induction k using Nat.strongRecOn generalizing m with
  | ind k ih =>
    constructor
    · cases k with
      | zero => exact ⟨[], rfl, List.isChain_singleton m⟩
      | succ k =>
        obtain ⟨target, imports, listed⟩ := standsAt_previous stands
        exact .cons imports (ih k (Nat.lt_succ_self k) listed).1
    · intro edges chain
      rcases chain.cases with rfl | ⟨target, rest, imports, onward, rfl⟩
      · exact Nat.zero_le k
      · obtain ⟨earlier, below, listed⟩ := standsAt_imports stands imports
        exact Nat.lt_of_le_of_lt ((ih earlier below listed).2 rest onward) below

/-- What a scheduled module imports, directly or not, is scheduled. -/
theorem scheduled_of_reflTransGen (listed : m ∈ graph.scheduled)
    (way : Relation.ReflTransGen graph.Imports m target) : target ∈ graph.scheduled := by
  induction way with
  | refl => exact listed
  | tail _ imports ih =>
    obtain ⟨k, stands⟩ := mem_scheduled.1 ih
    obtain ⟨earlier, -, stands⟩ := standsAt_imports stands imports
    exact mem_scheduled.2 ⟨earlier, stands⟩

theorem not_meetsCycle_of_mem_scheduled (listed : m ∈ graph.scheduled) : ¬ graph.MeetsCycle m :=
  fun ⟨_, way, cycle⟩ =>
    not_reaches_self_of_mem_scheduled (scheduled_of_reflTransGen listed way) cycle

/-- A module is scheduled or left over. -/
theorem mem_scheduled_or_left (inside : m < graph.size) : m ∈ graph.scheduled ∨
    m ∈ graph.schedule.cyclic ++ graph.schedule.blocked :=
  List.mem_append.1 (graph.schedule_perm.mem_iff.2 (List.mem_range.2 inside))

/-- What is left over meets a cycle. -/
theorem meetsCycle_of_left (whole : graph.Whole)
    (left : m ∈ graph.schedule.cyclic ++ graph.schedule.blocked) : graph.MeetsCycle m := by
  have goesOn : ∀ m, m ∈ graph.schedule.cyclic ++ graph.schedule.blocked →
      ∃ target, graph.Imports m target ∧
        target ∈ graph.schedule.cyclic ++ graph.schedule.blocked := by
    intro m left
    obtain ⟨target, imports, outside⟩ := imports_not_mem_scheduled left
    exact ⟨target, imports, (mem_scheduled_or_left (whole m target imports)).resolve_left outside⟩
  obtain ⟨walk, rfl, walks⟩ := exists_walk goesOn left
  have below : ∀ step, walk step < graph.size := fun step =>
    List.mem_range.1 (graph.schedule_perm.mem_iff.1 (List.mem_append_right _ (walks step).1))
  exact meetsCycle_of_walk (fun step => (walks step).2) below

/-- The modules that have no level are those that meet a cycle. -/
theorem mem_left_iff (whole : graph.Whole) (inside : m < graph.size) :
    m ∈ graph.schedule.cyclic ++ graph.schedule.blocked ↔ graph.MeetsCycle m := by
  refine ⟨meetsCycle_of_left whole, fun meets => ?_⟩
  exact (mem_scheduled_or_left inside).resolve_left fun listed =>
    not_meetsCycle_of_mem_scheduled listed meets

theorem Reaches.meetsCycle (cycle : graph.Reaches m m) : graph.MeetsCycle m := ⟨m, .refl, cycle⟩

/-- The schedule lists every module once, each list in ascending order. A module stands at the level
that is the length of its longest chain of imports if it meets no cycle, and then behind all that
it imports, of which something stands right before; it is listed as cyclic if it lies on a cycle,
and as blocked if it lies on none and reaches one. -/
theorem schedule_exact (whole : graph.Whole) :
    (graph.schedule.levels.flatten ++ (graph.schedule.cyclic ++ graph.schedule.blocked)).Perm
      (List.range graph.size) ∧
    (∀ level ∈ graph.schedule.levels, level ≠ [] ∧ level.Pairwise (· < ·)) ∧
    graph.schedule.cyclic.Pairwise (· < ·) ∧ graph.schedule.blocked.Pairwise (· < ·) ∧
    ∀ m < graph.size,
      (∀ k, StandsAt graph.schedule.levels k m ↔ ¬ graph.MeetsCycle m ∧ graph.LongestChain m k) ∧
      (∀ k, StandsAt graph.schedule.levels k m →
        (∀ target, graph.Imports m target →
          ∃ earlier < k, StandsAt graph.schedule.levels earlier target) ∧
        (0 < k → ∃ target, graph.Imports m target ∧
          StandsAt graph.schedule.levels (k - 1) target)) ∧
      (m ∈ graph.schedule.cyclic ↔ graph.Reaches m m) ∧
      (m ∈ graph.schedule.blocked ↔ ¬ graph.Reaches m m ∧ graph.MeetsCycle m) := by
  have ascending : ∀ list : List Nat, list.Sublist (List.range graph.size) →
      list.Pairwise (· < ·) := fun list sub => List.Pairwise.sublist sub List.pairwise_lt_range
  obtain ⟨levels, rest⟩ := graph.levelsOf_sublist {} (List.range graph.size)
  refine ⟨graph.schedule_perm, ?_, ?_, ?_, fun m inside => ⟨fun k => ⟨fun stands => ?_, ?_⟩,
    fun k stands => ⟨fun target => standsAt_imports stands, fun positive => ?_⟩, ?_, ?_⟩⟩
  · rw [schedule_eq]
    exact fun level listed => ⟨(levels level listed).1, ascending level (levels level listed).2⟩
  · rw [schedule_eq]
    exact ascending _ (List.filter_sublist.trans rest)
  · rw [schedule_eq]
    exact ascending _ (List.filter_sublist.trans rest)
  · exact ⟨not_meetsCycle_of_mem_scheduled (mem_scheduled.2 ⟨k, stands⟩),
      longestChain_of_standsAt stands⟩
  · rintro ⟨free, longest⟩
    have listed := (mem_scheduled_or_left inside).resolve_right fun left =>
      free (meetsCycle_of_left whole left)
    obtain ⟨level, stands⟩ := mem_scheduled.1 listed
    exact longest.unique (longestChain_of_standsAt stands) ▸ stands
  · obtain ⟨k, rfl⟩ := Nat.exists_eq_succ_of_ne_zero (Nat.ne_of_gt positive)
    exact standsAt_previous stands
  · rw [mem_cyclic, mem_left_iff whole inside]
    exact ⟨And.right, fun cycle => ⟨cycle.meetsCycle, cycle⟩⟩
  · rw [mem_blocked, mem_left_iff whole inside, and_comm]

/-- Of three modules the first imports itself, the second imports the first and the third imports
nothing. -/
theorem schedule_exact_small :
    let graph := ofEdges 3 [(0, 0), (1, 0)]
    graph.Whole ∧ 0 ∈ graph.schedule.cyclic ∧ 1 ∈ graph.schedule.blocked ∧
      StandsAt graph.schedule.levels 0 2 := by
  intro graph
  have edges : ∀ {m target}, graph.Imports m target → target = 0 ∧ m ≠ 2 := by
    intro m target imports
    have listed := (imports_ofEdges.1 imports).2
    simp only [List.mem_cons, Prod.mk.injEq, List.not_mem_nil, or_false] at listed
    omega
  have size : graph.size = 3 := size_ofEdges _ _
  have whole : graph.Whole := fun m target imports => by rw [(edges imports).1, size]; decide
  have ends : ∀ {m target}, graph.Reaches m target → target = 0 := by
    intro m target way
    cases way with
    | single imports => exact (edges imports).1
    | tail _ imports => exact (edges imports).1
  have itself : graph.Imports 0 0 := imports_ofEdges.2 (by decide)
  have first : graph.Imports 1 0 := imports_ofEdges.2 (by decide)
  have alone : ¬ graph.MeetsCycle 2 := by
    rintro ⟨other, way, cycle⟩
    rcases way.cases_head with rfl | ⟨next, imports, -⟩
    · exact absurd (ends cycle) (by decide)
    · exact (edges imports).2 rfl
  have longest : graph.LongestChain 2 0 := by
    refine ⟨⟨[], rfl, List.isChain_singleton 2⟩, fun other chain => ?_⟩
    rcases chain.cases with rfl | ⟨target, rest, imports, -⟩
    · exact Nat.le_refl 0
    · exact absurd rfl (edges imports).2
  obtain ⟨-, -, -, -, each⟩ := schedule_exact whole
  refine ⟨whole, ?_, ?_, ?_⟩
  · exact (each 0 (size ▸ by decide)).2.2.1.2 (.single itself)
  · exact (each 1 (size ▸ by decide)).2.2.2.2
      ⟨fun way => absurd (ends way) (by decide), 0, .single first, .single itself⟩
  · exact ((each 2 (size ▸ by decide)).1 0).2 ⟨alone, longest⟩

end ImportGraph

end FrontEnd
