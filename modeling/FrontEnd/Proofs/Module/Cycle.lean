import FrontEnd.Proofs.Module.Schedule

/-!
The cycle that is told of a module. The search for it keeps what it has tried over all its branches,
so that no module is met twice on the way; the depth that it may go to is never what ends it.
-/

namespace FrontEnd

/-- A path along imports that starts and ends with a module and meets no other module twice. -/
def IsCycle (imports : Nat → Nat → Prop) (m : Nat) (path : List Nat) : Prop :=
  ∃ inner, path = m :: (inner ++ [m]) ∧ List.IsChain imports path ∧ inner.Nodup ∧ m ∉ inner

namespace IsCycle

variable {imports imports' : Nat → Nat → Prop} {m : Nat} {path : List Nat}

theorem imp (cycle : IsCycle imports m path)
    (each : ∀ source target, imports source target → imports' source target) :
    IsCycle imports' m path := by
  obtain ⟨inner, same, linked, once, outside⟩ := cycle
  exact ⟨inner, same, linked.imp each, once, outside⟩

/-- The second module of a cycle is imported by the first. -/
theorem second (cycle : IsCycle imports m path) :
    ∃ next, path[1]? = some next ∧ imports m next := by
  obtain ⟨inner, rfl, linked, -, -⟩ := cycle
  cases inner with
  | nil => exact ⟨m, rfl, (List.isChain_cons_cons.1 linked).1⟩
  | cons next rest => exact ⟨next, rfl, (List.isChain_cons_cons.1 linked).1⟩

/-- A module with a cycle through it reaches itself. -/
theorem reaches (cycle : IsCycle imports m path) : Relation.TransGen imports m m := by
  obtain ⟨inner, rfl, linked, -, -⟩ := cycle
  cases inner with
  | nil => exact .single (List.isChain_cons_cons.1 linked).1
  | cons first rest =>
    obtain ⟨leads, onward⟩ := List.isChain_cons_cons.1 linked
    have way := List.relationReflTransGen_of_exists_isChain_cons _ onward
      (by simp : (first :: (rest ++ [m])).getLast (List.cons_ne_nil _ _) = m)
    exact .head' leads way

end IsCycle

namespace ImportGraph

variable {graph : ImportGraph} {m target depth : Nat} {tried tried' : Std.HashSet Nat}
  {modules path : List Nat}

/-! ### What has been tried -/

/-- Imports lead along a path from one of some modules to the target, over modules that have not
been tried, and over none of them twice. -/
structure LeadsOver (graph : ImportGraph) (target : Nat) (tried : Std.HashSet Nat)
    (modules inner : List Nat) : Prop where
  starts : ∃ first ∈ modules, (inner ++ [target]).head? = some first
  linked : List.IsChain graph.Imports (inner ++ [target])
  once : inner.Nodup
  fresh : ∀ m ∈ inner, m ≠ target ∧ m ∉ tried

/-- A way goes on from a module that has not been tried to what this imports. -/
theorem LeadsOver.cons {inner rest : List Nat}
    (leads : graph.LeadsOver target (tried.insert m) (graph.dependencies m) inner)
    (other : m ≠ target) (fresh : m ∉ tried) :
    graph.LeadsOver target tried (m :: rest) (m :: inner) where
  starts := ⟨m, List.mem_cons_self, rfl⟩
  linked := by
    obtain ⟨first, imports, starts⟩ := leads.starts
    refine List.isChain_cons.2 ⟨fun next here => ?_, leads.linked⟩
    obtain rfl : next = first := Option.some.inj (here.symm.trans starts)
    exact imports
  once := List.nodup_cons.2
    ⟨fun met => (leads.fresh m met).2 Std.HashSet.mem_insert_self, leads.once⟩
  fresh := by
    intro n met
    cases met with
    | head => exact ⟨other, fresh⟩
    | tail _ met =>
      obtain ⟨differs, unknown⟩ := leads.fresh n met
      exact ⟨differs, fun known => unknown (Std.HashSet.mem_insert.2 (.inr known))⟩

end ImportGraph

end FrontEnd
