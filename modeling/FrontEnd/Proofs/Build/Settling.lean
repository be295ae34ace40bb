import FrontEnd.Proofs.Build.Linking

/-!
Settling the modules that reach a cycle. The phases of a build go through modules one after the other
and touch no other than the one that they are at. So a module that is gone through once is as it was
until then, and stays as it is from then on.
-/

namespace FrontEnd

/-! ### One module after the other -/

section Steps

variable {σ : Type u} {β : Type v} {look : σ → Nat → Option Module} {step : σ → Nat → σ} {before after : List Nat}
  {index other : Nat}

/-- What no step changes is the same after all of them. -/
theorem foldl_keeps (kept : σ → β) (each : ∀ state index, kept (step state index) = kept state)
    (indices : List Nat) (state : σ) : kept (indices.foldl step state) = kept state := by
  induction indices generalizing state with
  | nil => rfl
  | cons index rest ih => exact (ih _).trans (each state index)

/-- Steps leave alone what they are not at. -/
def Own (look : σ → Nat → Option Module) (step : σ → Nat → σ) : Prop :=
  ∀ state index other, other ≠ index → look (step state index) other = look state other

theorem Own.foldl (own : Own look step) {indices : List Nat} (outside : other ∉ indices)
    (state : σ) : look (indices.foldl step state) other = look state other := by
  induction indices generalizing state with
  | nil => rfl
  | cons index rest ih =>
    rw [List.mem_cons, not_or] at outside
    exact (ih outside.2 _).trans (own state index other outside.1)

/-- A module that is gone through once is touched by one step. -/
theorem Own.foldl_at (own : Own look step) (once : (before ++ index :: after).Nodup) (state : σ) :
    look ((before ++ index :: after).foldl step state) index =
      look (step (before.foldl step state) index) index := by
  rw [List.foldl_append, List.foldl_cons]
  exact own.foldl (List.nodup_cons.1 (List.nodup_append.1 once).2.1).1 _

/-- What stands before the module that is gone through is as it is in the end. -/
theorem Own.foldl_before (own : Own look step) (once : (before ++ index :: after).Nodup)
    (earlier : other ∈ before) (state : σ) :
    look ((before ++ index :: after).foldl step state) other =
      look (before.foldl step state) other := by
  rw [List.foldl_append]
  exact own.foldl (fun later => (List.nodup_append.1 once).2.2 other earlier other later rfl) _

theorem not_mem_before (once : (before ++ index :: after).Nodup) : index ∉ before :=
  fun earlier => (List.nodup_append.1 once).2.2 index earlier index List.mem_cons_self rfl

end Steps

namespace Module

/-- The module is the same up to its status and its diagnostics. -/
structure Stays (m m' : Module) : Prop where
  same : m.Same m'
  links : m'.links = m.links
  exports : m'.exports = m.exports
  honest : m.queue.Honest → m'.queue.Honest

theorem stays_fail (m : Module) (diag : Diagnostic) : m.Stays (m.fail diag) :=
  ⟨⟨rfl, rfl, rfl, rfl⟩, rfl, rfl, fun honest => honest.push diag⟩

end Module

namespace Modules

variable {modules : Modules} {names : Interner} {graph : ImportGraph} {index : Nat} {m : Module}

theorem own_block : Own (fun (modules : Modules) index => modules[index]?) block := by
  intro modules index other different
  dsimp only
  rw [block, Array.getElem?_modify, if_neg different.symm]

theorem own_failCycle (names : Interner) (graph : ImportGraph) :
    Own (fun (modules : Modules) index => modules[index]?) (failCycle names graph) := by
  intro modules index other different
  unfold failCycle
  split
  · rfl
  · dsimp only
    rw [Array.getElem?_modify, if_neg different.symm]

theorem size_settleCycles (modules : Modules) (names : Interner) (graph : ImportGraph)
    (schedule : Schedule) : (modules.settleCycles names graph schedule).size = modules.size := by
  have cycles : ∀ (modules : Modules) index,
      (modules.failCycle names graph index).size = modules.size := by
    intro modules index
    unfold failCycle
    split
    · rfl
    · exact Array.size_modify
  have blocks : ∀ (modules : Modules) index, (modules.block index).size = modules.size :=
    fun modules index => Array.size_modify
  exact (foldl_keeps Array.size blocks _ _).trans (foldl_keeps Array.size cycles _ _)

/-- A module that reaches no cycle is left alone. -/
theorem settleCycles_scheduled (modules : Modules) (names : Interner)
    (listed : index ∈ graph.scheduled) :
    (modules.settleCycles names graph graph.schedule)[index]? = modules[index]? := by
  have outside : index ∉ graph.schedule.cyclic ++ graph.schedule.blocked :=
    fun left => ImportGraph.not_mem_scheduled left listed
  rw [List.mem_append, not_or] at outside
  exact (own_block.foldl outside.2 _).trans ((own_failCycle names graph).foldl outside.1 modules)

theorem getElem?_failCycle (names : Interner) (whole : graph.Whole)
    (cycle : graph.Reaches index index) (found : modules[index]? = some m) :
    ∃ diag, diag.isError = true ∧
      (modules.failCycle names graph index)[index]? = some (m.fail diag) := by
  unfold failCycle
  split
  · rename_i none_
    exact absurd none_ (ImportGraph.cycleThrough_isSome whole cycle)
  · rw [Array.getElem?_modify, if_pos rfl, found]
    exact ⟨_, rfl, rfl⟩

/-- A module that reaches a cycle has failed or is blocked, and is as it was otherwise. -/
theorem settleCycles_left (names : Interner) (whole : graph.Whole)
    (left : index ∈ graph.schedule.cyclic ++ graph.schedule.blocked)
    (found : modules[index]? = some m) :
    ∃ settled, (modules.settleCycles names graph graph.schedule)[index]? = some settled ∧
      m.Stays settled ∧ (settled.status = .failed ∨ settled.status = .blocked) := by
  obtain ⟨once, once', apart⟩ := List.nodup_append.1 graph.left_nodup
  have cycles := own_failCycle names graph
  unfold settleCycles
  rcases List.mem_append.1 left with cyclic | blocked
  · have cycle := (ImportGraph.mem_cyclic.1 cyclic).2
    have outside : index ∉ graph.schedule.blocked := fun later => apart index cyclic index later rfl
    rw [own_block.foldl outside]
    obtain ⟨before, after, split_⟩ := List.append_of_mem cyclic
    rw [split_] at once ⊢
    have earlier := (cycles.foldl (not_mem_before once) modules).trans found
    obtain ⟨diag, -, failed⟩ := getElem?_failCycle names whole cycle earlier
    exact ⟨_, (cycles.foldl_at once modules).trans failed, m.stays_fail diag, .inl rfl⟩
  · have outside : index ∉ graph.schedule.cyclic := fun earlier => apart index earlier index blocked rfl
    have kept := (cycles.foldl outside modules).trans found
    obtain ⟨before, after, split_⟩ := List.append_of_mem blocked
    rw [split_] at once' ⊢
    have earlier := (own_block.foldl (not_mem_before once') _).trans kept
    have blocked' : ∀ modules : Modules, modules[index]? = some m →
        (modules.block index)[index]? = some { m with status := .blocked } := by
      intro modules found
      rw [block, Array.getElem?_modify, if_pos rfl, found]
      rfl
    exact ⟨_, (own_block.foldl_at once' _).trans (blocked' _ earlier),
      ⟨⟨rfl, rfl, rfl, rfl⟩, rfl, rfl, fun honest => honest⟩, .inr rfl⟩

end Modules

end FrontEnd
