import FrontEnd.Proofs.Specialization.Cache

/-!
Two requests in lockstep. A request that knows the same instances, is nested less deeply and may be
nested further comes to the same as another, unless that other one runs into the recursion limit.
-/

namespace FrontEnd

namespace Specializer

/-- Two requests over the same tables that find the same instances, where the second is nested only
in keys in which the first is nested as well. -/
structure Alike (first second : Specializer) : Prop where
  indexed : first.context.Indexed
  tables : ∃ instances, second.context = { first.context with instances }
  found : ∀ key, first.find? key = second.find? key
  chain : ∀ key ∈ second.chain, key ∈ first.chain

/-- The second outcome is that of the first, unless the first ran into the recursion limit. -/
inductive Tracks : Except TypeError α × Specializer → Except TypeError α × Specializer → Prop where
  | done (value : α) {after after' : Specializer} (alike : Alike after after') :
    Tracks (.ok value, after) (.ok value, after')
  | failed (err : TypeError) (after after' : Specializer) :
    Tracks (.error err, after) (.error err, after')
  | runaway (err : TypeError) (limit : err.IsRunaway) (after : Specializer)
    (ended : Except TypeError α × Specializer) : Tracks (.error err, after) ended

/-- Steps that keep requests in lockstep. -/
def Lockstep (steps steps' : SpecializeM α) : Prop :=
  ∀ first second, Alike first second → Tracks (outcome steps first) (outcome steps' second)

variable {apply apply' : TemplateId → List TemplateArgument → SpecializeM TypeId}
  {steps steps' : SpecializeM α} {rest rest' : α → SpecializeM β}

/-! ### Single steps -/

theorem lockstep_pure (value : α) :
    Lockstep (pure value : SpecializeM α) (pure value) := fun _ _ alike => .done value alike

theorem lockstep_lift (result : Except TypeError α) :
    Lockstep (liftM result : SpecializeM α) (liftM result) := by
  intro first second alike
  rw [outcome_lift, outcome_lift]
  cases result with
  | ok value => exact .done value alike
  | error err => exact .failed err first second

theorem lockstep_bind (start : Lockstep steps steps')
    (next : ∀ value, Lockstep (rest value) (rest' value)) :
    Lockstep (steps >>= rest) (steps' >>= rest') := by
  intro first second alike
  have tracks := start first second alike
  rw [outcome_bind, outcome_bind]
  generalize outcome steps first = ended, outcome steps' second = ended' at tracks
  cases tracks with
  | done value alike => exact next value _ _ alike
  | failed err after after' => exact .failed err after after'
  | runaway err limit after => exact .runaway err limit after _

theorem lockstep_intern (form : TypeForm) : Lockstep (intern form) (intern form) := by
  rintro first ⟨context, chain, pending, declared⟩ ⟨indexed, ⟨instances, rfl⟩, found, nested⟩
  exact .done _ ⟨TypeContext.indexed_intern indexed form, ⟨instances, rfl⟩, found, nested⟩

theorem lockstep_qualified (ty : TypeId) (quals : Qualifiers) :
    Lockstep (qualified ty quals) (qualified ty quals) := by
  rintro first ⟨context, chain, pending, declared⟩ ⟨indexed, ⟨instances, rfl⟩, found, nested⟩
  exact .done _ ⟨TypeContext.indexed_qualified indexed ty quals, ⟨instances, rfl⟩, found, nested⟩

theorem lockstep_reserve (name : Name) (kind : DefKind) (key : SpecializationKey) :
    Lockstep (reserve name kind key) (reserve name kind key) := by
  rintro first ⟨context, chain, pending, declared⟩ ⟨indexed, ⟨instances, rfl⟩, found, nested⟩
  obtain ⟨entry, after, given, ran⟩ := outcome_reserve name kind key first
  have indexed' := TypeContext.indexed_declare indexed given
  rw [ran]
  cases given
  exact .done _ ⟨indexed', ⟨instances, rfl⟩, found, nested⟩

theorem lockstep_complete (id : DefId) (body : DefBody) :
    Lockstep (complete id body) (complete id body) := by
  rintro first ⟨context, chain, pending, declared⟩ ⟨indexed, ⟨instances, rfl⟩, found, nested⟩
  rw [outcome_complete, outcome_complete]
  dsimp only
  cases defined : first.context.registry.define id body with
  | ok registry =>
    exact .done _ ⟨TypeContext.indexed_registry indexed defined, ⟨instances, rfl⟩, found, nested⟩
  | error err => exact .failed (.registry err) _ _

theorem lockstep_nested (key : SpecializationKey) (inside : Lockstep steps steps') :
    Lockstep (nested key steps) (nested key steps') := by
  intro first second alike
  rw [outcome_nested, outcome_nested]
  have tracks := inside { first with chain := first.chain ++ [key] }
    { second with chain := second.chain ++ [key] }
    ⟨alike.indexed, alike.tables, alike.found, fun other member =>
      List.mem_append.2 ((List.mem_append.1 member).imp_left (alike.chain other))⟩
  generalize outcome steps { first with chain := first.chain ++ [key] } = ended,
    outcome steps' { second with chain := second.chain ++ [key] } = ended' at tracks
  cases tracks with
  | done value inner => exact .done value ⟨inner.indexed, inner.tables, inner.found, alike.chain⟩
  | failed err after after' => exact .failed err _ _
  | runaway err limit after => exact .runaway err limit _ _

/-- Remembering an instance under a key that has none so far. With a key that has one, the two might
differ in which of the two instances they find. -/
theorem Alike.remembered {first second : Specializer} {key : SpecializationKey}
    (alike : Alike first second) (absent : first.find? key = none) (made : Instance) :
    Alike { first with pending := first.pending ++ [(key, made)] }
      { second with pending := second.pending ++ [(key, made)] } := by
  refine ⟨alike.indexed, alike.tables, fun other => ?_, alike.chain⟩
  rw [find?_remembered absent, find?_remembered (alike.found key ▸ absent), alike.found other]

/-- Steps that are put together in the same way keep in lockstep if applying templates does. -/
theorem lockstep_of_paired
    (applied : ∀ id arguments, Lockstep (apply id arguments) (apply' id arguments))
    (paired : Paired apply apply' steps steps') : Lockstep steps steps' := by
  induction paired with
  | pure value => exact lockstep_pure value
  | lift result => exact lockstep_lift result
  | intern form => exact lockstep_intern form
  | qualified ty quals => exact lockstep_qualified ty quals
  | apply id arguments => exact applied id arguments
  | bind _ _ first second => exact lockstep_bind first second

/-! ### Making instances -/

section Making

variable {first second : Specializer} {key : SpecializationKey}

/-- A template that makes no definition: its result is remembered once its parts are known. -/
private theorem tracks_plain (wrap : α → Instance) (inside : Lockstep steps steps')
    (grows : ∀ state : Specializer, state.context.Indexed → Grew state (outcome steps state))
    (alike : Alike first second) (absent : first.find? key = none) :
    Tracks
      (outcome (do
        let value ← nested key steps
        remember key (wrap value)
        return wrap value) first)
      (outcome (do
        let value ← nested key steps'
        remember key (wrap value)
        return wrap value) second) := by
  have tracks := lockstep_nested key inside first second alike
  obtain ⟨-, added, made, growth, new, -⟩ := grew_nested first (grows _ alike.indexed)
  rw [outcome_bind, outcome_bind]
  generalize outcome (nested key steps) first = ended at tracks growth
  generalize outcome (nested key steps') second = ended' at tracks
  cases tracks with
  | done value inner => exact .done _ (inner.remembered (growth.absent absent new) (wrap value))
  | failed err after after' => exact .failed err _ _
  | runaway err limit after => exact .runaway err limit _ _

/-- A template that makes a definition: its type is remembered before its parts are known. -/
private theorem tracks_nominal {steps steps' : SpecializeM DefBody} (name : Name) (kind : DefKind)
    (inside : Lockstep steps steps') (alike : Alike first second)
    (absent : first.find? key = none) :
    Tracks
      (outcome (do
        let entry ← reserve name kind key
        remember key (.type entry.type)
        let body ← nested key steps
        complete entry.id body
        return Instance.type entry.type) first)
      (outcome (do
        let entry ← reserve name kind key
        remember key (.type entry.type)
        let body ← nested key steps'
        complete entry.id body
        return Instance.type entry.type) second) := by
  have tracks := lockstep_reserve name kind key first second alike
  obtain ⟨entry, context, given, ran⟩ := outcome_reserve name kind key first
  have unfound : (outcome (reserve name kind key) first).2.find? key = none := by
    rw [ran]
    cases given
    exact absent
  rw [outcome_bind, outcome_bind]
  generalize outcome (reserve name kind key) first = ended at tracks unfound
  generalize outcome (reserve name kind key) second = ended' at tracks
  cases tracks with
  | done entry inner =>
    have rest := lockstep_bind (lockstep_nested key inside) fun body =>
      lockstep_bind (lockstep_complete entry.id body) fun _ =>
        lockstep_pure (Instance.type entry.type)
    exact rest _ _ (inner.remembered unfound (.type entry.type))
  | failed err after after' => exact .failed err _ _
  | runaway err limit after => exact .runaway err limit _ _

theorem tracks_make
    (applied : ∀ id arguments, Lockstep (apply id arguments) (apply' id arguments))
    (grows : ∀ id arguments state, state.context.Indexed →
      Grew state (outcome (apply id arguments) state))
    (template : TemplateDef) (alike : Alike first second) (absent : first.find? key = none) :
    Tracks (outcome (make key template apply) first) (outcome (make key template apply') second) := by
  have body := lockstep_of_paired applied (evalBody_paired key apply apply' template.body)
  unfold make
  split
  case h_1 target _ =>
    exact tracks_plain .type (lockstep_of_paired applied (eval_paired key apply apply' target))
      (grew_of_built grows (eval_built key apply target)) alike absent
  case h_2 parameters result variadic _ =>
    have signature := fun apply' => Paired.bind (evalAll_paired key apply apply' parameters)
      fun parameters => .bind (eval_paired key apply apply' result)
        fun result => .intern (.function parameters result variadic)
    exact tracks_plain (fun signature => .function ⟨key, signature⟩)
      (lockstep_of_paired applied (signature apply'))
      (grew_of_built grows (signature apply).built) alike absent
  all_goals exact tracks_nominal _ _ (by simp_all) alike absent

end Making

/-! ### Whole requests -/

theorem lockstep_requireType {budget budget' : Nat} {id : TemplateId}
    {arguments : List TemplateArgument} (request : Lockstep (specializeWithin budget id arguments)
      (specializeWithin budget' id arguments)) :
    Lockstep (applyWithin budget id arguments) (applyWithin budget' id arguments) :=
  lockstep_bind request fun _ => lockstep_lift _

/-- A request that may be nested further keeps in lockstep with another. -/
theorem lockstep_specializeWithin {budget budget' : Nat} (room : budget ≤ budget')
    (id : TemplateId) (arguments : List TemplateArgument) :
    Lockstep (specializeWithin budget id arguments) (specializeWithin budget' id arguments) := by
  induction budget using Nat.strongRecOn generalizing budget' id arguments with
  | ind budget ih =>
    rintro first ⟨context, chain, pending, declared⟩ alike
    obtain ⟨instances, same⟩ := alike.tables
    cases same
    rw [outcome_specializeWithin, outcome_specializeWithin]
    dsimp only
    cases first.context.templates.get? id with
    | none => exact .failed _ _ _
    | some template =>
      dsimp only
      have bound : ({ first.context with instances } : TypeContext).bind id template arguments =
          first.context.bind id template arguments := by
        apply TypeContext.bind_congr <;> rfl
      rw [bound]
      cases first.context.bind id template arguments with
      | error err => exact .failed _ _ _
      | ok full =>
        dsimp only
        rw [← alike.found]
        cases found : first.find? ⟨id, full⟩ with
        | some made => exact .done _ alike
        | none =>
          dsimp only
          cases budget with
          | zero => exact .runaway _ ⟨_, _, rfl⟩ _ _
          | succ fewer =>
            obtain ⟨more, rfl⟩ : ∃ more, budget' = more + 1 := ⟨budget' - 1, by omega⟩
            dsimp only
            by_cases busy : (⟨id, full⟩ : SpecializationKey) ∈ first.chain
            · rw [if_pos busy]
              exact .runaway _ ⟨_, _, rfl⟩ _ _
            · rw [if_neg busy, if_neg fun inner => busy (alike.chain _ inner)]
              exact tracks_make (fun id arguments => lockstep_requireType
                (ih fewer (Nat.lt_succ_self _) (by omega) id arguments))
                (applyWithin_grew fewer) template alike found

end Specializer

end FrontEnd
