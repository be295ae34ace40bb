import FrontEnd.Proofs.Specialization.Binding
import FrontEnd.Proofs.Specialization.Request

/-!
Every request ends within the recursion limit. The keys in progress are pairwise different and no
more than the limit allows, so that requests are nested no deeper than that, whatever the templates
say; and a request that is refused for its depth tells the way that led there.
-/

namespace FrontEnd

namespace Specializer

/-! ### The recursion of requests -/

/-- The recursion of requests as it is, unrolled for so many levels and watched. The alarm takes the
place of what is nested deeper than the levels go, and of an instance that would be made inside of
keys of which two are equal or that are more than the limit. -/
def watched (alarm : SpecializeM Instance) :
    (levels : Nat) → TemplateId → List TemplateArgument → SpecializeM Instance
  | 0, _, _ => alarm
  | levels + 1, id, arguments => do
    let request ← get
    match request.context.templates.get? id with
    | none => throw (.unknownTemplate id)
    | some template =>
      let key : SpecializationKey := ⟨id, ← request.context.bind id template arguments⟩
      match request.find? key with
      | some made => return made
      | none =>
        let limit := request.context.config.recursionLimit
        let inside := request.chain ++ [key]
        if limit ≤ request.depth ∨ key ∈ request.chain then throw (request.refusal key)
        else if inside.Nodup ∧ inside.length ≤ limit then
          make key template fun id arguments => do
            requireType id (← watched alarm levels id arguments)
        else alarm

/-- What a watched template gives as a type. -/
def watchedType (alarm : SpecializeM Instance) (levels : Nat) (id : TemplateId)
    (arguments : List TemplateArgument) : SpecializeM TypeId := do
  requireType id (← watched alarm levels id arguments)

theorem outcome_watched (alarm : SpecializeM Instance) (levels : Nat) (id : TemplateId)
    (arguments : List TemplateArgument) (state : Specializer) :
    outcome (watched alarm (levels + 1) id arguments) state =
      match state.context.templates.get? id with
      | none => (.error (.unknownTemplate id), state)
      | some template => match state.context.bind id template arguments with
        | .error err => (.error err, state)
        | .ok full => match state.find? ⟨id, full⟩ with
          | some made => (.ok made, state)
          | none =>
            if state.context.config.recursionLimit ≤ state.depth ∨
                (⟨id, full⟩ : SpecializationKey) ∈ state.chain then
              (.error (state.refusal ⟨id, full⟩), state)
            else if (state.chain ++ [(⟨id, full⟩ : SpecializationKey)]).Nodup ∧
                (state.chain ++ [(⟨id, full⟩ : SpecializationKey)]).length ≤
                  state.context.config.recursionLimit then
              outcome (make ⟨id, full⟩ template (watchedType alarm levels)) state
            else outcome alarm state := by
  rw [watched, outcome_get_bind]
  cases state.context.templates.get? id with
  | none => rfl
  | some template =>
    dsimp only
    cases bound : state.context.bind id template arguments with
    | error err => rfl
    | ok full =>
      rw [outcome_bind_ok (outcome_lift _ _)]
      dsimp only
      cases state.find? ⟨id, full⟩ with
      | some made => rfl
      | none =>
        dsimp only
        split
        · rfl
        · split <;> rfl

/-! ### Steps inside of keys -/

/-- The way on which a request ran into the limit, with the keys that it begins with. -/
structure Overrun (outer : List SpecializationKey) (limit : Nat) (path : List SpecializationKey) :
    Prop where
  outer : outer <+: path
  length : path.length ≤ limit + 1
  once : path.dropLast.Nodup
  stop : path.length = limit + 1 ∨ ∃ last ∈ path.dropLast, path.getLast? = some last

/-- The outcome of steps is that of the watched steps, the keys in progress are the same behind them
as before, and the limit was run into only on a way that begins with the outer keys. -/
structure Guarded (chain outer : List SpecializationKey) (limit : Nat)
    (ended ended' : Except TypeError α × Specializer) : Prop where
  same : ended' = ended
  chain : ended.2.chain = chain
  config : ended.2.context.config.recursionLimit = limit
  overrun : ∀ allowed path, ended.1 = .error (.recursionLimitExceeded allowed path) →
    allowed = limit ∧ Overrun outer limit path

/-- Steps that come to the same when they are watched, inside of some keys. -/
def Abides (chain outer : List SpecializationKey) (limit : Nat) (steps steps' : SpecializeM α) :
    Prop :=
  ∀ state : Specializer, state.chain = chain → state.context.config.recursionLimit = limit →
    Guarded chain outer limit (outcome steps state) (outcome steps' state)

variable {chain outer : List SpecializationKey} {limit : Nat} {key : SpecializationKey}
  {apply apply' : TemplateId → List TemplateArgument → SpecializeM TypeId}
  {steps steps' : SpecializeM α} {rest rest' : α → SpecializeM β}

theorem abides_lift {result : Except TypeError α} (tame : Tame result) :
    Abides chain outer limit (liftM result : SpecializeM α) (liftM result) := by
  intro state inside allowed
  rw [outcome_lift]
  exact ⟨rfl, inside, allowed, fun _ _ failed => absurd ⟨_, _, rfl⟩ (tame _ failed)⟩

theorem abides_pure (value : α) :
    Abides chain outer limit (pure value : SpecializeM α) (pure value) :=
  fun _ inside allowed => ⟨rfl, inside, allowed, nofun⟩

theorem abides_intern (form : TypeForm) : Abides chain outer limit (intern form) (intern form) :=
  fun _ inside allowed => ⟨rfl, inside, allowed, nofun⟩

theorem abides_qualified (ty : TypeId) (quals : Qualifiers) :
    Abides chain outer limit (qualified ty quals) (qualified ty quals) :=
  fun _ inside allowed => ⟨rfl, inside, allowed, nofun⟩

theorem abides_remember (made : Instance) :
    Abides chain outer limit (remember key made) (remember key made) :=
  fun _ inside allowed => ⟨rfl, inside, allowed, nofun⟩

theorem abides_reserve (name : Name) (kind : DefKind) :
    Abides chain outer limit (reserve name kind key) (reserve name kind key) := by
  intro state inside allowed
  obtain ⟨entry, context, declared, ran⟩ := outcome_reserve name kind key state
  obtain ⟨-, rfl⟩ := TypeContext.declare_ok declared
  rw [ran]
  exact ⟨rfl, inside, allowed, nofun⟩

theorem abides_complete (id : DefId) (body : DefBody) :
    Abides chain outer limit (complete id body) (complete id body) := by
  intro state inside allowed
  rw [outcome_complete]
  cases state.context.registry.define id body with
  | ok registry => exact ⟨rfl, inside, allowed, nofun⟩
  | error err => exact ⟨rfl, inside, allowed, nofun⟩

theorem abides_bind (first : Abides chain outer limit steps steps')
    (second : ∀ value, Abides chain outer limit (rest value) (rest' value)) :
    Abides chain outer limit (steps >>= rest) (steps' >>= rest') := by
  intro state inside allowed
  obtain ⟨same, kept, still, overrun⟩ := first state inside allowed
  rw [outcome_bind, outcome_bind, same]
  rcases ran : outcome steps state with ⟨err | value, after⟩ <;> rw [ran] at kept still overrun
  · exact ⟨rfl, kept, still, fun _ _ failed => overrun _ _ (by cases failed; rfl)⟩
  · exact second value after kept still

theorem abides_nested (inner : Abides (chain ++ [key]) outer limit steps steps') :
    Abides chain outer limit (nested key steps) (nested key steps') := by
  intro state inside allowed
  obtain ⟨same, -, still, overrun⟩ := inner { state with chain := state.chain ++ [key] }
    (by rw [inside]) allowed
  rw [outcome_nested, outcome_nested, same]
  exact ⟨rfl, inside, still, overrun⟩

/-- Steps that are put together in the same way abide by the limit if applying templates does. -/
theorem abides_of_paired
    (applied : ∀ id arguments, Abides chain outer limit (apply id arguments) (apply' id arguments))
    (paired : Paired apply apply' steps steps') : Abides chain outer limit steps steps' := by
  induction paired with
  | pure value => exact abides_pure value
  | lift result tame => exact abides_lift tame
  | intern form => exact abides_intern form
  | qualified ty quals => exact abides_qualified ty quals
  | apply id arguments => exact applied id arguments
  | bind _ _ first second => exact abides_bind first second

theorem abides_make
    (applied : ∀ id arguments,
      Abides (chain ++ [key]) outer limit (apply id arguments) (apply' id arguments))
    (template : TemplateDef) :
    Abides chain outer limit (make key template apply) (make key template apply') := by
  have body := abides_of_paired applied (evalBody_paired key apply apply' template.body)
  unfold make
  split
  case h_1 target _ =>
    refine abides_bind (abides_nested (abides_of_paired applied
      (eval_paired key apply apply' target))) fun ty => ?_
    exact abides_bind (abides_remember _) fun _ => abides_pure _
  case h_2 parameters result variadic _ =>
    have signature := Paired.bind (evalAll_paired key apply apply' parameters)
      fun parameters => .bind (eval_paired key apply apply' result)
        fun result => .intern (.function parameters result variadic)
    refine abides_bind (abides_nested (abides_of_paired applied signature)) fun signature => ?_
    exact abides_bind (abides_remember _) fun _ => abides_pure _
  all_goals
    refine abides_bind (abides_reserve _ _) fun entry => ?_
    refine abides_bind (abides_remember _) fun _ => ?_
    refine abides_bind (abides_nested (by simp_all)) fun body => ?_
    exact abides_bind (abides_complete _ _) fun _ => abides_pure _

/-! ### Requests -/

private theorem tame_bindFrom {ctx : TypeContext} {id : TemplateId} {arity : TypeError}
    (plain : ¬ arity.IsRunaway) (params : List TemplateParameter) (index : Nat)
    (arguments : List TemplateArgument) : Tame (ctx.bindFrom id arity index params arguments) := by
  induction params generalizing index arguments with
  | nil => exact tame_ok _
  | cons param params ih =>
    rw [TypeContext.bindFrom_cons]
    split
    · rintro err same
      cases same
      exact plain
    · split
      · have rest := ih (index + 1) (arguments.drop 1)
        cases others : ctx.bindFrom id arity (index + 1) params (arguments.drop 1) with
        | error err =>
          rintro _ same
          cases same
          exact rest err others
        | ok others => exact tame_ok _
      · rintro _ same ⟨limit, path, rfl⟩
        cases same

/-- Arguments that do not fit are another failure than the recursion limit. -/
theorem tame_bind (ctx : TypeContext) (id : TemplateId) (template : TemplateDef)
    (arguments : List TemplateArgument) : Tame (ctx.bind id template arguments) := by
  unfold TypeContext.bind
  dsimp only
  split
  · rintro _ same ⟨limit, path, rfl⟩
    cases same
  · refine tame_bindFrom ?_ _ _ _
    rintro ⟨limit, path, same⟩
    cases same

/-- A request is refused for its depth at the end of the way that it tells. -/
theorem guarded_refusal {state : Specializer} (once : state.chain.Nodup)
    (room : state.depth ≤ state.context.config.recursionLimit)
    (stops : state.depth = state.context.config.recursionLimit ∨ key ∈ state.chain) :
    Guarded state.chain (state.chain ++ [key]) state.context.config.recursionLimit
      ((.error (state.refusal key), state) : Except TypeError Instance × Specializer)
      (.error (state.refusal key), state) := by
  refine ⟨rfl, rfl, rfl, fun allowed path failed => ?_⟩
  cases failed
  have long : (state.chain ++ [key]).length = state.depth + 1 := by rw [List.length_append]; rfl
  refine ⟨rfl, List.prefix_refl _, by omega, by rwa [List.dropLast_concat], ?_⟩
  rw [List.dropLast_concat, List.getLast?_concat]
  exact stops.imp (fun deep => by omega) fun busy => ⟨key, busy, rfl⟩

theorem tame_requireType (id : TemplateId) (made : Instance) : Tame (requireType id made) := by
  unfold requireType
  split
  · exact tame_ok _
  · rintro _ same ⟨limit, path, rfl⟩
    cases same

/-- A way that begins with more keys begins with fewer of them. -/
theorem Guarded.shorten {ended ended' : Except TypeError α × Specializer}
    {longer : List SpecializationKey} (guarded : Guarded chain longer limit ended ended')
    (begins : outer <+: longer) : Guarded chain outer limit ended ended' :=
  { guarded with
    overrun := fun allowed path failed => by
      obtain ⟨rfl, way⟩ := guarded.overrun allowed path failed
      exact ⟨rfl, { way with outer := begins.trans way.outer }⟩ }

/-- The type of what a request gives is watched if the request is. -/
theorem guarded_applyWithin {alarm : SpecializeM Instance} {budget levels : Nat} {id : TemplateId}
    {arguments : List TemplateArgument} {state : Specializer}
    (guarded : Guarded chain outer limit (outcome (specializeWithin budget id arguments) state)
      (outcome (watched alarm levels id arguments) state)) :
    Guarded chain outer limit (outcome (applyWithin budget id arguments) state)
      (outcome (watchedType alarm levels id arguments) state) := by
  obtain ⟨same, kept, still, overrun⟩ := guarded
  rw [applyWithin, watchedType, outcome_bind, outcome_bind, same]
  rcases ran : outcome (specializeWithin budget id arguments) state with ⟨err | made, after⟩ <;>
    rw [ran] at kept still overrun
  · exact ⟨rfl, kept, still, fun _ _ failed => overrun _ _ (by cases failed; rfl)⟩
  · exact abides_lift (tame_requireType id made) after kept still

/-- A request comes to the same when it is watched, as long as the levels reach to the limit; where
it runs into the limit, the way goes on from its own key. -/
theorem guarded_specializeWithin (alarm : SpecializeM Instance) {budget levels : Nat}
    (enough : budget < levels) (id : TemplateId) (arguments : List TemplateArgument)
    {state : Specializer} (once : state.chain.Nodup)
    (room : state.depth + budget = state.context.config.recursionLimit) :
    ∃ outer, Guarded state.chain outer state.context.config.recursionLimit
        (outcome (specializeWithin budget id arguments) state)
        (outcome (watched alarm levels id arguments) state) ∧
      state.chain <+: outer ∧
      ∀ err, (outcome (specializeWithin budget id arguments) state).1 = .error err →
        err.IsRunaway → ∃ template full, state.context.templates.get? id = some template ∧
          state.context.bind id template arguments = .ok full ∧
          outer = state.chain ++ [⟨id, full⟩] := by
  induction budget using Nat.strongRecOn generalizing levels id arguments state with
  | ind budget ih =>
    obtain ⟨levels, rfl⟩ : ∃ fewer, levels = fewer + 1 := ⟨levels - 1, by omega⟩
    have shallow : state.depth ≤ state.context.config.recursionLimit := by omega
    rw [outcome_specializeWithin, outcome_watched]
    cases registered : state.context.templates.get? id with
    | none =>
      refine ⟨state.chain, ⟨rfl, rfl, rfl, nofun⟩, List.prefix_refl _, fun err failed runaway => ?_⟩
      obtain ⟨limit, path, rfl⟩ := runaway
      cases failed
    | some template =>
      dsimp only
      cases bound : state.context.bind id template arguments with
      | error err =>
        have tame := tame_bind state.context id template arguments err bound
        refine ⟨state.chain, ⟨rfl, rfl, rfl, fun allowed path failed => ?_⟩, List.prefix_refl _,
          fun other failed runaway => ?_⟩
        · cases failed
          exact absurd ⟨_, _, rfl⟩ tame
        · cases failed
          exact absurd runaway tame
      | ok full =>
        refine ⟨state.chain ++ [⟨id, full⟩], ?_, List.prefix_append _ _, fun _ _ _ =>
          ⟨template, full, rfl, bound, rfl⟩⟩
        dsimp only
        cases state.find? ⟨id, full⟩ with
        | some made => exact ⟨rfl, rfl, rfl, nofun⟩
        | none =>
          dsimp only
          cases budget with
          | zero =>
            rw [if_pos (.inl (by omega))]
            exact guarded_refusal once shallow (.inl room)
          | succ fewer =>
            dsimp only
            by_cases busy : (⟨id, full⟩ : SpecializationKey) ∈ state.chain
            · rw [if_pos busy, if_pos (.inr busy)]
              exact guarded_refusal once shallow (.inr busy)
            · have apart : (state.chain ++ [(⟨id, full⟩ : SpecializationKey)]).Nodup :=
                List.nodup_append.2 ⟨once, List.nodup_singleton _, fun key member _ single same =>
                  busy (by rwa [← List.mem_singleton.1 single, ← same])⟩
              have deeper : (state.chain ++ [(⟨id, full⟩ : SpecializationKey)]).length =
                  state.depth + 1 := by rw [List.length_append]; rfl
              rw [if_neg busy, if_neg (by simp only [busy, or_false]; omega),
                if_pos ⟨apart, by omega⟩]
              refine abides_make (fun id arguments inner inside allowed => ?_) template state rfl
                rfl
              have depth : inner.depth = state.depth + 1 := by rw [depth, inside, deeper]
              obtain ⟨outer, guarded, begins, -⟩ := @ih fewer (Nat.lt_succ_self _) levels (by omega)
                id arguments inner (inside ▸ apart) (by omega)
              rw [inside, allowed] at guarded
              exact guarded_applyWithin (guarded.shorten (inside ▸ begins))

theorem settled_fst (ended : Except TypeError Instance × Specializer) :
    (settled ended).1 = ended.1 := by
  rcases ended with ⟨_ | _, _⟩ <;> rfl

/-- A request ends, however the templates are built: it comes to what its recursion gives when it is
unrolled for one level more than the limit and watched, whatever the alarm does, so that it is
nested no deeper than the limit and the keys in progress are always pairwise different. A request
that runs into the limit tells the limit and the way: from its own key on, through no key twice but
perhaps the last, up to one key more than the limit or to a key that is on the way already. -/
theorem specialize_within_limit (ctx : TypeContext) (id : TemplateId)
    (arguments : List TemplateArgument) :
    let limit := ctx.config.recursionLimit
    let request : Specializer := { context := ctx }
    (∀ alarm, request.specialize id arguments =
      settled (outcome (watched alarm (limit + 1) id arguments) request)) ∧
    ∀ allowed path,
      (request.specialize id arguments).1 = .error (.recursionLimitExceeded allowed path) →
      allowed = limit ∧
      (∃ template full, ctx.templates.get? id = some template ∧
        ctx.bind id template arguments = .ok full ∧ path.head? = some ⟨id, full⟩) ∧
      path.length ≤ limit + 1 ∧ path.dropLast.Nodup ∧
      (path.length = limit + 1 ∨ ∃ last ∈ path.dropLast, path.getLast? = some last) := by
  intro limit request
  have whole : request.specialize id arguments =
      settled (outcome (specializeWithin limit id arguments) request) :=
    specialize_settled request id arguments
  have guarded := fun alarm => @guarded_specializeWithin alarm limit (limit + 1)
    (Nat.lt_succ_self limit) id arguments request List.nodup_nil (Nat.zero_add limit)
  refine ⟨fun alarm => ?_, fun allowed path failed => ?_⟩
  · obtain ⟨outer, same, -⟩ := guarded alarm
    rw [whole, same.same]
  · obtain ⟨outer, same, -, own⟩ := guarded (throw (.unknownTemplate id))
    have failed : (outcome (specializeWithin limit id arguments) request).1 =
        .error (.recursionLimitExceeded allowed path) := by
      rwa [whole, settled_fst] at failed
    obtain ⟨rfl, way⟩ := same.overrun allowed path failed
    obtain ⟨template, full, registered, bound, rfl⟩ := own _ failed ⟨_, _, rfl⟩
    obtain ⟨behind, rfl⟩ := way.outer
    exact ⟨rfl, ⟨template, full, registered, bound, rfl⟩, way.length, way.once, way.stop⟩

end Specializer

end FrontEnd
