import FrontEnd.Proofs.Specialization.Cache
import FrontEnd.Proofs.Specialization.Meaning

/-!
Instances are what their templates say. Every definition that a request made and kept has the body
that its template denotes under its key, in all tables that requests lead to.
-/

namespace FrontEnd

namespace Specializer

variable {before after state : Specializer} {key : SpecializationKey} {template : TemplateDef}

/-! ### Changes beside the tables -/

/-- Nothing is forgotten where pool and templates stay the same. -/
theorem onward_of_same (orderly : before.Orderly)
    (pool : after.context.pool = before.context.pool)
    (templates : after.context.templates = before.context.templates)
    (found : ∀ key made, before.find? key = some made → after.find? key = some made) :
    Onward before after where
  exact := orderly.indexed.pool.exact
  exact' := by rw [pool]; exact orderly.indexed.pool.exact
  pool := by rw [pool]; exact .refl _
  known := orderly.mirror.context.templates.known
  templates id template registered := by rw [templates]; exact registered
  found := found

/-- Remembering an instance under a key that has none forgets no other. -/
theorem find?_kept {found made : Instance} {other : SpecializationKey}
    (absent : state.find? key = none) (known : state.find? other = some made) :
    ({ state with pending := state.pending ++ [(key, found)] } : Specializer).find? other =
      some made := by
  rw [find?_remembered absent, if_neg ?_, known]
  rintro rfl
  rw [absent] at known
  cases known

/-- A state stays orderly when a known key is put on the chain. -/
theorem Orderly.nested (orderly : state.Orderly) (keyed : Known state.context.extent key) :
    Orderly { state with chain := state.chain ++ [key] } where
  mirror := { orderly.mirror with
    chain := (Renames.image_id _).symm
    knownChain := known_append.2 ⟨orderly.mirror.knownChain, known_cons.2 ⟨keyed, known_nil⟩⟩ }
  indexed := orderly.indexed

/-- A state stays orderly when a definition is reserved for a known key and its type remembered. -/
theorem Orderly.reserved {name : Name} {kind : DefKind} {entry : TypeDef} {context : TypeContext}
    (orderly : state.Orderly) (keyed : Known state.context.extent key)
    (reserved : state.context.declare (reservation name kind key) = .ok (entry, context)) :
    state.context.extent.Within context.extent ∧
      Orderly { state with
        context, declared := state.declared ++ [entry.id]
        pending := state.pending ++ [(key, .type entry.type)] } := by
  obtain ⟨_, _, given, ran⟩ := outcome_reserve name kind key state
  cases given.symm.trans reserved
  have follows := Follows.reserve name kind orderly.mirror keyed
  rw [Renaming.image_id key, ran] at follows
  have within : state.context.extent.Within context.extent := by
    obtain ⟨-, -, within, -⟩ := follows
    exact within
  obtain ⟨mirror, known⟩ := follows.self
  have follows := Follows.remember mirror (keyed.within within)
    (known_instanceType.2 (known_entry.1 (known_ok.1 known)).2.1)
  rw [Renaming.image_id key,
    show Renaming.id.image (Instance.type entry.type) = .type entry.type from rfl,
    outcome_remember] at follows
  exact ⟨within, follows.self.1, TypeContext.indexed_declare orderly.indexed reserved⟩

/-! ### Making an instance -/

/-- A template that makes no definition adds what was added for its parts, and its result. -/
private theorem plain_accounts {steps : SpecializeM α} (wrap : α → Instance) {made : Instance}
    (absent : state.find? key = none)
    (registered : state.context.templates.get? key.template = some template)
    (grown : Grew { state with chain := state.chain ++ [key] }
      (outcome steps { state with chain := state.chain ++ [key] }))
    (inside : ∀ {value last}, outcome steps { state with chain := state.chain ++ [key] } =
      (.ok value, last) → Step { state with chain := state.chain ++ [key] } last ∧
        DenotesInstance last key template.body (wrap value))
    (ran : outcome (do
        let value ← nested key steps
        remember key (wrap value)
        return wrap value) state = (.ok made, after)) : Accounts state after := by
  obtain ⟨value, middle, ran₁, ran₂⟩ := outcome_bind_inv ran
  rw [outcome_nested] at ran₁
  obtain ⟨-, added, results, growth, -⟩ := grown
  rcases ended : outcome steps { state with chain := state.chain ++ [key] } with ⟨result, last⟩
  rw [ended] at ran₁ growth
  cases ran₁
  obtain ⟨step, denotes⟩ := inside ended
  obtain ⟨outside, new⟩ := growth_nested growth
  have lacking := outside.absent absent new
  rw [outcome_bind_ok (outcome_remember _ _ _)] at ran₂
  cases ran₂
  have onward : Onward last { last with
      chain := state.chain, pending := last.pending ++ [(key, wrap value)] } :=
    onward_of_same step.orderly rfl rfl fun other made known => find?_kept lacking known
  refine ⟨fun id entry above live => (step.fresh id entry above live).onward onward,
    fun other made known => ?_⟩
  rw [find?_remembered lacking] at known
  split at known
  · rename_i same
    cases known
    subst same
    exact .inr ⟨template, onward.templates _ _ (step.onward.templates _ _ registered),
      fun _ => denotes.onward onward⟩
  · exact (step.results other made known).imp_right fun explained => explained.onward onward

/-- A template that makes a definition gives it, last of all, the body that it denotes. -/
private theorem nominal_accounts {kind : DefKind} {steps : SpecializeM DefBody} {made : Instance}
    (orderly : state.Orderly) (keyed : Known state.context.extent key)
    (absent : state.find? key = none) (idle : key ∉ state.chain)
    (registered : state.context.templates.get? key.template = some template)
    (nominal : template.body.defKind? = some kind)
    (inside : ∀ {start body last}, start.Orderly → Known start.context.extent key →
      start.context.templates = state.context.templates →
      state.context.extent.Within start.context.extent →
      outcome steps start = (.ok body, last) →
      Evaluates start body last (DenotesBody last key template.body body))
    (ran : outcome (do
        let entry ← reserve template.name kind key
        remember key (.type entry.type)
        let body ← nested key steps
        complete entry.id body
        return Instance.type entry.type) state = (.ok made, after)) : Accounts state after := by
  obtain ⟨entry, context, reserved, ran₀⟩ := outcome_reserve template.name kind key state
  obtain ⟨bare, live, growth⟩ := growth_reserved absent idle registered nominal reserved
  rw [outcome_bind_ok ran₀, outcome_bind_ok (outcome_remember _ _ _)] at ran
  -- The definition is reserved and its type remembered.
  obtain ⟨within, orderly₁⟩ := orderly.reserved keyed reserved
  have keyed₁ : Known context.extent key := keyed.within within
  have carries : entry.specialization = some key := by
    obtain ⟨rfl, -⟩ := TypeContext.declare_ok reserved
    rfl
  -- Its parts are evaluated, and it gets its body.
  obtain ⟨body, middle, ran₁, ran₂⟩ := outcome_bind_inv ran
  rw [outcome_nested] at ran₁
  generalize ended : outcome steps _ = result at ran₁
  obtain ⟨result, last⟩ := result
  cases ran₁
  obtain ⟨step, -, denotes⟩ := inside (orderly₁.nested keyed₁) keyed₁ growth.templates within ended
  obtain ⟨_, final, ran₂, ran₃⟩ := outcome_bind_inv ran₂
  cases ran₃
  rw [outcome_complete] at ran₂
  dsimp only at ran₂
  split at ran₂
  · rename_i registry defined
    cases ran₂
    obtain ⟨stored, live', -, -, -, found⟩ := TypeRegistry.define_ok defined
    have kept := (step.old entry.id (TypeRegistry.lt_size_of_get? live)).trans live
    cases kept.symm.trans live'
    have onward : Onward last { last with
        context := { last.context with registry }, chain := state.chain } :=
      onward_of_same step.orderly rfl rfl fun _ _ known => known
    have given := onward.templates _ _ (step.onward.templates _ _
      ((congrArg (·.get? key.template) growth.templates).trans registered))
    refine ⟨fun id other above present => ?fresh, fun other result known => ?results⟩
    case results =>
      rcases step.results other result known with earlier | explained
      · have earlier' := (growth.find? other).symm.trans earlier
        by_cases same : key = other
        · subst same
          exact .inr ⟨template, given, fun plain => by simp [nominal] at plain⟩
        · exact .inl (by simpa [same] using earlier')
      · exact .inr (explained.onward onward)
    case fresh =>
      rw [found] at present
      by_cases same : id = entry.id
      · rw [if_pos same] at present
        cases present
        exact ⟨key, template, body, carries, given, rfl, denotes.onward onward⟩
      · rw [if_neg same] at present
        have behind : context.registry.defs.size ≤ id.index := by
          refine Nat.le_of_not_lt fun below => same ?_
          exact List.mem_singleton.1 ((growth.fresh id).2 ⟨above, below⟩)
        exact (step.fresh id other behind present).onward onward
  · cases ran₂

/-- Making an instance adds only what templates denote. -/
theorem make_accounts {apply : TemplateId → List TemplateArgument → SpecializeM TypeId}
    (applies : Applies apply)
    (grows : ∀ id arguments state, state.context.Indexed →
      Grew state (outcome (apply id arguments) state)) {made : Instance}
    (orderly : state.Orderly) (keyed : Known state.context.extent key)
    (absent : state.find? key = none) (idle : key ∉ state.chain)
    (registered : state.context.templates.get? key.template = some template)
    (ran : outcome (make key template apply) state = (.ok made, after)) : Accounts state after := by
  have known : Known state.context.extent template.body :=
    (known_templateDef.1 (orderly.mirror.context.templates.known _ _ registered)).2
  have deeper := orderly.nested keyed
  have nominal : ∀ kind, template.body.defKind? = some kind →
      outcome (do
        let entry ← reserve template.name kind key
        remember key (.type entry.type)
        let body ← nested key (evalBody key apply template.body)
        complete entry.id body
        return Instance.type entry.type) state = (.ok made, after) → Accounts state after := by
    intro kind shape ran
    exact nominal_accounts orderly keyed absent idle registered shape
      (fun orderly keyed _ within ran => evalBody_means applies orderly keyed (known.within within) ran)
      ran
  unfold make at ran
  split at ran
  case h_1 target shape =>
    rw [shape] at known
    refine plain_accounts .type absent registered
      (grew_of_built grows (eval_built key apply target) _ orderly.indexed) (fun ran => ?_) ran
    obtain ⟨step, -, denotes⟩ :=
      eval_means applies target deeper keyed (known_synonymBody.1 known) ran
    exact ⟨step, shape ▸ ⟨_, rfl, denotes⟩⟩
  case h_2 parameters result variadic shape =>
    rw [shape] at known
    obtain ⟨known₁, known₂⟩ := known_functionBody.1 known
    refine plain_accounts (fun signature => .function ⟨key, signature⟩) absent registered
      (grew_of_built grows (evalFunction_built key apply parameters result variadic) _
        orderly.indexed) ?_ ran
    · intro signature last ran
      obtain ⟨types, state₁, ran₁, ran₂⟩ := outcome_bind_inv ran
      obtain ⟨step₁, inner₁, denotes₁⟩ := evalAll_means applies parameters deeper keyed known₁ ran₁
      obtain ⟨ty, state₂, ran₂, ran₃⟩ := outcome_bind_inv ran₂
      obtain ⟨step₂, inner₂, denotes₂⟩ := eval_means applies result step₁.orderly
        (keyed.within step₁.within) (known₂.within step₁.within) ran₂
      have form : Known state₂.context.extent (TypeForm.function types ty variadic) :=
        known_function.2 ⟨inner₁.within step₂.within, inner₂⟩
      obtain ⟨step₃, -, interned⟩ := evaluates_intern step₂.orderly form ran₃
      refine ⟨(step₁.trans step₂).trans step₃, shape ▸ ⟨types, ty, signature, rfl, ?_, ?_, interned⟩⟩
      · exact denotes₁.onward (step₂.onward.trans step₃.onward)
      · exact denotes₂.onward step₃.onward
  all_goals
    rename_i shape
    refine nominal _ ?_ ran
    rw [shape]
    rfl

/-! ### Whole requests -/

/-- A request that succeeds makes its result known under its key, and adds only definitions that
have the bodies that their templates denote. -/
theorem specializeWithin_means (budget : Nat) (id : TemplateId) (arguments : List TemplateArgument)
    (state : Specializer) (made : Instance) (after : Specializer) (orderly : state.Orderly)
    (known : Known state.context.extent arguments)
    (ran : outcome (specializeWithin budget id arguments) state = (.ok made, after)) :
    Evaluates state made after (∃ template full, after.context.templates.get? id = some template ∧
      after.context.bind id template arguments = .ok full ∧ after.find? ⟨id, full⟩ = some made) := by
  induction budget using Nat.strongRecOn generalizing id arguments state made after with
  | ind budget ih =>
    have follows := specializeWithin_follows budget id orderly.mirror known
    rw [Renaming.image_id arguments, ran] at follows
    obtain ⟨mirror, inner⟩ := follows.self
    obtain ⟨-, -, within, -⟩ := follows
    obtain ⟨⟨indexed, added, results, growth, -⟩, under⟩ :=
      specializeWithin_grew budget id arguments state orderly.indexed
    rw [ran] at indexed growth
    have onward := onward_of_growth orderly indexed.pool growth
    have step : Accounts state after → Step state after :=
      fun accounts => ⟨accounts, ⟨mirror, indexed⟩, within, onward, growth.old⟩
    obtain ⟨template, full, registered, bound, found⟩ := under made after ran
    have wellKnown := orderly.mirror.context.templates.known id template registered
    refine ⟨step ?_, known_ok.1 inner, template, full, onward.templates id template registered,
      TypeContext.bind_grown onward.pool onward.templates wellKnown bound, found⟩
    rcases course budget id arguments state with ⟨err, ran'⟩ | ⟨_, _, _, _, _, _, ran'⟩ |
      ⟨template', full', fewer, enough, registered', bound', absent, idle, ran'⟩
    · cases ran.symm.trans ran'
    · cases ran.symm.trans ran'
      exact (Step.refl orderly).toAccounts
    · cases registered.symm.trans registered'
      cases bound.symm.trans bound'
      have keyed : Known state.context.extent (SpecializationKey.mk id full) := by
        have same := (orderly.mirror.context.shared.bind id wellKnown known).2
        rw [bound] at same
        exact known_key.2 (known_ok.1 same)
      refine make_accounts (fun id arguments state ty after orderly known ran => ?_)
        (fun id arguments state indexed => ?_) orderly keyed absent idle registered (ran'.symm.trans ran)
      · rw [outcome_applyWithin] at ran
        rcases inner : outcome (specializeWithin fewer id arguments) state with ⟨err | made, last⟩ <;>
          rw [inner] at ran
        · cases ran
        · obtain ⟨step, result, template, full, registered, bound, found⟩ :=
            ih fewer (by omega) id arguments state made last orderly known inner
          cases made with
          | type own =>
            cases ran
            exact ⟨step, known_instanceType.1 result, template, full, registered, bound, found⟩
          | function own => cases ran
      · exact applyWithin_grew fewer id arguments state indexed

end Specializer

end FrontEnd
