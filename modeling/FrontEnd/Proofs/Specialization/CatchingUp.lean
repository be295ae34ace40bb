import FrontEnd.Proofs.Renaming.Ahead

/-!
Catching up. Of two requests the second is ahead: it knows more instances. Step for step the first
comes to the same, since what it makes is made in the second as well, or was made there before and is
settled. Only the recursion limit, or a request that runs into itself, may keep the first from where
the second is.
-/

namespace FrontEnd

namespace Specializer

variable {shift : Renaming} {one two start after : Specializer} {key : SpecializationKey}
  {template : TemplateDef} {apply : TemplateId → List TemplateArgument → SpecializeM TypeId}

/-! ### Making an instance -/

/-- Nothing is found under a key after steps inside of it if nothing was before. -/
theorem absent_nested {state middle : Specializer} {steps : SpecializeM α} {value : α}
    (absent : state.find? key = none)
    (ran : outcome (nested key steps) state = (.ok value, middle))
    (grown : Grew { state with chain := state.chain ++ [key] }
      (outcome steps { state with chain := state.chain ++ [key] })) : middle.find? key = none := by
  obtain ⟨-, added, results, growth, new, -⟩ := grew_nested state grown
  rw [ran] at growth
  exact growth.absent absent new

/-- Steps inside of a key keep the second ahead, whether it is inside of the key or not. -/
theorem carries_nested [Renames α] {steps : SpecializeM α}
    {second : Except TypeError α × Specializer} {chain' : List SpecializationKey}
    (ahead : Ahead shift one two) (keyed : Known one.context.extent key)
    (deeper : ∀ other ∈ chain', other ∈ two.chain ∨ other = shift.image key)
    (inside : Ahead shift { one with chain := one.chain ++ [key] } { two with chain := chain' } →
      Carries Ahead TypeError.IsRunaway shift { one with chain := one.chain ++ [key] }
        (outcome steps { one with chain := one.chain ++ [key] }) second) :
    Carries Ahead TypeError.IsRunaway shift one (outcome (nested key steps) one)
      (second.1, { second.2 with chain := two.chain }) := by
  rw [outcome_nested]
  have known : Known one.context.extent (one.chain ++ [key]) :=
    known_append.2 ⟨ahead.knownChain, known_cons.2 ⟨keyed, known_nil⟩⟩
  refine (inside (ahead.withChains known fun other member => ?_)).imp_right ?_
  · rw [image_append]
    refine List.mem_append.2 ((deeper other member).imp (ahead.chain other) fun same => ?_)
    rw [same]
    exact List.mem_singleton.2 rfl
  · rintro ⟨next, agrees, within, ahead', inner, same⟩
    refine ⟨next, agrees, within, ahead'.withChains (ahead.knownChain.within within)
      fun other member => ?_, inner, same⟩
    rw [← ahead.knownChain _ _ agrees]
    exact ahead.chain other member

/-- Steps inside of a key in both. -/
theorem carries_nested_both [Renames α] {steps steps' : SpecializeM α} {key' : SpecializationKey}
    (ahead : Ahead shift one two) (keyed : Known one.context.extent key)
    (same : key' = shift.image key)
    (inside : Ahead shift { one with chain := one.chain ++ [key] }
        { two with chain := two.chain ++ [key'] } →
      Carries Ahead TypeError.IsRunaway shift { one with chain := one.chain ++ [key] }
        (outcome steps { one with chain := one.chain ++ [key] })
        (outcome steps' { two with chain := two.chain ++ [key'] })) :
    Carries Ahead TypeError.IsRunaway shift one (outcome (nested key steps) one)
      (outcome (nested key' steps') two) := by
  rw [outcome_nested key']
  exact carries_nested ahead keyed (by simp [same]) inside

/-- Steps inside of a key in the first, while the second stands still. -/
theorem carries_nested_still [Renames α] {steps : SpecializeM α} {value' : α}
    (ahead : Ahead shift one two) (keyed : Known one.context.extent key)
    (inside : Ahead shift { one with chain := one.chain ++ [key] } two →
      Carries Ahead TypeError.IsRunaway shift { one with chain := one.chain ++ [key] }
        (outcome steps { one with chain := one.chain ++ [key] }) (.ok value', two)) :
    Carries Ahead TypeError.IsRunaway shift one (outcome (nested key steps) one)
      (outcome (pure value' : SpecializeM α) two) := by
  have carries : Carries Ahead TypeError.IsRunaway shift one (outcome (nested key steps) one)
      (.ok value', { two with chain := two.chain }) :=
    carries_nested ahead keyed (fun _ member => .inl member) inside
  exact carries

/-- A template that makes no definition: the first remembers what the second has by then. -/
theorem carries_plain [Renames α] {steps : SpecializeM α} {wrap : α → Instance}
    (wrap' : α → Instance) (steps' : SpecializeM α) (finish : α → SpecializeM Unit)
    (keyed : Known one.context.extent key) (absent : one.find? key = none)
    (grows : Grew { one with chain := one.chain ++ [key] }
      (outcome steps { one with chain := one.chain ++ [key] }))
    (wraps : ∀ next value extent, Agrees one.context.extent shift next →
      one.context.extent.Within extent → Known extent value →
      Known extent (wrap value) ∧ wrap' (next.image value) = next.image (wrap value))
    (inside : Carries Ahead TypeError.IsRunaway shift one (outcome (nested key steps) one)
      (outcome steps' two))
    (finishes : ∀ value middle, outcome steps' two = (.ok value, middle) → ∃ last,
      outcome (finish value) middle = (.ok (), last) ∧
        Remembers (shift.image key) (wrap' value) middle last) :
    Carries Ahead TypeError.IsRunaway shift one
      (outcome (do
        let value ← nested key steps
        remember key (wrap value)
        return wrap value) one)
      (outcome (do
        let value ← steps'
        finish value
        return wrap' value) two) := by
  refine .bind_ran inside fun next value middle middle' agrees within ahead known ran ran' => ?_
  obtain ⟨last, done, remembers⟩ := finishes _ _ ran'
  obtain ⟨known', same⟩ := wraps next value middle.context.extent agrees within known
  rw [keyed _ _ agrees, same] at remembers
  rw [outcome_bind_ok (outcome_remember _ _ _), outcome_bind_ok done, same]
  exact .inr ⟨next, .refl _ _, .refl _,
    ahead.remembered (absent_nested absent ran grows) (keyed.within within) known' remembers,
    known_ok.2 known', rfl⟩

/-- How a template makes a definition. -/
theorem make_nominal {kind : DefKind} (nominal : template.body.defKind? = some kind)
    (apply : TemplateId → List TemplateArgument → SpecializeM TypeId) :
    make key template apply = do
      let entry ← reserve template.name kind key
      remember key (.type entry.type)
      let body ← nested key (evalBody key apply template.body)
      complete entry.id body
      return Instance.type entry.type := by
  unfold make
  split
  · rename_i shape
    rw [shape] at nominal
    cases nominal
  · rename_i shape
    rw [shape] at nominal
    cases nominal
  all_goals
    rw [nominal]
    rfl

/-- A definition that was reserved is still without a body when its parts are there, and gets it. -/
theorem complete_reserved {state middle : Specializer} {kind : DefKind} {entry : TypeDef}
    {context : TypeContext} {steps : SpecializeM DefBody} {body : DefBody}
    (absent : state.find? key = none) (idle : key ∉ state.chain)
    (registered : state.context.templates.get? key.template = some template)
    (nominal : template.body.defKind? = some kind) (indexed : state.context.Indexed)
    (reserved : state.context.declare (reservation template.name kind key) = .ok (entry, context))
    (grows : ∀ state : Specializer, state.context.Indexed → Grew state (outcome steps state))
    (ran : outcome (nested key steps) { state with
      context
      declared := state.declared ++ [entry.id]
      pending := state.pending ++ [(key, .type entry.type)] } = (.ok body, middle)) :
    middle.context.registry.get? entry.id = some entry ∧ ∃ registry,
      middle.context.registry.define entry.id body = .ok registry ∧
        outcome (complete entry.id body) middle =
          (.ok (), { middle with context := { middle.context with registry } }) := by
  obtain ⟨bare, stored, -⟩ := growth_reserved absent idle registered nominal reserved
  obtain ⟨-, added, results, growth, -, -⟩ := grew_nested { state with
    context
    declared := state.declared ++ [entry.id]
    pending := state.pending ++ [(key, .type entry.type)] }
    (grows _ (TypeContext.indexed_declare indexed reserved))
  rw [ran] at growth
  have kept := (growth.old _ (TypeRegistry.lt_size_of_get? stored)).trans stored
  obtain ⟨registry, defined⟩ := TypeRegistry.define_bare kept bare
  refine ⟨kept, registry, defined, ?_⟩
  rw [outcome_complete, defined]

/-- A template that makes a definition: the first reserves and completes what the second has. -/
theorem carries_nominal {kind : DefKind} {entry' : TypeDef} {steps : SpecializeM DefBody}
    (steps' : SpecializeM DefBody) (finish : DefBody → SpecializeM Unit)
    (ahead : Ahead shift one start) (keyed : Known one.context.extent key)
    (absent : one.find? key = none) (idle : key ∉ one.chain)
    (registered : one.context.templates.get? key.template = some template)
    (nominal : template.body.defKind? = some kind)
    (grows : ∀ state : Specializer, state.context.Indexed → Grew state (outcome steps state))
    (live : start.context.registry.get? entry'.id = some entry')
    (shape : entry'.InstanceOf (shift.image key) (shift.image template))
    (fresh : ∀ id : DefId, id.index < one.context.extent.defs → shift.defs id ≠ entry'.id)
    (remembers : Remembers (shift.image key) (.type entry'.type) start after)
    (inside : ∀ next state, Agrees one.context.extent shift next →
      one.context.extent.Within state.context.extent → Ahead next state after →
      Carries Ahead TypeError.IsRunaway next state (outcome (nested key steps) state)
        (outcome steps' after))
    (finishes : ∀ body middle, outcome steps' after = (.ok body, middle) → ∃ last whole,
      outcome (finish body) middle = (.ok (), last) ∧
        last.context.registry.get? entry'.id = some whole ∧ whole.body = some body ∧
        ∀ next state, Ahead next state middle → Ahead next state last) :
    Carries Ahead TypeError.IsRunaway shift one
      (outcome (do
        let entry ← reserve template.name kind key
        remember key (.type entry.type)
        let body ← nested key steps
        complete entry.id body
        return Instance.type entry.type) one)
      (outcome (do
        let body ← steps'
        finish body
        return Instance.type entry'.type) after) := by
  obtain ⟨entry, context, reserved, ran⟩ := outcome_reserve template.name kind key one
  rw [outcome_bind_ok ran, outcome_bind_ok (outcome_remember _ _ _)]
  obtain ⟨next, agrees, within, caught, known, id, type⟩ :=
    ahead.reserved keyed absent reserved live shape (defKind?_image.trans nominal) fresh remembers
  obtain ⟨own, typed, -, -⟩ := known_entry.1 known
  refine .later agrees within (.bind_ran (inside next _ agrees within caught) ?_)
  intro last body middle middle' agrees' within' ahead' inner ran₁ ran'
  obtain ⟨-, registry, defined, completed⟩ := complete_reserved absent idle registered nominal
    ahead.indexed reserved grows ran₁
  obtain ⟨final, whole, done, live', given, advances⟩ := finishes _ _ ran'
  rw [outcome_bind_ok completed, outcome_bind_ok done]
  have id' : last.defs entry.id = entry'.id := by
    rw [← agrees'.defs _ (known_def.1 own), id]
  have type' : last.types entry.type = entry'.type := by
    rw [← agrees'.types _ (known_type.1 typed), type]
  have there : final.context.registry.get? (last.defs entry.id) = some whole := by
    rw [id']
    exact live'
  have caught' := (advances last middle ahead').completed inner defined there given
  have extent : TypeContext.extent { middle.context with registry } = middle.context.extent := by
    obtain ⟨-, -, -, -, size, -⟩ := TypeRegistry.define_ok defined
    simp [TypeContext.extent, size]
  refine .inr ⟨last, .refl _ _, extent ▸ .refl _, caught', ?_, ?_⟩
  · exact known_ok.2 (known_instanceType.2 (extent ▸ typed.within within'))
  · exact congrArg (fun ty => Except.ok (Instance.type ty)) type'.symm

/-- Where neither knows a key, both make its definition. -/
theorem make_carries_nominal (applied : Applied Ahead TypeError.IsRunaway apply)
    (grows : ∀ id arguments state, state.context.Indexed →
      Grew state (outcome (apply id arguments) state))
    (ahead : Ahead shift one two) (keyed : Known one.context.extent key)
    (absent : one.find? key = none) (absent' : two.find? (shift.image key) = none)
    (idle : key ∉ one.chain) (idle' : shift.image key ∉ two.chain)
    (registered : one.context.templates.get? key.template = some template) {kind : DefKind}
    (nominal : template.body.defKind? = some kind) :
    Carries Ahead TypeError.IsRunaway shift one (outcome (make key template apply) one)
      (outcome (make (shift.image key) (shift.image template) apply) two) := by
  have known := (known_templateDef.1 (ahead.shared.templates.known _ _ registered)).2
  have registered' := ahead.registered registered
  have nominal' : (shift.image template).body.defKind? = some kind := defKind?_image.trans nominal
  rw [make_nominal nominal, make_nominal nominal']
  obtain ⟨entry', context', reserved', ran'⟩ :=
    outcome_reserve (shift.image template).name kind (shift.image key) two
  rw [outcome_bind_ok ran', outcome_bind_ok (outcome_remember _ _ _)]
  obtain ⟨same, given⟩ := TypeContext.declare_ok reserved'
  have indexed' := TypeContext.indexed_declare ahead.indexed' reserved'
  obtain ⟨bare, live, -⟩ := growth_reserved absent' idle' registered' nominal' reserved'
  have advanced : Ahead shift one
      { two with context := context', declared := two.declared ++ [entry'.id] } := by
    subst given
    exact ahead.advance rfl indexed' (TypePool.kept_intern _ _) rfl
      (TypeRegistry.continues_push _ _ _) rfl fun _ => rfl
  have lacking : ({ two with context := context', declared := two.declared ++ [entry'.id] } :
      Specializer).find? (shift.image key) = none := by
    subst given
    exact absent'
  have shape : entry'.InstanceOf (shift.image key) (shift.image template) := by
    subst same
    exact ⟨rfl, rfl, nominal', rfl⟩
  refine carries_nominal _ _ advanced keyed absent idle registered nominal
    (grew_of_built grows (evalBody_built key apply template.body)) live shape ?_
    (remembers_pending lacking _) ?_ ?_
  · intro id below leads
    have inside := ahead.registry.inside id below
    rw [leads, same] at inside
    exact Nat.lt_irrefl _ inside
  · intro next state agrees within ahead'
    refine carries_nested_both ahead' (keyed.within within) (keyed _ _ agrees) fun deeper => ?_
    have body := evalBody_carries steady_ahead applied deeper (keyed.within within)
      (known.within within)
    rw [← keyed _ _ agrees, ← known _ _ agrees] at body
    exact body
  · intro body middle ran
    obtain ⟨kept, registry, defined, completed⟩ := complete_reserved absent' idle' registered'
      nominal' ahead.indexed' reserved' (grew_of_built grows (evalBody_built _ apply _)) ran
    obtain ⟨_, stored, -, -, -, found⟩ := TypeRegistry.define_ok defined
    exact ⟨_, _, completed, (found entry'.id).trans (if_pos rfl), rfl, fun next state ahead' =>
      ahead'.advance rfl (TypeContext.indexed_registry ahead'.indexed' defined) (.refl _) rfl
        (TypeRegistry.continues_define defined) rfl fun _ => rfl⟩

/-- Where neither knows a key, both make its instance. -/
theorem make_carries (applied : Applied Ahead TypeError.IsRunaway apply)
    (grows : ∀ id arguments state, state.context.Indexed →
      Grew state (outcome (apply id arguments) state))
    (ahead : Ahead shift one two) (keyed : Known one.context.extent key)
    (absent : one.find? key = none) (absent' : two.find? (shift.image key) = none)
    (idle : key ∉ one.chain) (idle' : shift.image key ∉ two.chain)
    (registered : one.context.templates.get? key.template = some template) :
    Carries Ahead TypeError.IsRunaway shift one (outcome (make key template apply) one)
      (outcome (make (shift.image key) (shift.image template) apply) two) := by
  have known := (known_templateDef.1 (ahead.shared.templates.known _ _ registered)).2
  have nominal {kind : DefKind} (own : template.body.defKind? = some kind) :=
    make_carries_nominal applied grows ahead keyed absent absent' idle idle' registered own
  obtain ⟨name, parameters, body⟩ := template
  cases body with
  | synonym target =>
    refine carries_plain .type _ _ keyed absent
      (grew_of_built grows (eval_built key apply target) _ ahead.indexed)
      (fun next ty extent _ _ inner => ⟨known_instanceType.2 inner, rfl⟩)
      (carries_nested_both ahead keyed rfl fun deeper =>
        eval_carries steady_ahead applied target deeper keyed (known_synonymBody.1 known))
      (fun ty middle ran => ⟨_, outcome_remember _ _ _, remembers_pending ?_ _⟩)
    exact absent_nested absent' ran (grew_of_built grows (eval_built _ apply _) _ ahead.indexed')
  | function exprs result variadic =>
    obtain ⟨known₁, known₂⟩ := known_functionBody.1 known
    refine carries_plain (fun signature => .function ⟨shift.image key, signature⟩) _ _ keyed absent
      (grew_of_built grows (evalFunction_built key apply exprs result variadic) _ ahead.indexed)
      (fun next ty extent agrees within inner => ⟨known_instanceFunction.2
        (known_functionInstance.2 ⟨keyed.within within, inner⟩), ?_⟩)
      (carries_nested_both ahead keyed rfl fun deeper =>
        evalFunction_carries steady_ahead applied variadic deeper keyed known₁ known₂)
      (fun ty middle ran => ⟨_, outcome_remember _ _ _, remembers_pending ?_ _⟩)
    · exact congrArg (fun key => Instance.function ⟨key, next.image ty⟩) (keyed _ _ agrees)
    · exact absent_nested absent' ran
        (grew_of_built grows (evalFunction_built _ apply _ _ _) _ ahead.indexed')
  | struct fields => exact nominal rfl
  | union fields => exact nominal rfl
  | classType base fields methods => exact nominal rfl

section Settled

variable {budget : Nat}

/-- Where only the second knows a definition, the first makes it, and the second stands still. -/
theorem make_settled_nominal {entry' : TypeDef} {body' : DefBody}
    (applied : Applied Ahead TypeError.IsRunaway (applyWithin budget)) (ahead : Ahead shift one two)
    (keyed : Known one.context.extent key) (absent : one.find? key = none) (idle : key ∉ one.chain)
    (registered : one.context.templates.get? key.template = some template)
    (found : two.find? (shift.image key) = some (.type entry'.type))
    (live : two.context.registry.get? entry'.id = some entry')
    (shape : entry'.InstanceOf (shift.image key) (shift.image template))
    (whole : entry'.body = some body')
    (denotes : DenotesBody two (shift.image key) (shift.image template).body body') :
    Carries Ahead TypeError.IsRunaway shift one
      (outcome (make key template (applyWithin budget)) one) (.ok (.type entry'.type), two) := by
  have known := (known_templateDef.1 (ahead.shared.templates.known _ _ registered)).2
  have replay := outcome_evalBody_of_denotes ahead.indexed'.pool.exact budget denotes
  have nominal : template.body.defKind? = some entry'.kind := defKind?_image.symm.trans shape.kind
  have grows : ∀ state : Specializer, state.context.Indexed →
      Grew state (outcome (evalBody key (applyWithin budget) template.body) state) :=
    grew_of_built (applyWithin_grew budget) (evalBody_built key _ template.body)
  rw [make_nominal nominal]
  refine carries_nominal (pure body') (fun _ => pure ()) ahead keyed absent idle registered
    nominal grows live shape (ahead.unmatched keyed absent live shape.specialization)
    (.refl found) ?_ ?_
  · intro next state agrees within ahead'
    refine carries_nested_still ahead' (keyed.within within) fun deeper => ?_
    have body := evalBody_carries steady_ahead applied deeper (keyed.within within)
      (known.within within)
    rw [← keyed _ _ agrees, ← known _ _ agrees] at body
    exact replay ▸ body
  · intro body middle ran
    cases ran
    exact ⟨two, entry', rfl, live, whole, fun _ _ ahead => ahead⟩

/-- Where only the second knows an instance, the first makes it, and the second stands still. -/
theorem make_settled {made' : Instance}
    (applied : Applied Ahead TypeError.IsRunaway (applyWithin budget)) (ahead : Ahead shift one two)
    (keyed : Known one.context.extent key) (absent : one.find? key = none) (idle : key ∉ one.chain)
    (registered : one.context.templates.get? key.template = some template)
    (found : two.find? (shift.image key) = some made') :
    Carries Ahead TypeError.IsRunaway shift one
      (outcome (make key template (applyWithin budget)) one) (.ok made', two) := by
  have known := (known_templateDef.1 (ahead.shared.templates.known _ _ registered)).2
  have pool := ahead.indexed'.pool.exact
  obtain ⟨template', registered', settled⟩ := ahead.settled_of_absent keyed absent found
  cases (ahead.registered registered).symm.trans registered'
  rcases settled with plain | ⟨id, entry', body', live, rfl, shape, whole, denotes⟩
  swap
  · obtain rfl := (ahead.indexed'.defs id entry' live).1
    exact make_settled_nominal applied ahead keyed absent idle registered found live shape whole
      denotes
  obtain ⟨name, parameters, body⟩ := template
  cases body with
  | synonym target =>
    obtain ⟨ty', rfl, denotes⟩ := plain
    have replay := outcome_eval_of_denotes pool budget denotes
    refine carries_plain .type (pure ty') (fun _ => pure ()) keyed absent
      (grew_of_built (applyWithin_grew budget) (eval_built key _ target) _ ahead.indexed)
      (fun next ty extent _ _ inner => ⟨known_instanceType.2 inner, rfl⟩)
      (carries_nested_still ahead keyed fun deeper => ?_) (fun ty middle ran => ?_)
    · rw [← replay]
      exact eval_carries steady_ahead applied target deeper keyed (known_synonymBody.1 known)
    · cases ran
      exact ⟨two, rfl, .refl found⟩
  | function exprs result variadic =>
    obtain ⟨types', inner', signature', rfl, parts, part, form⟩ := plain
    obtain ⟨known₁, known₂⟩ := known_functionBody.1 known
    have replay : outcome (do
        let types ← evalAll (shift.image key) (applyWithin budget) (shift.image exprs)
        let inner ← eval (shift.image key) (applyWithin budget) (shift.image result)
        intern (.function types inner variadic)) two = (.ok signature', two) := by
      rw [outcome_bind_ok (outcome_evalAll_of_denotes pool budget parts),
        outcome_bind_ok (outcome_eval_of_denotes pool budget part)]
      exact outcome_intern_of_form? pool form
    refine carries_plain (fun signature => .function ⟨shift.image key, signature⟩)
      (pure signature') (fun _ => pure ()) keyed absent
      (grew_of_built (applyWithin_grew budget) (evalFunction_built key _ exprs result variadic) _
        ahead.indexed)
      (fun next ty extent agrees within inner => ⟨known_instanceFunction.2
        (known_functionInstance.2 ⟨keyed.within within, inner⟩), ?_⟩)
      (carries_nested_still ahead keyed fun deeper => ?_) (fun ty middle ran => ?_)
    · exact congrArg (fun key => Instance.function ⟨key, next.image ty⟩) (keyed _ _ agrees)
    · rw [← replay]
      exact evalFunction_carries steady_ahead applied variadic deeper keyed known₁ known₂
    · cases ran
      exact ⟨two, rfl, .refl found⟩
  | struct fields => exact plain.elim
  | union fields => exact plain.elim
  | classType base fields methods => exact plain.elim

end Settled

/-! ### Whole requests -/

/-- A request comes to the same whatever more the second knows, unless it runs into the recursion
limit, or into itself, in the first. -/
theorem specializeWithin_carries (budget : Nat) (id : TemplateId)
    {arguments : List TemplateArgument} (ahead : Ahead shift one two)
    (known : Known one.context.extent arguments) :
    Carries Ahead TypeError.IsRunaway shift one
      (outcome (specializeWithin budget id arguments) one)
      (outcome (specializeWithin budget id (shift.image arguments)) two) := by
  induction budget using Nat.strongRecOn generalizing id arguments shift one two with
  | ind budget ih =>
    have applied : ∀ fewer, fewer < budget →
        Applied Ahead TypeError.IsRunaway (applyWithin fewer) :=
      fun fewer less id _ _ _ _ ahead known => .applied (ih fewer less id ahead known)
    rw [outcome_specializeWithin, outcome_specializeWithin, ahead.shared.templates.get?]
    cases registered : one.context.templates.get? id with
    | none => exact .unchanged ahead fun _ _ _ => rfl
    | some template =>
      have whole := ahead.shared.templates.known id template registered
      obtain ⟨same, bound⟩ := ahead.shared.bind id whole known
      simp only [image_some, same]
      cases given : one.context.bind id template arguments with
      | error err =>
        rw [given] at bound
        exact .unchanged ahead (known_error.2 (known_error.1 bound))
      | ok full =>
        rw [given, known_ok] at bound
        have keyed : Known one.context.extent (SpecializationKey.mk id full) := known_key.2 bound
        simp only [image_ok]
        rw [← image_key]
        cases stored : one.find? ⟨id, full⟩ with
        | some made =>
          obtain ⟨-, inner, found⟩ := ahead.found _ made stored
          simp only [found]
          exact .unchanged ahead (known_ok.2 inner)
        | none =>
          have runaway : ∀ second : Except TypeError Instance × Specializer,
              Carries Ahead TypeError.IsRunaway shift one
                (.error (one.refusal ⟨id, full⟩), one) second :=
            fun second => .inl ⟨_, ⟨_, _, rfl⟩, rfl⟩
          cases budget with
          | zero => exact runaway _
          | succ budget =>
            by_cases idle : (⟨id, full⟩ : SpecializationKey) ∈ one.chain
            · simp only [if_pos idle]
              exact runaway _
            · simp only [if_neg idle]
              have deeper := applied budget (Nat.lt_succ_self _)
              cases found : two.find? (shift.image ⟨id, full⟩) with
              | some made' => exact make_settled deeper ahead keyed stored idle registered found
              | none =>
                have idle' : shift.image (⟨id, full⟩ : SpecializationKey) ∉ two.chain :=
                  fun busy => idle ((mem_image_iff ahead.shared.faithful keyed
                    ahead.knownChain).1 (ahead.chain _ busy))
                simp only [if_neg idle']
                exact make_carries deeper (applyWithin_grew budget) ahead keyed stored found idle
                  idle' registered

end Specializer

end FrontEnd
