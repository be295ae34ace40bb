import FrontEnd.Proofs.Renaming.Specialization
import FrontEnd.Proofs.Specialization.Denotation

/-!
Evaluation finds what expressions denote. When a request succeeds, its result is what its template
says under its key, and so is every definition that was made on the way. A definition may be in
progress while an expression that mentions it is evaluated: what the expression denotes depends on
the type of the definition only, and not on its body.
-/

namespace FrontEnd

namespace Specializer

variable {before middle after state : Specializer} {key : SpecializationKey}

/-! ### Steps -/

/-- The definition is the instance of its key, and has the body that its template denotes. -/
def Meant (state : Specializer) (entry : TypeDef) : Prop :=
  ∃ key template body, entry.specialization = some key ∧
    state.context.templates.get? key.template = some template ∧ entry.body = some body ∧
    DenotesBody state key template.body body

theorem Meant.onward (onward : Onward before after) {entry : TypeDef} (meant : before.Meant entry) :
    after.Meant entry := by
  obtain ⟨key, template, body, carries, registered, whole, denotes⟩ := meant
  exact ⟨key, template, body, carries, onward.templates _ _ registered, whole,
    denotes.onward onward⟩

/-- Unless it is a definition, the instance is what its template says. -/
def Explained (state : Specializer) (key : SpecializationKey) (made : Instance) : Prop :=
  ∃ template, state.context.templates.get? key.template = some template ∧
    (template.body.defKind? = none → DenotesInstance state key template.body made)

theorem Explained.onward (onward : Onward before after) {made : Instance}
    (explained : before.Explained key made) : after.Explained key made := by
  obtain ⟨template, registered, denotes⟩ := explained
  exact ⟨template, onward.templates _ _ registered, fun plain => (denotes plain).onward onward⟩

/-- What a state mentions was given out, and its ids lead where they should. -/
structure Orderly (state : Specializer) : Prop where
  mirror : Mirror .id state state
  indexed : state.context.Indexed

/-- All definitions that were added between two states of a request have the bodies that their
templates denote, and all other results are what their templates say. -/
structure Accounts (before after : Specializer) : Prop where
  fresh : ∀ id entry, before.context.registry.defs.size ≤ id.index →
    after.context.registry.get? id = some entry → after.Meant entry
  results : ∀ key made, after.find? key = some made →
    before.find? key = some made ∨ after.Explained key made

/-- The way from one state of a request to a later one by steps that succeeded. -/
structure Step (before after : Specializer) : Prop extends Accounts before after where
  orderly : after.Orderly
  within : before.context.extent.Within after.context.extent
  onward : Onward before after
  old : ∀ id : DefId, id.index < before.context.registry.defs.size →
    after.context.registry.get? id = before.context.registry.get? id

theorem Step.trans (first : Step before middle) (second : Step middle after) :
    Step before after where
  orderly := second.orderly
  within := first.within.trans second.within
  onward := first.onward.trans second.onward
  old id below := by
    rw [second.old id (Nat.lt_of_lt_of_le below first.within.defs), first.old id below]
  fresh id entry above live := by
    by_cases below : id.index < middle.context.registry.defs.size
    · rw [second.old id below] at live
      exact (first.fresh id entry above live).onward second.onward
    · exact second.fresh id entry (Nat.le_of_not_lt below) live
  results key made found := by
    rcases second.results key made found with earlier | explained
    · exact (first.results key made earlier).imp_right fun explained =>
        explained.onward second.onward
    · exact .inr explained

theorem onward_of_growth {added : List DefId} {made : List (SpecializationKey × Instance)}
    (orderly : before.Orderly) (sound : after.context.pool.Sound)
    (growth : Growth before added made after) : Onward before after where
  exact := orderly.mirror.context.pool.sound.exact
  exact' := sound.exact
  pool := growth.pool
  known := orderly.mirror.context.templates.known
  templates id _ registered := (congrArg (·.get? id) growth.templates).trans registered
  found _ _ known := growth.found known

/-- A stretch that adds neither definitions nor results. -/
theorem step_of_growth (orderly : before.Orderly) (orderly' : after.Orderly)
    (growth : Growth before [] [] after) : Step before after where
  orderly := orderly'
  within := by
    refine ⟨?_, growth.size⟩
    exact TypePool.size_kept growth.pool
  onward := onward_of_growth orderly orderly'.indexed.pool growth
  old := growth.old
  fresh id entry above live := by
    have inside := TypeRegistry.lt_size_of_get? live
    exact absurd ((growth.fresh id).2 ⟨above, inside⟩) List.not_mem_nil
  results key made found := .inl (by simpa [growth.find?] using found)

theorem Step.refl (orderly : state.Orderly) : Step state state :=
  step_of_growth orderly orderly (.refl state)

theorem Mirror.self {shift : Renaming} {one two : Specializer} (mirror : Mirror shift one two) :
    Mirror .id one one where
  context := mirror.context.self
  chain := (Renames.image_id _).symm
  pending := (Renames.image_id _).symm
  declared := (Renames.image_id _).symm
  knownChain := mirror.knownChain
  knownPending := mirror.knownPending
  knownDeclared := mirror.knownDeclared

/-- An outcome that is the same as itself is orderly. -/
theorem Follows.self [Renames α] {result : Except TypeError α × Specializer}
    (follows : Follows .id state result result) :
    Mirror .id result.2 result.2 ∧ Known result.2.context.extent result.1 := by
  obtain ⟨next, -, -, mirror, known, -⟩ := follows
  exact ⟨mirror.self, known⟩

/-- Steps from one state to another gave a value, of which something holds. -/
structure Evaluates [Renames α] (before : Specializer) (value : α) (after : Specializer)
    (means : Prop) : Prop where
  step : Step before after
  known : Known after.context.extent value
  means : means

theorem Evaluates.imp [Renames α] {value : α} {means means' : Prop}
    (evaluates : Evaluates before value after means) (weaker : means → means') :
    Evaluates before value after means' :=
  ⟨evaluates.step, evaluates.known, weaker evaluates.means⟩

theorem evaluates_pure [Renames α] {value result : α} (orderly : state.Orderly)
    (known : Known state.context.extent value)
    (ran : outcome (pure value : SpecializeM α) state = (.ok result, after)) :
    Evaluates state result after (result = value ∧ after = state) := by
  cases ran
  exact ⟨.refl orderly, known, rfl, rfl⟩

theorem evaluates_lift [Renames α] {given : Except TypeError α} {result : α}
    (orderly : state.Orderly) (known : Known state.context.extent given)
    (ran : outcome (liftM given : SpecializeM α) state = (.ok result, after)) :
    Evaluates state result after (given = .ok result ∧ after = state) := by
  rw [outcome_lift] at ran
  cases ran
  exact ⟨.refl orderly, known_ok.1 known, rfl, rfl⟩

theorem evaluates_intern {form : TypeForm} {ty : TypeId} (orderly : state.Orderly)
    (known : Known state.context.extent form)
    (ran : outcome (intern form) state = (.ok ty, after)) :
    Evaluates state ty after (after.context.pool.form? ty = some form) := by
  have follows := Follows.intern orderly.mirror known
  rw [Renaming.image_id form, ran] at follows
  obtain ⟨mirror, known'⟩ := follows.self
  rw [outcome_intern] at ran
  cases ran
  have orderly' : Orderly { state with context := (state.context.intern form).2 } :=
    ⟨mirror, TypeContext.indexed_intern orderly.indexed form⟩
  have growth := growth_pool state (TypePool.kept_intern state.context.pool form)
  exact ⟨step_of_growth orderly orderly' growth, known_ok.1 known',
    TypePool.form?_intern orderly.mirror.context.pool.sound form⟩

theorem evaluates_qualified {base ty : TypeId} {quals : Qualifiers}
    (orderly : state.Orderly) (known : Known state.context.extent base)
    (ran : outcome (qualified base quals) state = (.ok ty, after)) :
    Evaluates state ty after (after.context.pool.Qualifies base quals ty) := by
  have follows := Follows.qualified orderly.mirror known quals
  rw [Renaming.id_types, ran] at follows
  obtain ⟨mirror, known'⟩ := follows.self
  rw [outcome_qualified] at ran
  cases ran
  have orderly' : Orderly { state with context := (state.context.qualified base quals).2 } :=
    ⟨mirror, TypeContext.indexed_qualified orderly.indexed base quals⟩
  have growth := growth_pool state (TypePool.kept_qualified state.context.pool base quals)
  exact ⟨step_of_growth orderly orderly' growth, known_ok.1 known',
    TypePool.qualifies_qualified orderly.mirror.context.pool.sound (known_type.1 known) quals⟩

/-! ### Evaluation -/

/-- Applying a template, when it succeeds, makes its result known and adds only definitions that
have the bodies that their templates denote. -/
def Applies (apply : TemplateId → List TemplateArgument → SpecializeM TypeId) : Prop :=
  ∀ id arguments state ty after, state.Orderly → Known state.context.extent arguments →
    outcome (apply id arguments) state = (.ok ty, after) →
    Evaluates state ty after (after.Gives id arguments ty)

section Evaluation

variable {apply : TemplateId → List TemplateArgument → SpecializeM TypeId}

/-- A type made from a part by interning one form. -/
private theorem evaluates_form {steps : SpecializeM TypeId} {expr : TypeExpr}
    (wrap : TypeId → TypeForm)
    (wrapped : ∀ extent inner, Known extent inner → Known extent (wrap inner))
    (part : ∀ {inner middle}, outcome steps state = (.ok inner, middle) →
      Evaluates state inner middle (Denotes middle key expr inner))
    {ty : TypeId} (ran : outcome (steps >>= fun inner => intern (wrap inner)) state = (.ok ty, after)) :
    Evaluates state ty after
      (∃ inner, Denotes after key expr inner ∧ after.context.pool.form? ty = some (wrap inner)) := by
  obtain ⟨inner, middle, ran₁, ran₂⟩ := outcome_bind_inv ran
  obtain ⟨step₁, known₁, denotes⟩ := part ran₁
  obtain ⟨step₂, known₂, form⟩ := evaluates_intern step₁.orderly (wrapped _ _ known₁) ran₂
  exact ⟨step₁.trans step₂, known₂, inner, denotes.onward step₂.onward, form⟩

mutual

/-- The type that an expression is evaluated to is what the expression denotes. -/
theorem eval_means (applies : Applies apply) : (expr : TypeExpr) → ∀ {state after : Specializer}
    {ty : TypeId}, state.Orderly → Known state.context.extent key →
    Known state.context.extent expr → outcome (eval key apply expr) state = (.ok ty, after) →
    Evaluates state ty after (Denotes after key expr ty)
  | .concrete own, state, after, ty, orderly, _, known, ran => by
    rw [eval] at ran
    exact (evaluates_pure orderly (known_concrete.1 known) ran).imp fun same => same.1
  | .param index, state, after, ty, orderly, keyed, _, ran => by
    rw [eval] at ran
    exact (evaluates_lift orderly (typeArgument_known keyed index) ran).imp fun same => same.1
  | .pointer target, state, after, ty, orderly, keyed, known, ran => by
    rw [eval] at ran
    exact evaluates_form .pointer (fun _ _ => known_pointer.2)
      (eval_means applies target orderly keyed (known_pointerExpr.1 known)) ran
  | .array element length, state, after, ty, orderly, keyed, known, ran => by
    rw [eval] at ran
    exact evaluates_form (.array · length) (fun _ _ => known_array.2)
      (eval_means applies element orderly keyed (known_arrayExpr.1 known)) ran
  | .arrayOfParam element index, state, after, ty, orderly, keyed, known, ran => by
    rw [eval] at ran
    obtain ⟨length, start, ran₁, ran₂⟩ := outcome_bind_inv ran
    obtain ⟨-, -, given, rfl⟩ := evaluates_lift orderly (lengthArgument_known index) ran₁
    have rest := evaluates_form (.array · length) (fun _ _ => known_array.2)
      (eval_means applies element orderly keyed (known_arrayOfParam.1 known)) ran₂
    exact rest.imp fun ⟨inner, denotes, form⟩ => ⟨inner, length, given, denotes, form⟩
  | .slice element, state, after, ty, orderly, keyed, known, ran => by
    rw [eval] at ran
    exact evaluates_form .slice (fun _ _ => known_slice.2)
      (eval_means applies element orderly keyed (known_sliceExpr.1 known)) ran
  | .qualified base quals, state, after, ty, orderly, keyed, known, ran => by
    rw [eval] at ran
    obtain ⟨inner, middle, ran₁, ran₂⟩ := outcome_bind_inv ran
    obtain ⟨step₁, known₁, denotes⟩ :=
      eval_means applies base orderly keyed (known_qualifiedExpr.1 known) ran₁
    obtain ⟨step₂, known₂, qualifies⟩ := evaluates_qualified step₁.orderly known₁ ran₂
    exact ⟨step₁.trans step₂, known₂, inner, denotes.onward step₂.onward, qualifies⟩
  | .function parameters result variadic, state, after, ty, orderly, keyed, known, ran => by
    obtain ⟨first, second⟩ := known_functionExpr.1 known
    rw [eval] at ran
    obtain ⟨types, middle, ran₁, ran₂⟩ := outcome_bind_inv ran
    obtain ⟨step₁, known₁, denotes₁⟩ := evalAll_means applies parameters orderly keyed first ran₁
    obtain ⟨inner, last, ran₂, ran₃⟩ := outcome_bind_inv ran₂
    obtain ⟨step₂, known₂, denotes₂⟩ := eval_means applies result step₁.orderly
      (keyed.within step₁.within) (second.within step₁.within) ran₂
    obtain ⟨step₃, known₃, form⟩ := evaluates_intern step₂.orderly
      (known_function.2 ⟨known₁.within step₂.within, known₂⟩) ran₃
    have onward := step₂.onward.trans step₃.onward
    exact ⟨step₁.trans (step₂.trans step₃), known₃, types, inner, denotes₁.onward onward,
      denotes₂.onward step₃.onward, form⟩
  | .apply id arguments, state, after, ty, orderly, keyed, known, ran => by
    rw [eval] at ran
    obtain ⟨given, middle, ran₁, ran₂⟩ := outcome_bind_inv ran
    obtain ⟨step₁, known₁, denotes⟩ :=
      evalArguments_means applies arguments orderly keyed (known_apply.1 known) ran₁
    obtain ⟨step₂, known₂, gives⟩ := applies id given middle ty after step₁.orderly known₁ ran₂
    exact ⟨step₁.trans step₂, known₂, given, denotes.onward step₂.onward, gives⟩
  | .applyParam index arguments, state, after, ty, orderly, keyed, known, ran => by
    rw [eval] at ran
    obtain ⟨id, start, ran₀, ran₁⟩ := outcome_bind_inv ran
    obtain ⟨-, -, own, rfl⟩ := evaluates_lift orderly (templateArgument_known index) ran₀
    obtain ⟨given, middle, ran₁, ran₂⟩ := outcome_bind_inv ran₁
    obtain ⟨step₁, known₁, denotes⟩ :=
      evalArguments_means applies arguments orderly keyed (known_applyParam.1 known) ran₁
    obtain ⟨step₂, known₂, gives⟩ := applies id given middle ty after step₁.orderly known₁ ran₂
    exact ⟨step₁.trans step₂, known₂, id, given, own, denotes.onward step₂.onward, gives⟩

theorem evalAll_means (applies : Applies apply) : (exprs : List TypeExpr) →
    ∀ {state after : Specializer} {types : List TypeId}, state.Orderly →
    Known state.context.extent key → Known state.context.extent exprs →
    outcome (evalAll key apply exprs) state = (.ok types, after) →
    Evaluates state types after (DenotesAll after key exprs types)
  | [], state, after, types, orderly, _, _, ran => by
    rw [evalAll] at ran
    obtain ⟨step, known, rfl, rfl⟩ := evaluates_pure orderly known_nil ran
    exact ⟨step, known, trivial⟩
  | expr :: rest, state, after, types, orderly, keyed, known, ran => by
    obtain ⟨first, second⟩ := known_cons.1 known
    rw [evalAll] at ran
    obtain ⟨ty, middle, ran₁, ran₂⟩ := outcome_bind_inv ran
    obtain ⟨step₁, known₁, denotes₁⟩ := eval_means applies expr orderly keyed first ran₁
    obtain ⟨others, last, ran₂, ran₃⟩ := outcome_bind_inv ran₂
    obtain ⟨step₂, known₂, denotes₂⟩ := evalAll_means applies rest step₁.orderly
      (keyed.within step₁.within) (second.within step₁.within) ran₂
    cases ran₃
    exact ⟨step₁.trans step₂, known_cons.2 ⟨known₁.within step₂.within, known₂⟩,
      denotes₁.onward step₂.onward, denotes₂⟩

theorem evalArgument_means (applies : Applies apply) : (argument : ArgExpr) →
    ∀ {state after : Specializer} {given : TemplateArgument}, state.Orderly →
    Known state.context.extent key → Known state.context.extent argument →
    outcome (evalArgument key apply argument) state = (.ok given, after) →
    Evaluates state given after (DenotesArgument after key argument given)
  | .type expr, state, after, given, orderly, keyed, known, ran => by
    rw [evalArgument] at ran
    obtain ⟨ty, middle, ran₁, ran₂⟩ := outcome_bind_inv ran
    obtain ⟨step, known₁, denotes⟩ :=
      eval_means applies expr orderly keyed (known_typeExprArgument.1 known) ran₁
    cases ran₂
    exact ⟨step, known_typeArgument.2 known₁, ty, rfl, denotes⟩
  | .value value, state, after, given, orderly, _, _, ran => by
    rw [evalArgument] at ran
    exact (evaluates_pure orderly known_valueArgument ran).imp fun same => same.1
  | .template id, state, after, given, orderly, _, _, ran => by
    rw [evalArgument] at ran
    exact (evaluates_pure orderly known_templateArgument ran).imp fun same => same.1
  | .param index, state, after, given, orderly, keyed, _, ran => by
    rw [evalArgument] at ran
    exact (evaluates_lift orderly (anyArgument_known keyed index) ran).imp fun same => same.1

theorem evalArguments_means (applies : Applies apply) : (arguments : List ArgExpr) →
    ∀ {state after : Specializer} {given : List TemplateArgument}, state.Orderly →
    Known state.context.extent key → Known state.context.extent arguments →
    outcome (evalArguments key apply arguments) state = (.ok given, after) →
    Evaluates state given after (DenotesArguments after key arguments given)
  | [], state, after, given, orderly, _, _, ran => by
    rw [evalArguments] at ran
    obtain ⟨step, known, rfl, rfl⟩ := evaluates_pure orderly known_nil ran
    exact ⟨step, known, trivial⟩
  | argument :: rest, state, after, given, orderly, keyed, known, ran => by
    obtain ⟨first, second⟩ := known_cons.1 known
    rw [evalArguments] at ran
    obtain ⟨own, middle, ran₁, ran₂⟩ := outcome_bind_inv ran
    obtain ⟨step₁, known₁, denotes₁⟩ := evalArgument_means applies argument orderly keyed first ran₁
    obtain ⟨others, last, ran₂, ran₃⟩ := outcome_bind_inv ran₂
    obtain ⟨step₂, known₂, denotes₂⟩ := evalArguments_means applies rest step₁.orderly
      (keyed.within step₁.within) (second.within step₁.within) ran₂
    cases ran₃
    exact ⟨step₁.trans step₂, known_cons.2 ⟨known₁.within step₂.within, known₂⟩,
      denotes₁.onward step₂.onward, denotes₂⟩

end

/-- The members that fields are evaluated to are what the fields denote. -/
theorem evalFields_means (applies : Applies apply) {fields : List FieldExpr} {members : List Member}
    (orderly : state.Orderly) (keyed : Known state.context.extent key)
    (known : Known state.context.extent fields)
    (ran : outcome (evalFields key apply fields) state = (.ok members, after)) :
    Evaluates state members after (List.Forall₂ (DenotesMember after key) fields members) := by
  induction fields generalizing state members with
  | nil =>
    cases ran
    exact ⟨.refl orderly, known_nil, .nil⟩
  | cons field rest ih =>
    obtain ⟨first, second⟩ := known_cons.1 known
    rw [evalFields] at ran
    obtain ⟨ty, middle, ran₁, ran₂⟩ := outcome_bind_inv ran
    obtain ⟨step₁, known₁, denotes₁⟩ :=
      eval_means applies field.type orderly keyed (known_field.1 first) ran₁
    obtain ⟨others, last, ran₂, ran₃⟩ := outcome_bind_inv ran₂
    cases ran₃
    obtain ⟨step₂, known₂, denotes₂⟩ :=
      ih step₁.orderly (keyed.within step₁.within) (second.within step₁.within) ran₂
    exact ⟨step₁.trans step₂,
      known_cons.2 ⟨known_member.2 (known₁.within step₂.within), known₂⟩,
      .cons ⟨rfl, denotes₁.onward step₂.onward⟩ denotes₂⟩

/-- The methods that are evaluated are what is denoted. -/
theorem evalMethods_means (applies : Applies apply) {methods : List MethodExpr} {made : List Method}
    (orderly : state.Orderly) (keyed : Known state.context.extent key)
    (known : Known state.context.extent methods)
    (ran : outcome (evalMethods key apply methods) state = (.ok made, after)) :
    Evaluates state made after (List.Forall₂ (DenotesMethod after key) methods made) := by
  induction methods generalizing state made with
  | nil =>
    cases ran
    exact ⟨.refl orderly, known_nil, .nil⟩
  | cons method rest ih =>
    obtain ⟨first, second⟩ := known_cons.1 known
    obtain ⟨parameters, result⟩ := known_methodExpr.1 first
    rw [evalMethods] at ran
    obtain ⟨types, state₁, ran₁, ran₂⟩ := outcome_bind_inv ran
    obtain ⟨step₁, known₁, denotes₁⟩ :=
      evalAll_means applies method.parameters orderly keyed parameters ran₁
    obtain ⟨ty, state₂, ran₂, ran₃⟩ := outcome_bind_inv ran₂
    obtain ⟨step₂, known₂, denotes₂⟩ := eval_means applies method.result step₁.orderly
      (keyed.within step₁.within) (result.within step₁.within) ran₂
    obtain ⟨signature, state₃, ran₃, ran₄⟩ := outcome_bind_inv ran₃
    obtain ⟨step₃, known₃, form⟩ := evaluates_intern step₂.orderly
      (known_function.2 ⟨known₁.within step₂.within, known₂⟩) ran₃
    obtain ⟨others, last, ran₄, ran₅⟩ := outcome_bind_inv ran₄
    cases ran₅
    have within := (step₁.within.trans step₂.within).trans step₃.within
    obtain ⟨step₄, known₄, denotes₄⟩ :=
      ih step₃.orderly (keyed.within within) (second.within within) ran₄
    refine ⟨((step₁.trans step₂).trans step₃).trans step₄,
      known_cons.2 ⟨known_method.2 (known₃.within step₄.within), known₄⟩, .cons ?_ denotes₄⟩
    have onward := step₃.onward.trans step₄.onward
    exact ⟨types, ty, denotes₁.onward (step₂.onward.trans onward), denotes₂.onward onward,
      TypePool.form?_kept step₄.onward.pool form, rfl⟩

/-- The body that is evaluated is what the template denotes. -/
theorem evalBody_means (applies : Applies apply) {template : TemplateBody} {body : DefBody}
    (orderly : state.Orderly) (keyed : Known state.context.extent key)
    (known : Known state.context.extent template)
    (ran : outcome (evalBody key apply template) state = (.ok body, after)) :
    Evaluates state body after (DenotesBody after key template body) := by
  have record : ∀ fields, Known state.context.extent fields →
      outcome (evalFields key apply fields >>= fun members => pure ({ members } : DefBody)) state =
        (.ok body, after) → Evaluates state body after (∃ members, body = { members } ∧
          List.Forall₂ (DenotesMember after key) fields members) := by
    intro fields known ran
    obtain ⟨members, middle, ran₁, ran₂⟩ := outcome_bind_inv ran
    obtain ⟨step, inner, denotes⟩ := evalFields_means applies orderly keyed known ran₁
    cases ran₂
    exact ⟨step, known_body.2 (by simp [inner]), members, rfl, denotes⟩
  cases template with
  | struct fields => exact record fields (known_structBody.1 known) ran
  | union fields => exact record fields (known_unionBody.1 known) ran
  | classType base fields methods =>
    obtain ⟨parent, inside, callable⟩ := known_classBody.1 known
    obtain ⟨members, state₁, ran₁, ran₂⟩ := outcome_bind_inv ran
    obtain ⟨step₁, known₁, denotes₁⟩ := evalFields_means applies orderly keyed inside ran₁
    -- The rest runs alike with and without a base.
    have finish : ∀ {ancestor state₂}, Step state₁ state₂ → Known state₂.context.extent ancestor →
        Option.Rel (Denotes state₂ key) base ancestor →
        outcome (evalMethods key apply methods >>= fun made =>
          pure ({ members, base := ancestor, methods := made } : DefBody)) state₂ =
            (.ok body, after) →
        Evaluates state body after
          (DenotesBody after key (.classType base fields methods) body) := by
      intro ancestor state₂ step₂ known₂ denotes₂ ran₃
      obtain ⟨made, state₃, ran₃, ran₄⟩ := outcome_bind_inv ran₃
      have within := step₁.within.trans step₂.within
      obtain ⟨step₃, known₃, denotes₃⟩ := evalMethods_means applies step₂.orderly
        (keyed.within within) (callable.within within) ran₃
      cases ran₄
      have onward := step₂.onward.trans step₃.onward
      refine ⟨(step₁.trans step₂).trans step₃, known_body.2 ?_, members, ancestor, made, rfl,
        denotes₁.imp fun _ _ denotes => denotes.onward onward, ?_, denotes₃⟩
      · exact ⟨known₁.within (step₂.within.trans step₃.within), known₃, known_nil,
          known₂.within step₃.within, known_nil, known_none⟩
      · cases denotes₂ with
        | none => exact .none
        | some denotes => exact .some (denotes.onward step₃.onward)
    cases base with
    | none =>
      obtain ⟨ancestor, state₂, ran₂, ran₃⟩ := outcome_bind_inv ran₂
      cases ran₂
      exact finish (.refl step₁.orderly) known_none .none ran₃
    | some base =>
      obtain ⟨ancestor, state₂, ran₂, ran₃⟩ := outcome_bind_inv ran₂
      rw [map_eq_pure_bind] at ran₂
      obtain ⟨ty, middle, ran, last⟩ := outcome_bind_inv ran₂
      obtain ⟨step, known, denotes⟩ := eval_means applies base step₁.orderly
        (keyed.within step₁.within) ((known_some.1 parent).within step₁.within) ran
      cases last
      exact finish step (known_some.2 known) (.some denotes) ran₃
  | synonym target =>
    cases ran
    exact ⟨.refl orderly, known_body.2 (by simp), rfl⟩
  | function parameters result variadic =>
    cases ran
    exact ⟨.refl orderly, known_body.2 (by simp), rfl⟩

end Evaluation

end Specializer

end FrontEnd
