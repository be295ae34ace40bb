import FrontEnd.Proofs.Outcome
import FrontEnd.Typing.Specialization

/-!
How the steps of a request run. A request is a sequence of a few kinds of steps: failing, adding a
type, and applying a template. `Built` says so once for every way to evaluate the body of a
template, so that a fact about whole requests is proved from these steps alone.
-/

namespace FrontEnd

/-- The request ran into the recursion limit. -/
def TypeError.IsRunaway (err : TypeError) : Prop :=
  ∃ limit chain, err = .recursionLimitExceeded limit chain

namespace Specializer

/-! ### Single steps -/

theorem outcome_intern (form : TypeForm) (state : Specializer) :
    outcome (intern form) state = (.ok (state.context.intern form).1,
      { state with context := (state.context.intern form).2 }) := rfl

theorem outcome_qualified (ty : TypeId) (quals : Qualifiers) (state : Specializer) :
    outcome (qualified ty quals) state = (.ok (state.context.qualified ty quals).1,
      { state with context := (state.context.qualified ty quals).2 }) := rfl

theorem outcome_remember (key : SpecializationKey) (made : Instance) (state : Specializer) :
    outcome (remember key made) state =
      (.ok (), { state with pending := state.pending ++ [(key, made)] }) := rfl

theorem outcome_nested (key : SpecializationKey) (steps : SpecializeM α) (state : Specializer) :
    outcome (nested key steps) state =
      ((outcome steps { state with chain := state.chain ++ [key] }).1,
        { (outcome steps { state with chain := state.chain ++ [key] }).2 with
          chain := state.chain }) := rfl

/-- The definition that is reserved for a key. -/
def reservation (name : Name) (kind : DefKind) (key : SpecializationKey) : DefRequest where
  name := some name
  kind
  specialization := some key

/-- Reserving never fails: instances have no name of their own in the registry. -/
theorem outcome_reserve (name : Name) (kind : DefKind) (key : SpecializationKey)
    (state : Specializer) :
    ∃ entry context, state.context.declare (reservation name kind key) = .ok (entry, context) ∧
      outcome (reserve name kind key) state = (.ok entry,
        { state with context, declared := state.declared ++ [entry.id] }) :=
  ⟨_, _, rfl, rfl⟩

theorem outcome_complete (id : DefId) (body : DefBody) (state : Specializer) :
    outcome (complete id body) state = match state.context.registry.define id body with
      | .ok registry => (.ok (), { state with context := { state.context with registry } })
      | .error err => (.error (.registry err), state) := by
  unfold complete
  rw [outcome_get_bind, TypeContext.defineId]
  cases state.context.registry.define id body <;> rfl

/-! ### Applying a template -/

/-- The type that a template gives for arguments, with so many more levels of nesting allowed. -/
def applyWithin (budget : Nat) (id : TemplateId) (arguments : List TemplateArgument) :
    SpecializeM TypeId := do
  requireType id (← specializeWithin budget id arguments)

/-- Why the request for a key goes no further. -/
def refusal (state : Specializer) (key : SpecializationKey) : TypeError :=
  .recursionLimitExceeded state.context.config.recursionLimit (state.chain ++ [key])

/-- What a request comes to: it is refused, finds what it asks for, or makes it. -/
theorem outcome_specializeWithin (budget : Nat) (id : TemplateId)
    (arguments : List TemplateArgument) (state : Specializer) :
    outcome (specializeWithin budget id arguments) state =
      match state.context.templates.get? id with
      | none => (.error (.unknownTemplate id), state)
      | some template => match state.context.bind id template arguments with
        | .error err => (.error err, state)
        | .ok full => match state.find? ⟨id, full⟩ with
          | some made => (.ok made, state)
          | none => match budget with
            | 0 => (.error (state.refusal ⟨id, full⟩), state)
            | budget + 1 =>
              if (⟨id, full⟩ : SpecializationKey) ∈ state.chain then
                (.error (state.refusal ⟨id, full⟩), state)
              else outcome (make ⟨id, full⟩ template (applyWithin budget)) state := by
  unfold specializeWithin
  rw [outcome_get_bind]
  cases state.context.templates.get? id with
  | none => rfl
  | some template =>
    dsimp only
    cases bound : state.context.bind id template arguments with
    | error err => rfl
    | ok full =>
      rw [outcome_bind_ok (outcome_lift _ _)]
      dsimp only
      cases state.find? ⟨id, full⟩ with
      | some made => rfl
      | none =>
        cases budget with
        | zero => rfl
        | succ budget =>
          dsimp only
          split <;> rfl

/-- The three ways of a request: it changes nothing because it is refused, or because the result is
known, or it makes the instance with one level of nesting less. -/
inductive Course (budget : Nat) (id : TemplateId) (arguments : List TemplateArgument)
    (state : Specializer) : Prop where
  | refused (err : TypeError)
      (ran : outcome (specializeWithin budget id arguments) state = (.error err, state))
  | known (template : TemplateDef) (full : List TemplateArgument) (made : Instance)
      (registered : state.context.templates.get? id = some template)
      (bound : state.context.bind id template arguments = .ok full)
      (found : state.find? ⟨id, full⟩ = some made)
      (ran : outcome (specializeWithin budget id arguments) state = (.ok made, state))
  | making (template : TemplateDef) (full : List TemplateArgument) (fewer : Nat)
      (enough : budget = fewer + 1)
      (registered : state.context.templates.get? id = some template)
      (bound : state.context.bind id template arguments = .ok full)
      (absent : state.find? ⟨id, full⟩ = none)
      (idle : (⟨id, full⟩ : SpecializationKey) ∉ state.chain)
      (ran : outcome (specializeWithin budget id arguments) state =
        outcome (make ⟨id, full⟩ template (applyWithin fewer)) state)

theorem course (budget : Nat) (id : TemplateId) (arguments : List TemplateArgument)
    (state : Specializer) : Course budget id arguments state := by
  have ran := outcome_specializeWithin budget id arguments state
  cases registered : state.context.templates.get? id with
  | none => exact .refused _ (by rw [ran, registered])
  | some template =>
    simp only [registered] at ran
    cases bound : state.context.bind id template arguments with
    | error err => exact .refused err (by rw [ran, bound])
    | ok full =>
      simp only [bound] at ran
      cases found : state.find? ⟨id, full⟩ with
      | some made => exact .known template full made registered bound found (by rw [ran, found])
      | none =>
        simp only [found] at ran
        cases budget with
        | zero => exact .refused _ ran
        | succ fewer =>
          dsimp only at ran
          split at ran
          · exact .refused _ ran
          · rename_i idle
            exact .making template full fewer rfl registered bound found idle ran

theorem outcome_applyWithin (budget : Nat) (id : TemplateId) (arguments : List TemplateArgument)
    (state : Specializer) :
    outcome (applyWithin budget id arguments) state =
      match outcome (specializeWithin budget id arguments) state with
      | (.ok made, after) => (requireType id made, after)
      | (.error err, after) => (.error err, after) := by
  unfold applyWithin
  rw [outcome_bind]
  rcases outcome (specializeWithin budget id arguments) state with ⟨_ | made, after⟩
  · rfl
  · exact outcome_lift _ _

/-! ### What evaluation is built from -/

/-- The outcome is no failure because of the recursion limit. -/
def Tame (result : Except TypeError α) : Prop := ∀ err, result = .error err → ¬ err.IsRunaway

theorem tame_ok (value : α) : Tame (.ok value : Except TypeError α) := nofun

/-- Only applying templates runs into the recursion limit: a parameter that is not what the body
takes it for is another failure. -/
theorem tame_badParam (key : SpecializationKey) (index : Nat) (expected : ArgumentSort) :
    Tame (.error (key.badParam index expected) : Except TypeError α) := by
  rintro err same ⟨limit, chain, rfl⟩
  cases same

theorem tame_typeArgument (key : SpecializationKey) (index : Nat) :
    Tame (typeArgument key index) := by
  unfold typeArgument
  split
  · exact tame_ok _
  · exact tame_badParam key index .type

theorem tame_lengthArgument (key : SpecializationKey) (index : Nat) :
    Tame (lengthArgument key index) := by
  unfold lengthArgument
  split
  · split
    · exact tame_ok _
    · exact tame_badParam key index .value
  · exact tame_badParam key index .value

theorem tame_templateArgument (key : SpecializationKey) (index : Nat) :
    Tame (templateArgument key index) := by
  unfold templateArgument
  split
  · exact tame_ok _
  · exact tame_badParam key index .template

theorem tame_anyArgument (key : SpecializationKey) (index : Nat) :
    Tame (anyArgument key index) := by
  unfold anyArgument
  split
  · exact tame_ok _
  · exact tame_badParam key index .type

/-- Steps that are put together from failing, adding a type, and applying a template. -/
inductive Built (apply : TemplateId → List TemplateArgument → SpecializeM TypeId) :
    {α : Type} → SpecializeM α → Prop where
  | pure (value : α) : Built apply (pure value)
  | lift (result : Except TypeError α) (tame : Tame result) : Built apply (liftM result)
  | intern (form : TypeForm) : Built apply (intern form)
  | qualified (ty : TypeId) (quals : Qualifiers) : Built apply (qualified ty quals)
  | apply (id : TemplateId) (arguments : List TemplateArgument) : Built apply (apply id arguments)
  | bind {steps : SpecializeM α} {rest : α → SpecializeM β} (first : Built apply steps)
      (second : ∀ value, Built apply (rest value)) : Built apply (steps >>= rest)

/-- Steps that are put together in the same way, but for how templates are applied. -/
inductive Paired (apply apply' : TemplateId → List TemplateArgument → SpecializeM TypeId) :
    {α : Type} → SpecializeM α → SpecializeM α → Prop where
  | pure (value : α) : Paired apply apply' (pure value) (pure value)
  | lift (result : Except TypeError α) (tame : Tame result) :
    Paired apply apply' (liftM result) (liftM result)
  | intern (form : TypeForm) : Paired apply apply' (intern form) (intern form)
  | qualified (ty : TypeId) (quals : Qualifiers) :
    Paired apply apply' (qualified ty quals) (qualified ty quals)
  | apply (id : TemplateId) (arguments : List TemplateArgument) :
    Paired apply apply' (apply id arguments) (apply' id arguments)
  | bind {steps steps' : SpecializeM α} {rest rest' : α → SpecializeM β}
      (first : Paired apply apply' steps steps')
      (second : ∀ value, Paired apply apply' (rest value) (rest' value)) :
    Paired apply apply' (steps >>= rest) (steps' >>= rest')

variable {apply apply' : TemplateId → List TemplateArgument → SpecializeM TypeId}
  {steps steps' : SpecializeM α}

theorem Paired.built (paired : Paired apply apply' steps steps') : Built apply steps := by
  induction paired with
  | pure value => exact .pure value
  | lift result tame => exact .lift result tame
  | intern form => exact .intern form
  | qualified ty quals => exact .qualified ty quals
  | apply id arguments => exact .apply id arguments
  | bind _ _ first second => exact .bind first second

section Evaluation

variable (key : SpecializationKey)
  (apply apply' : TemplateId → List TemplateArgument → SpecializeM TypeId)

mutual

theorem eval_paired : (expr : TypeExpr) →
    Paired apply apply' (eval key apply expr) (eval key apply' expr)
  | .concrete ty => by rw [eval, eval]; exact .pure ty
  | .param index => by rw [eval, eval]; exact .lift _ (tame_typeArgument key index)
  | .pointer target => by
    rw [eval, eval]
    exact .bind (eval_paired target) fun _ => .intern _
  | .array element _ => by
    rw [eval, eval]
    exact .bind (eval_paired element) fun _ => .intern _
  | .arrayOfParam element index => by
    rw [eval, eval]
    exact .bind (.lift _ (tame_lengthArgument key index)) fun _ =>
      .bind (eval_paired element) fun _ => .intern _
  | .slice element => by
    rw [eval, eval]
    exact .bind (eval_paired element) fun _ => .intern _
  | .qualified base _ => by
    rw [eval, eval]
    exact .bind (eval_paired base) fun _ => .qualified _ _
  | .function parameters result _ => by
    rw [eval, eval]
    exact .bind (evalAll_paired parameters) fun _ => .bind (eval_paired result) fun _ => .intern _
  | .apply _ arguments => by
    rw [eval, eval]
    exact .bind (evalArguments_paired arguments) fun _ => .apply _ _
  | .applyParam index arguments => by
    rw [eval, eval]
    exact .bind (.lift _ (tame_templateArgument key index)) fun _ =>
      .bind (evalArguments_paired arguments) fun _ => .apply _ _

theorem evalAll_paired : (exprs : List TypeExpr) →
    Paired apply apply' (evalAll key apply exprs) (evalAll key apply' exprs)
  | [] => by rw [evalAll, evalAll]; exact .pure _
  | expr :: rest => by
    rw [evalAll, evalAll]
    exact .bind (eval_paired expr) fun _ => .bind (evalAll_paired rest) fun _ => .pure _

theorem evalArgument_paired : (argument : ArgExpr) →
    Paired apply apply' (evalArgument key apply argument) (evalArgument key apply' argument)
  | .type expr => by
    rw [evalArgument, evalArgument]
    exact .bind (eval_paired expr) fun _ => .pure _
  | .value _ => by rw [evalArgument, evalArgument]; exact .pure _
  | .template _ => by rw [evalArgument, evalArgument]; exact .pure _
  | .param index => by rw [evalArgument, evalArgument]; exact .lift _ (tame_anyArgument key index)

theorem evalArguments_paired : (arguments : List ArgExpr) →
    Paired apply apply' (evalArguments key apply arguments) (evalArguments key apply' arguments)
  | [] => by rw [evalArguments, evalArguments]; exact .pure _
  | argument :: rest => by
    rw [evalArguments, evalArguments]
    exact .bind (evalArgument_paired argument) fun _ => .bind (evalArguments_paired rest) fun _ =>
      .pure _

end

theorem evalFields_paired (fields : List FieldExpr) :
    Paired apply apply' (evalFields key apply fields) (evalFields key apply' fields) := by
  induction fields with
  | nil => exact .pure _
  | cons field rest ih =>
    exact .bind (eval_paired key apply apply' field.type) fun _ => .bind ih fun _ => .pure _

theorem evalMethods_paired (methods : List MethodExpr) :
    Paired apply apply' (evalMethods key apply methods) (evalMethods key apply' methods) := by
  induction methods with
  | nil => exact .pure _
  | cons method rest ih =>
    exact .bind (evalAll_paired key apply apply' method.parameters) fun _ =>
      .bind (eval_paired key apply apply' method.result) fun _ => .bind (.intern _) fun _ =>
        .bind ih fun _ => .pure _

theorem evalBody_paired (body : TemplateBody) :
    Paired apply apply' (evalBody key apply body) (evalBody key apply' body) := by
  cases body with
  | struct fields | union fields =>
    exact .bind (evalFields_paired key apply apply' fields) fun _ => .pure _
  | classType base fields methods =>
    have methods_paired := evalMethods_paired key apply apply' methods
    refine .bind (evalFields_paired key apply apply' fields) fun _ => ?_
    cases base with
    | none => exact .bind (.pure _) fun _ => .bind methods_paired fun _ => .pure _
    | some base =>
      have base_paired : Paired apply apply' (some <$> eval key apply base)
          (some <$> eval key apply' base) := by
        rw [map_eq_pure_bind, map_eq_pure_bind]
        exact .bind (eval_paired key apply apply' base) fun _ => .pure _
      exact .bind base_paired fun _ => .bind methods_paired fun _ => .pure _
  | synonym target => exact .pure _
  | function parameters result variadic => exact .pure _

theorem eval_built (expr : TypeExpr) : Built apply (eval key apply expr) :=
  (eval_paired key apply apply expr).built

theorem evalAll_built (exprs : List TypeExpr) : Built apply (evalAll key apply exprs) :=
  (evalAll_paired key apply apply exprs).built

theorem evalFunction_built (exprs : List TypeExpr) (result : TypeExpr) (variadic : Bool) :
    Built apply (do
      let types ← evalAll key apply exprs
      let inner ← eval key apply result
      intern (.function types inner variadic)) :=
  .bind (evalAll_built key apply exprs) fun _ => .bind (eval_built key apply result) fun _ =>
    .intern _

theorem evalBody_built (body : TemplateBody) : Built apply (evalBody key apply body) :=
  (evalBody_paired key apply apply body).built

end Evaluation

end Specializer

end FrontEnd
