import FrontEnd.Proofs.Declaration.Translation
import FrontEnd.Proofs.Specialization.Lockstep

/-!
Two ways to a type. A spelling in the body of a template is translated to an expression, which is
evaluated once the arguments are known. It could as well be resolved then, like a spelling outside
of templates, with the names of the parameters standing for the arguments. The two ways agree on
success and on the type, but for two positions of names: the bare name of the template itself as an
argument, and the bare name of a parameter that stands for a template where a type is asked for.
-/

namespace FrontEnd

open Specializer (Alike applyWithin eval evalArgument evalArguments)

/-- The argument that the name of a parameter stands for. -/
def TemplateScope.given? (scope : TemplateScope) (arguments : List TemplateArgument)
    (name : String) : Option TemplateArgument :=
  (scope.parameter? name).bind (arguments[·]?)

/-- What names mean in the body of a template if a body is read as everything else is: the names of
the parameters stand for the arguments, the template knows its own name, and all other names mean
what they mean outside. A template is found in the same way whether it is an argument or not. -/
def Reading.inTemplate (scope : TemplateScope) (arguments : List TemplateArgument) : Reading where
  argument? name := match scope.given? arguments name with
    | some (.template _) => none
    | other => other
  lookup? name := match scope.given? arguments name with
    | some (.template id) => some (.template id)
    | _ => scope.lookup? name
  template? name := match scope.given? arguments name with
    | some (.template id) => some id
    | _ => match scope.lookup? name with
      | some (.template id) => some id
      | _ => none

namespace TemplateScope

variable (scope : TemplateScope) (arguments : List TemplateArgument)

mutual

/-- The spelling has no name in the two positions. -/
def Straight : Spelling → Prop
  | .pointer target => Straight target
  | .slice element => Straight element
  | .array element _ => Straight element
  | .qualified base _ => Straight base
  | .named name => ∀ id, scope.given? arguments name ≠ some (.template id)
  | .applied _ spelled => StraightAll spelled

/-- The argument has no name in the two positions. -/
def StraightArgument : SpelledArgument → Prop
  | .int _ | .bool _ => True
  | .type (.named name) =>
    (scope.parameter? name).isSome ∨ scope.outer.names.get? name ≠ some scope.name
  | .type spelling => Straight spelling

def StraightAll : List SpelledArgument → Prop
  | [] => True
  | argument :: rest => StraightArgument argument ∧ StraightAll rest

end

end TemplateScope

/-! ### Steps side by side -/

/-- A request and tables that know the same, where the request may not be nested further than the
tables allow. -/
structure Beside (budget : Nat) (state : Specializer) (ctx : TypeContext) : Prop where
  alike : Alike state { context := ctx }
  room : budget ≤ state.context.config.recursionLimit

/-- Both outcomes are the same type, or both are errors, unless the request ran into the recursion
limit. -/
inductive Matches (budget : Nat) :
    Except TypeError α × Specializer → Except DeclareError α × TypeContext → Prop where
  | done (value : α) {after : Specializer} {ctx : TypeContext} (beside : Beside budget after ctx) :
    Matches budget (.ok value, after) (.ok value, ctx)
  | failed (err : TypeError) (err' : DeclareError) (after : Specializer) (ctx : TypeContext) :
    Matches budget (.error err, after) (.error err', ctx)
  | runaway (err : TypeError) (limit : err.IsRunaway) (after : Specializer)
    (ended : Except DeclareError α × TypeContext) : Matches budget (.error err, after) ended

/-- Steps of a request that go as steps of resolving do. -/
def Shadows (budget : Nat) (steps : SpecializeM α) (direct : ResolveM α) : Prop :=
  ∀ state ctx, Beside budget state ctx → Matches budget (outcome steps state) (outcome direct ctx)

/-- Steps of resolving that always fail. -/
def Fails (direct : ResolveM α) : Prop := ∀ ctx, ∃ err after, outcome direct ctx = (.error err, after)

variable {budget : Nat} {steps : SpecializeM α} {direct : ResolveM α} {rest : α → SpecializeM β}
  {rest' : α → ResolveM β}

theorem fails_throw (err : DeclareError) : Fails (throw err : ResolveM α) :=
  fun ctx => ⟨err, ctx, rfl⟩

theorem Fails.bind (fails : Fails direct) : Fails (direct >>= rest') := by
  intro ctx
  obtain ⟨err, after, ran⟩ := fails ctx
  exact ⟨err, after, outcome_bind_error ran⟩

theorem fails_after (fails : ∀ value, Fails (rest' value)) : Fails (direct >>= rest') := by
  intro ctx
  rw [outcome_bind]
  rcases outcome direct ctx with ⟨err | value, after⟩
  · exact ⟨err, after, rfl⟩
  · exact fails value after

theorem shadows_pure (value : α) :
    Shadows budget (pure value : SpecializeM α) (pure value) :=
  fun _ _ beside => .done value beside

theorem shadows_error (err : TypeError) (fails : Fails direct) :
    Shadows budget (liftM (Except.error err : Except TypeError α)) direct := by
  intro state ctx beside
  obtain ⟨err', after, ran⟩ := fails ctx
  rw [ran]
  exact .failed err err' state after

theorem shadows_bind (first : Shadows budget steps direct)
    (second : ∀ value, Shadows budget (rest value) (rest' value)) :
    Shadows budget (steps >>= rest) (direct >>= rest') := by
  intro state ctx beside
  have agrees := first state ctx beside
  rw [outcome_bind, outcome_bind]
  generalize outcome steps state = ended, outcome direct ctx = ended' at agrees
  cases agrees with
  | done value beside => exact second value _ _ beside
  | failed err err' after ctx => exact .failed err err' after ctx
  | runaway err limit after => exact .runaway err limit after _

theorem shadows_intern (form : TypeForm) :
    Shadows budget (Specializer.intern form) (Scope.intern form) := by
  rintro state ctx ⟨⟨indexed, ⟨instances, rfl⟩, found, chain⟩, room⟩
  exact .done _ ⟨⟨TypeContext.indexed_intern indexed form, ⟨instances, rfl⟩, found, chain⟩, room⟩

theorem shadows_qualified (ty : TypeId) (quals : Qualifiers) :
    Shadows budget (Specializer.qualified ty quals) (Scope.qualified ty quals) := by
  rintro state ctx ⟨⟨indexed, ⟨instances, rfl⟩, found, chain⟩, room⟩
  exact .done _
    ⟨⟨TypeContext.indexed_qualified indexed ty quals, ⟨instances, rfl⟩, found, chain⟩, room⟩

/-- Applying a template inside of a request goes as a request of its own, whose results are
published at once. -/
theorem shadows_apply (id : TemplateId) (arguments : List TemplateArgument) :
    Shadows budget (applyWithin budget id arguments) (Scope.specialize id arguments) := by
  intro state ctx beside
  obtain ⟨instances, same⟩ : ∃ instances, ctx = { state.context with instances } :=
    beside.alike.tables
  have indexed : ctx.Indexed := by
    subst same
    exact ⟨beside.alike.indexed.pool, beside.alike.indexed.defs, beside.alike.indexed.names⟩
  have room : budget ≤ ctx.config.recursionLimit - Specializer.depth { context := ctx } := by
    subst same
    exact beside.room
  have tracks := Specializer.lockstep_specializeWithin room id arguments state { context := ctx }
    beside.alike
  obtain ⟨⟨-, _, _, grown, -⟩, -⟩ :=
    Specializer.specializeWithin_grew budget id arguments state beside.alike.indexed
  obtain ⟨⟨-, _, _, growth, -⟩, -⟩ := Specializer.specializeWithin_grew
    (ctx.config.recursionLimit - Specializer.depth { context := ctx }) id arguments
    { context := ctx } indexed
  rw [Specializer.outcome_applyWithin, outcome_specialize, TypeContext.specializeType,
    TypeContext.specialize_eq, Specializer.specialize_settled]
  dsimp only at tracks growth ⊢
  generalize outcome (Specializer.specializeWithin budget id arguments) state = ended,
    outcome (Specializer.specializeWithin
      (ctx.config.recursionLimit - Specializer.depth { context := ctx }) id arguments)
      { context := ctx } = ended' at tracks grown growth
  cases tracks with
  | failed err after after' => exact .failed err (.type err) _ _
  | runaway err limit after => exact .runaway err limit after _
  | done value alike =>
    rename_i after after'
    cases value with
    | function made => exact .failed _ (.type (.notATypeTemplate id)) _ _
    | type ty =>
      refine .done ty ⟨⟨alike.indexed, ?_, fun key => ?_, fun _ member => by cases member⟩, ?_⟩
      · obtain ⟨_, tables⟩ := alike.tables
        exact ⟨_, congrArg (fun context : TypeContext => { context with
          instances := after'.publish.context.instances }) tables⟩
      · exact (alike.found key).trans (Specializer.instances_publish growth rfl key).symm
      · rw [grown.config]
        exact beside.room

/-! ### Spellings -/

/-- What a spelling is translated to goes as resolving the spelling, and where it is not translated
resolving it fails. -/
def Carries (budget : Nat) (evaluate : ε → SpecializeM α) (translated : Except DeclareError ε)
    (direct : ResolveM α) : Prop :=
  match translated with
  | .ok expr => Shadows budget (evaluate expr) direct
  | .error _ => Fails direct

/-- A part of a spelling, with one more step on both ways. -/
theorem Carries.bind {evaluate : ε → SpecializeM α} {translated : Except DeclareError ε}
    (part : Carries budget evaluate translated direct) (wrap : ε → ε')
    {evaluate' : ε' → SpecializeM β} (unfolds : ∀ expr, evaluate' (wrap expr) = evaluate expr >>= rest)
    (next : ∀ value, Shadows budget (rest value) (rest' value)) :
    Carries budget evaluate' (translated >>= fun expr => pure (wrap expr)) (direct >>= rest') := by
  cases translated with
  | error err => exact Fails.bind part
  | ok expr =>
    show Shadows budget (evaluate' (wrap expr)) _
    rw [unfolds]
    exact shadows_bind part next

theorem carries_throw {evaluate : ε → SpecializeM α} {translated : Except DeclareError ε}
    (err : DeclareError)
    (fails : ∀ expr, translated = .ok expr → Shadows budget (evaluate expr) (throw err)) :
    Carries budget evaluate translated (throw err) := by
  cases translated with
  | error _ => exact fails_throw err
  | ok expr => exact fails expr rfl

variable {scope : TemplateScope} {key : SpecializationKey} {name : String}

/-- The name of a parameter stands for an argument, since there is one for each parameter. -/
theorem given?_parameter (fits : key.arguments.length = scope.parameters.length) {index : Nat}
    (own : scope.parameter? name = some index) :
    ∃ argument, key.arguments[index]? = some argument ∧
      scope.given? key.arguments name = some argument := by
  obtain ⟨found, -⟩ := Option.filter_eq_some_iff.1 own
  have inside := (List.findIdx?_eq_some_iff_getElem.1 found).1
  refine ⟨key.arguments.get ⟨index, fits ▸ inside⟩, ?_, ?_⟩
  · exact List.getElem?_eq_getElem _
  · simp [TemplateScope.given?, own]

theorem given?_none (other : scope.parameter? name = none) (arguments : List TemplateArgument) :
    scope.given? arguments name = none := by
  rw [TemplateScope.given?, other, Option.bind_none]

theorem length?_given {index : Nat} {argument : TemplateArgument}
    (stored : key.arguments[index]? = some argument)
    (given : scope.given? key.arguments name = some argument) :
    (Reading.inTemplate scope key.arguments).length? name =
      (Specializer.lengthArgument key index).toOption := by
  unfold Reading.length? Specializer.lengthArgument
  rw [stored]
  simp only [Reading.inTemplate, given]
  cases argument with
  | type ty => rfl
  | template id => rfl
  | value value =>
    cases value with
    | bool value => rfl
    | int value =>
      dsimp only
      split <;> rfl

/-- Both ways agree on a name that is not a parameter. -/
theorem exprOfName_carries (unbound : scope.given? key.arguments name = none) (isBare : Bool)
    {translated : Except DeclareError (List ArgExpr)} {direct : ResolveM (List TemplateArgument)}
    (parts : Carries budget (evalArguments key (applyWithin budget)) translated direct) :
    Carries budget (eval key (applyWithin budget)) (scope.exprOfName name isBare translated)
      ((Reading.inTemplate scope key.arguments).resolveName name isBare direct) := by
  unfold TemplateScope.exprOfName Reading.resolveName
  simp only [Reading.inTemplate, unbound]
  cases scope.lookup? name with
  | none => exact fails_throw _
  | some entry =>
    cases entry with
    | type ty =>
      cases isBare with
      | false => exact fails_throw _
      | true =>
        show Shadows budget (eval key (applyWithin budget) (.concrete ty)) _
        rw [eval]
        exact shadows_pure ty
    | template id =>
      cases translated with
      | error err => exact Fails.bind parts
      | ok exprs =>
        show Shadows budget (eval key (applyWithin budget) (.apply id exprs)) _
        rw [eval]
        exact shadows_bind parts fun given => shadows_apply id given

/-- A parameter that was given something else than a template is not applied on either way. -/
theorem applyParam_carries {index : Nat} {translated : Except DeclareError (List ArgExpr)}
    {err : TypeError} (err' : DeclareError)
    (other : Specializer.templateArgument key index = .error err) :
    Carries budget (eval key (applyWithin budget))
      (translated >>= fun exprs => pure (.applyParam index exprs)) (throw err') := by
  refine carries_throw err' fun expr found => ?_
  obtain ⟨exprs, -, same⟩ := bind_eq_ok found
  cases same
  rw [eval, other]
  exact shadows_error err (fails_throw err')

/-- Both ways agree on an argument that is a type, if they agree on the type. -/
theorem typeArgument_carries {spelling : Spelling} (parameter : scope.bareParameter? spelling = none)
    (template : scope.outer.bareTemplate? spelling = none)
    (bare : (Reading.inTemplate scope key.arguments).bare? spelling = none)
    (part : Carries budget (eval key (applyWithin budget)) (scope.expr spelling)
      ((Reading.inTemplate scope key.arguments).resolve spelling)) :
    Carries budget (evalArgument key (applyWithin budget)) (scope.argumentExpr (.type spelling))
      ((Reading.inTemplate scope key.arguments).resolveArgument (.type spelling)) := by
  rw [TemplateScope.argumentExpr, Reading.resolveArgument, parameter, template, bare]
  refine part.bind ArgExpr.type (fun expr => ?_) fun _ => shadows_pure _
  rw [evalArgument]

mutual

/-- Both ways agree on a spelling. -/
theorem expr_carries (fits : key.arguments.length = scope.parameters.length) :
    (spelling : Spelling) → scope.Straight key.arguments spelling →
    Carries budget (eval key (applyWithin budget)) (scope.expr spelling)
      ((Reading.inTemplate scope key.arguments).resolve spelling)
  | .pointer target, straight => by
    rw [TemplateScope.Straight] at straight
    rw [TemplateScope.expr, Reading.resolve]
    refine (expr_carries fits target straight).bind TypeExpr.pointer (fun inner => ?_)
      fun _ => shadows_intern _
    rw [eval]
  | .slice element, straight => by
    rw [TemplateScope.Straight] at straight
    rw [TemplateScope.expr, Reading.resolve]
    refine (expr_carries fits element straight).bind TypeExpr.slice (fun inner => ?_)
      fun _ => shadows_intern _
    rw [eval]
  | .array element (.literal length), straight => by
    rw [TemplateScope.Straight] at straight
    rw [TemplateScope.expr, Reading.resolve]
    refine (expr_carries fits element straight).bind (TypeExpr.array · length) (fun inner => ?_)
      fun _ => shadows_intern _
    rw [eval]
  | .array element (.parameter name), straight => by
    rw [TemplateScope.Straight] at straight
    have part := expr_carries fits element straight
    rw [TemplateScope.expr, Reading.resolve]
    cases own : scope.parameter? name with
    | none =>
      have unbound : (Reading.inTemplate scope key.arguments).length? name = none := by
        simp [Reading.length?, Reading.inTemplate, given?_none own]
      rw [unbound]
      cases scope.expr element <;> exact fails_throw _
    | some index =>
      obtain ⟨argument, stored, given⟩ := given?_parameter fits own
      rw [length?_given stored given]
      cases bound : Specializer.lengthArgument key index with
      | error err =>
        cases scope.expr element with
        | error err => exact fails_throw _
        | ok inner =>
          show Shadows budget (eval key (applyWithin budget) (.arrayOfParam inner index)) _
          rw [eval, bound]
          exact shadows_error err (fails_throw _)
      | ok length =>
        refine part.bind (TypeExpr.arrayOfParam · index) (fun inner => ?_) fun _ => shadows_intern _
        rw [eval, bound]
        rfl
  | .qualified base quals, straight => by
    rw [TemplateScope.Straight] at straight
    rw [TemplateScope.expr, Reading.resolve]
    refine (expr_carries fits base straight).bind (TypeExpr.qualified · quals) (fun inner => ?_)
      fun _ => shadows_qualified _ _
    rw [eval]
  | .named name, straight => by
    rw [TemplateScope.Straight] at straight
    rw [TemplateScope.expr, Reading.resolve]
    cases own : scope.parameter? name with
    | some index =>
      obtain ⟨argument, stored, given⟩ := given?_parameter fits own
      show Shadows budget (eval key (applyWithin budget) (.param index)) _
      rw [eval, Specializer.typeArgument, stored]
      cases argument with
      | type ty =>
        simp only [Reading.inTemplate, given]
        exact shadows_pure ty
      | value value =>
        simp only [Reading.inTemplate, given]
        exact shadows_error _ (fails_throw _)
      | template id => exact absurd given (straight id)
    | none =>
      have unbound := given?_none own key.arguments
      simp only [Reading.inTemplate, unbound]
      cases TypeId.ofPrimitiveName? name with
      | some ty =>
        show Shadows budget (eval key (applyWithin budget) (.concrete ty)) _
        rw [eval]
        exact shadows_pure ty
      | none =>
        refine exprOfName_carries unbound true ?_
        show Shadows budget (evalArguments key (applyWithin budget) []) _
        rw [evalArguments]
        exact shadows_pure []
  | .applied name arguments, straight => by
    rw [TemplateScope.Straight] at straight
    have parts := argumentExprs_carries fits arguments straight
    rw [TemplateScope.expr, Reading.resolve]
    cases own : scope.parameter? name with
    | none =>
      have unbound := given?_none own key.arguments
      rw [show (Reading.inTemplate scope key.arguments).argument? name = none by
        simp only [Reading.inTemplate, unbound]]
      exact exprOfName_carries unbound false parts
    | some index =>
      obtain ⟨argument, stored, given⟩ := given?_parameter fits own
      cases argument with
      | template id =>
        simp only [Reading.inTemplate, given, Reading.resolveName]
        refine parts.bind (TypeExpr.applyParam index) (fun exprs => ?_) fun given =>
          shadows_apply id given
        rw [eval, Specializer.templateArgument, stored]
        rfl
      | type ty =>
        simp only [Reading.inTemplate, given]
        exact applyParam_carries _ (by rw [Specializer.templateArgument, stored])
      | value value =>
        simp only [Reading.inTemplate, given]
        exact applyParam_carries _ (by rw [Specializer.templateArgument, stored])

theorem argumentExpr_carries (fits : key.arguments.length = scope.parameters.length) :
    (argument : SpelledArgument) → scope.StraightArgument key.arguments argument →
    Carries budget (evalArgument key (applyWithin budget)) (scope.argumentExpr argument)
      ((Reading.inTemplate scope key.arguments).resolveArgument argument)
  | .int value, _ => by
    rw [TemplateScope.argumentExpr, Reading.resolveArgument, Carries, evalArgument]
    exact shadows_pure _
  | .bool value, _ => by
    rw [TemplateScope.argumentExpr, Reading.resolveArgument, Carries, evalArgument]
    exact shadows_pure _
  | .type (.named name), straight => by
    rw [TemplateScope.StraightArgument] at straight
    cases own : scope.parameter? name with
    | some index =>
      obtain ⟨argument, stored, given⟩ := given?_parameter fits own
      rw [TemplateScope.argumentExpr, Reading.resolveArgument]
      simp only [TemplateScope.bareParameter?, own, Reading.bare?, Reading.inTemplate, given]
      show Shadows budget (evalArgument key (applyWithin budget) (.param index)) _
      rw [evalArgument, Specializer.anyArgument, stored]
      cases argument <;> exact shadows_pure _
    | none =>
      have unbound := given?_none own key.arguments
      have foreign : scope.outer.names.get? name ≠ some scope.name :=
        straight.resolve_left (by simp [own])
      have part := expr_carries fits (.named name) (by
        rw [TemplateScope.Straight, unbound]
        exact fun _ => nofun)
      have same : scope.lookup? name = scope.outer.lookup? name := if_neg foreign
      have template : (Reading.inTemplate scope key.arguments).bare? (.named name) =
          (scope.outer.bareTemplate? (.named name)).map .template := by
        simp only [Reading.bare?, Reading.inTemplate, unbound, same, Option.none_or]
        rfl
      have parameter : scope.bareParameter? (.named name) = none := own
      cases found : scope.outer.bareTemplate? (.named name) with
      | none => exact typeArgument_carries parameter found (by rw [template, found]; rfl) part
      | some id =>
        rw [TemplateScope.argumentExpr, Reading.resolveArgument, template, found, parameter]
        show Shadows budget (evalArgument key (applyWithin budget) (.template id)) _
        rw [evalArgument]
        exact shadows_pure _
  | .type (.pointer target), straight =>
    typeArgument_carries rfl rfl rfl (expr_carries fits (.pointer target) straight)
  | .type (.slice element), straight =>
    typeArgument_carries rfl rfl rfl (expr_carries fits (.slice element) straight)
  | .type (.array element length), straight =>
    typeArgument_carries rfl rfl rfl (expr_carries fits (.array element length) straight)
  | .type (.qualified base quals), straight =>
    typeArgument_carries rfl rfl rfl (expr_carries fits (.qualified base quals) straight)
  | .type (.applied name arguments), straight =>
    typeArgument_carries rfl rfl rfl (expr_carries fits (.applied name arguments) straight)

theorem argumentExprs_carries (fits : key.arguments.length = scope.parameters.length) :
    (arguments : List SpelledArgument) → scope.StraightAll key.arguments arguments →
    Carries budget (evalArguments key (applyWithin budget)) (scope.argumentExprs arguments)
      ((Reading.inTemplate scope key.arguments).resolveArguments arguments)
  | [], _ => by
    rw [TemplateScope.argumentExprs, Reading.resolveArguments, Carries, evalArguments]
    exact shadows_pure _
  | argument :: rest, straight => by
    rw [TemplateScope.StraightAll] at straight
    have first := argumentExpr_carries fits argument straight.1
    have others := argumentExprs_carries fits rest straight.2
    rw [TemplateScope.argumentExprs, Reading.resolveArguments]
    cases head : scope.argumentExpr argument with
    | error err =>
      rw [head] at first
      exact Fails.bind first
    | ok expr =>
      rw [head] at first
      cases tail : scope.argumentExprs rest with
      | error err =>
        rw [tail] at others
        exact fails_after fun _ => Fails.bind others
      | ok exprs =>
        rw [tail] at others
        show Shadows budget (evalArguments key (applyWithin budget) (expr :: exprs)) _
        rw [evalArguments]
        exact shadows_bind first fun _ => shadows_bind others fun _ => shadows_pure _

end

/-! ### The two ways together -/

theorem beside_publish {state : Specializer} (indexed : state.context.Indexed)
    (once : (state.pending.map Prod.fst).Nodup)
    (room : budget ≤ state.context.config.recursionLimit) :
    Beside budget state state.publish.context :=
  ⟨⟨indexed, ⟨_, rfl⟩, fun key => (Specializer.find?_publish once key).symm,
    fun _ member => by cases member⟩, room⟩

/-- Unless the request ran into the recursion limit, both outcomes are the same type or neither is
one. -/
theorem Matches.ok_iff {ended : Except TypeError α × Specializer}
    {ended' : Except DeclareError α × TypeContext} {value : α} (both : Matches budget ended ended')
    (bounded : ∀ err, ended.1 = .error err → ¬ err.IsRunaway) :
    ended.1 = .ok value ↔ ended'.1 = .ok value := by
  cases both with
  | done given beside => simp only [Except.ok.injEq]
  | failed err err' after ctx => constructor <;> simp
  | runaway err limit after => exact absurd limit (bounded err rfl)

/-- The bare name of the template itself is an argument like that of any other template. -/
theorem resolveArgument_ownName (other : scope.parameter? name = none)
    (own : scope.outer.names.get? name = some scope.name) :
    (Reading.inTemplate scope key.arguments).resolveArgument (.type (.named name)) =
      pure (.template scope.id) := by
  have meant : scope.lookup? name = some (.template scope.id) := if_pos own
  rw [Reading.resolveArgument]
  simp only [Reading.bare?, Reading.inTemplate, given?_none other, meant]
  rfl

/-- In a body it is taken for a type, unless the surrounding scope has a template of that name. -/
theorem argumentExpr_ownName (other : scope.parameter? name = none)
    (own : scope.outer.names.get? name = some scope.name)
    (foreign : scope.outer.template? name = none) (plain : TypeId.ofPrimitiveName? name = none) :
    scope.argumentExpr (.type (.named name)) = .ok (.type (.apply scope.id [])) := by
  have meant : scope.lookup? name = some (.template scope.id) := if_pos own
  have untitled : scope.outer.bareTemplate? (.named name) = none := foreign
  rw [TemplateScope.argumentExpr, TemplateScope.bareParameter?, other, untitled]
  dsimp only
  rw [TemplateScope.expr, other, plain]
  simp only [TemplateScope.exprOfName, meant]
  rfl

/-- A parameter that stands for a template is the template with its defaults. -/
theorem resolve_templateParameter {id : TemplateId}
    (given : scope.given? key.arguments name = some (.template id))
    (plain : TypeId.ofPrimitiveName? name = none) :
    (Reading.inTemplate scope key.arguments).resolve (.named name) = Scope.specialize id [] := by
  rw [Reading.resolve]
  simp only [Reading.inTemplate, given, plain, Reading.resolveName]
  rfl

/-- In a body it is no type at all. -/
theorem eval_templateParameter {state : Specializer} {id : TemplateId}
    (given : scope.given? key.arguments name = some (.template id)) :
    ∃ index, scope.expr (.named name) = .ok (.param index) ∧
      (outcome (eval key (applyWithin budget) (.param index)) state).1 =
        .error (key.badParam index .type) := by
  obtain ⟨index, own, stored⟩ := Option.bind_eq_some_iff.1 given
  refine ⟨index, by rw [TemplateScope.expr, own], ?_⟩
  rw [eval, Specializer.typeArgument, stored]
  rfl

/-- A type in the body of a template is evaluated under a key as its spelling is resolved in the
tables that are known by then, with the names of the parameters standing for the arguments of the
key: if one way gives a type, the other gives the same. This holds for every state of a request that
does not run into the recursion limit, and for every spelling but for two positions of names.

The bare name of the template itself, taken as an argument, stands for the template; in a body it
becomes the instance that the template has without arguments, so that the two never agree. The bare
name of a parameter stands for a template if the argument is one, and a template without arguments
takes its defaults; in a body it is always refused. -/
theorem eval_iff_resolve (state : Specializer) (scope : TemplateScope) (key : SpecializationKey)
    (budget : Nat) (indexed : state.context.Indexed) (once : (state.pending.map Prod.fst).Nodup)
    (room : budget ≤ state.context.config.recursionLimit)
    (fits : key.arguments.length = scope.parameters.length) :
    (∀ spelling, scope.Straight key.arguments spelling →
      (∀ expr err, scope.expr spelling = .ok expr →
        (outcome (eval key (applyWithin budget) expr) state).1 = .error err → ¬ err.IsRunaway) →
      ∀ ty, (∃ expr, scope.expr spelling = .ok expr ∧
          (outcome (eval key (applyWithin budget) expr) state).1 = .ok ty) ↔
        (outcome ((Reading.inTemplate scope key.arguments).resolve spelling)
          state.publish.context).1 = .ok ty) ∧
    (∀ name, scope.parameter? name = none → scope.outer.names.get? name = some scope.name →
      (Reading.inTemplate scope key.arguments).resolveArgument (.type (.named name)) =
        pure (.template scope.id) ∧
      (scope.outer.template? name = none → TypeId.ofPrimitiveName? name = none →
        scope.argumentExpr (.type (.named name)) = .ok (.type (.apply scope.id [])))) ∧
    ∀ name id, scope.given? key.arguments name = some (.template id) →
      (TypeId.ofPrimitiveName? name = none →
        (Reading.inTemplate scope key.arguments).resolve (.named name) = Scope.specialize id []) ∧
      ∃ index, scope.expr (.named name) = .ok (.param index) ∧
        (outcome (eval key (applyWithin budget) (.param index)) state).1 =
          .error (key.badParam index .type) := by
  refine ⟨fun spelling straight bounded ty => ?_, fun name other own =>
    ⟨resolveArgument_ownName other own, fun foreign plain =>
      argumentExpr_ownName other own foreign plain⟩, fun name id given =>
    ⟨resolve_templateParameter given, eval_templateParameter given⟩⟩
  have carries : Carries budget (eval key (applyWithin budget)) (scope.expr spelling)
      ((Reading.inTemplate scope key.arguments).resolve spelling) :=
    expr_carries fits spelling straight
  cases translated : scope.expr spelling with
  | error err =>
    rw [translated] at carries
    obtain ⟨err', after, ran⟩ := carries state.publish.context
    rw [ran]
    constructor <;> simp
  | ok expr =>
    rw [translated] at carries
    have both := carries state state.publish.context (beside_publish indexed once room)
    rw [← both.ok_iff (bounded expr · translated)]
    constructor
    · rintro ⟨expr', same, gives⟩
      cases same
      exact gives
    · exact fun gives => ⟨expr, rfl, gives⟩

/-- In new tables, a parameter that stands for a primitive type is that type in both ways. -/
theorem eval_iff_resolve_parameter :
    (outcome ((Reading.inTemplate ⟨⟨.bare, {}, []⟩, ⟨0⟩, .empty, ["T"]⟩ [.type .void]).resolve
      (.named "T")) {}).1 = .ok .void := by
  obtain ⟨both, -⟩ := eval_iff_resolve { context := {} } ⟨⟨.bare, {}, []⟩, ⟨0⟩, .empty, ["T"]⟩
    ⟨⟨0⟩, [.type .void]⟩ 0 (TypeContext.indexed_initial {}) List.nodup_nil (Nat.zero_le _) rfl
  have translated : TemplateScope.expr ⟨⟨.bare, {}, []⟩, ⟨0⟩, .empty, ["T"]⟩ (.named "T") =
      .ok (.param 0) := by
    rw [TemplateScope.expr]
    rfl
  have evaluated : (outcome (eval ⟨⟨0⟩, [.type .void]⟩ (applyWithin 0) (.param 0))
      { context := {} }).1 = .ok .void := by
    rw [eval]
    rfl
  refine (both (.named "T") ?_ (fun expr err same failed => ?_) .void).1 ⟨_, translated, evaluated⟩
  · rw [TemplateScope.Straight]
    exact fun id => nofun
  · cases translated.symm.trans same
    cases evaluated.symm.trans failed

end FrontEnd
