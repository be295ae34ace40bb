import FrontEnd.Proofs.Declaration.Reading
import FrontEnd.Proofs.Specialization.Tables

/-!
Spellings in the body of a template. Where a spelling is translated to an expression and the
expression denotes a type under a key, reading the spelling with the arguments of the key gives the
same type, and adds nothing to the tables.
-/

namespace FrontEnd

open Specializer (Denotes DenotesAll DenotesArgument DenotesArguments)

namespace Reading

/-- A reading that gives the names of parameters their arguments, and gives every other name that
has a meaning in the body of a template the same meaning. It may know more names. -/
structure Keeps (reading : Reading) (scope : TemplateScope) (arguments : List TemplateArgument) :
    Prop where
  argument : ∀ name, reading.argument? name = (scope.parameter? name).bind (arguments[·]?)
  lookup : ∀ name entry, scope.lookup? name = some entry → reading.lookup? name = some entry
  template : ∀ name, (scope.lookup? name).isSome ∨ (TypeId.ofPrimitiveName? name).isSome →
    reading.template? name = scope.outer.template? name

end Reading

namespace Specializer

variable {key : SpecializationKey} {index : Nat}

theorem typeArgument_eq {ty : TypeId} (given : typeArgument key index = .ok ty) :
    key.arguments[index]? = some (.type ty) := by
  unfold typeArgument at given
  split at given
  · rename_i own stored
    cases given
    exact stored
  · cases given

theorem templateArgument_eq {id : TemplateId} (given : templateArgument key index = .ok id) :
    key.arguments[index]? = some (.template id) := by
  unfold templateArgument at given
  split at given
  · rename_i own stored
    cases given
    exact stored
  · cases given

theorem anyArgument_eq {argument : TemplateArgument}
    (given : anyArgument key index = .ok argument) :
    key.arguments[index]? = some argument := by
  unfold anyArgument at given
  split at given
  · rename_i own stored
    cases given
    exact stored
  · cases given

end Specializer

variable {ctx : TypeContext} {reading : Reading} {scope : TemplateScope} {key : SpecializationKey}
  {ty : TypeId}

/-! ### Single steps -/

theorem outcome_intern_known {form : TypeForm} (orderly : ctx.Orderly)
    (found : ctx.pool.form? ty = some form) : outcome (Scope.intern form) ctx = (.ok ty, ctx) := by
  have same := TypePool.intern_of_form? orderly.sound.indexed.pool.exact found
  have ran : outcome (Scope.intern form) ctx =
      (.ok (ctx.pool.intern form).1, { ctx with pool := (ctx.pool.intern form).2 }) := rfl
  rw [ran, same]

theorem outcome_qualified_known {base : TypeId} {quals : Qualifiers}
    (qualifies : ctx.pool.Qualifies base quals ty) :
    outcome (Scope.qualified base quals) ctx = (.ok ty, ctx) := by
  have ran : outcome (Scope.qualified base quals) ctx =
      (.ok (ctx.pool.qualified base quals).1,
        { ctx with pool := (ctx.pool.qualified base quals).2 }) := rfl
  rw [ran, qualifies.2]

/-- A template whose instance is known gives it at once. -/
theorem specializeType_known {id : TemplateId} {arguments : List TemplateArgument}
    (gives : Specializer.Gives { context := ctx } id arguments ty) :
    ctx.specializeType id arguments = (.ok ty, ctx) := by
  obtain ⟨template, full, registered, bound, found⟩ := gives
  have steps := Specializer.outcome_specializeWithin
    (ctx.config.recursionLimit - Specializer.depth { context := ctx }) id arguments
    { context := ctx }
  simp only [registered, bound, found] at steps
  have settled := Specializer.specialize_settled { context := ctx } id arguments
  rw [steps] at settled
  simp only [TypeContext.specializeType, TypeContext.specialize, settled, Specializer.settled]
  rfl

theorem outcome_specialize (id : TemplateId) (arguments : List TemplateArgument)
    (ctx : TypeContext) : outcome (Scope.specialize id arguments) ctx =
      ((ctx.specializeType id arguments).1.mapError .type,
        (ctx.specializeType id arguments).2) := by
  unfold Scope.specialize
  rw [outcome_get_bind]
  rcases ctx.specializeType id arguments with ⟨_ | _, _⟩ <;> rfl

/-- A name gives the instance that the request for it gives. -/
theorem specialize_ok_iff {id : TemplateId} {arguments : List TemplateArgument}
    {after : TypeContext} : outcome (Scope.specialize id arguments) ctx = (.ok ty, after) ↔
      ctx.specializeType id arguments = (.ok ty, after) := by
  rw [outcome_specialize]
  rcases ctx.specializeType id arguments with ⟨_ | _, _⟩ <;> simp [Except.mapError]

theorem outcome_specialize_known {id : TemplateId} {arguments : List TemplateArgument}
    (gives : Specializer.Gives { context := ctx } id arguments ty) :
    outcome (Scope.specialize id arguments) ctx = (.ok ty, ctx) := by
  rw [outcome_specialize, specializeType_known gives]
  rfl

/-! ### Spellings -/

section Spellings

theorem Reading.length?_keeps (keeps : reading.Keeps scope key.arguments) {name : String}
    {index length : Nat} (own : scope.parameter? name = some index)
    (given : Specializer.lengthArgument key index = .ok length) :
    reading.length? name = some length := by
  unfold Reading.length?
  rw [keeps.argument, own, Option.bind_some]
  unfold Specializer.lengthArgument at given
  cases stored : key.arguments[index]? with
  | none =>
    rw [stored] at given
    cases given
  | some argument =>
    rw [stored] at given
    cases argument with
    | value value =>
      cases value with
      | int value =>
        dsimp only at given ⊢
        split at given
        · rename_i small
          cases given
          exact if_pos small
        · cases given
      | _ => cases given
    | _ => cases given

theorem Reading.bare?_parameter (keeps : reading.Keeps scope key.arguments) {spelling : Spelling}
    {index : Nat} {given : TemplateArgument} (own : scope.bareParameter? spelling = some index)
    (stored : key.arguments[index]? = some given) : reading.bare? spelling = some given := by
  cases spelling with
  | named name =>
    have named : scope.parameter? name = some index := own
    simp [Reading.bare?, keeps.argument, named, stored]
  | _ => cases own

theorem Reading.bare?_template (keeps : reading.Keeps scope key.arguments) {spelling : Spelling}
    {id : TemplateId} (own : scope.bareParameter? spelling = none)
    (template : scope.outer.bareTemplate? spelling = some id) :
    reading.bare? spelling = some (.template id) := by
  cases spelling with
  | named name =>
    have unnamed : scope.parameter? name = none := own
    have named : scope.outer.template? name = some id := template
    have meant : (scope.lookup? name).isSome := by
      unfold TemplateScope.lookup?
      split
      · rfl
      · unfold Scope.template? at named
        split at named
        · rename_i found
          rw [found]
          rfl
        · cases named
    simp [Reading.bare?, keeps.argument, unnamed, keeps.template name (.inl meant), named]
  | _ => cases template

theorem Reading.bare?_none (keeps : reading.Keeps scope key.arguments) {spelling : Spelling}
    {expr : TypeExpr} (own : scope.bareParameter? spelling = none)
    (template : scope.outer.bareTemplate? spelling = none)
    (translated : scope.expr spelling = .ok expr) : reading.bare? spelling = none := by
  cases spelling with
  | named name =>
    have unnamed : scope.parameter? name = none := own
    have untitled : scope.outer.template? name = none := template
    have meant : (scope.lookup? name).isSome ∨ (TypeId.ofPrimitiveName? name).isSome := by
      rw [TemplateScope.expr, unnamed] at translated
      dsimp only at translated
      split at translated
      · rename_i primitive named
        exact .inr (by rw [named]; rfl)
      · left
        unfold TemplateScope.exprOfName at translated
        cases found : scope.lookup? name with
        | some entry => rfl
        | none =>
          rw [found] at translated
          cases translated
    simp [Reading.bare?, keeps.argument, unnamed, keeps.template name meant, untitled]
  | _ => rfl

/-- Reading a name gives the type that its expression denotes, if reading its arguments gives those
that their expressions denote. -/
theorem exprOfName_denotes (keeps : reading.Keeps scope key.arguments) {name : String}
    {isBare : Bool} {expr : TypeExpr} {translated : Except DeclareError (List ArgExpr)}
    {direct : ResolveM (List TemplateArgument)}
    (parts : ∀ {exprs given}, translated = .ok exprs →
      DenotesArguments { context := ctx } key exprs given → outcome direct ctx = (.ok given, ctx))
    (read : scope.exprOfName name isBare translated = .ok expr)
    (denotes : Denotes { context := ctx } key expr ty) :
    outcome (reading.resolveName name isBare direct) ctx = (.ok ty, ctx) := by
  unfold TemplateScope.exprOfName at read
  unfold Reading.resolveName
  split at read
  · rename_i own found
    split at read
    · rename_i bare
      cases read
      cases denotes
      rw [keeps.lookup name _ found]
      dsimp only
      rw [if_pos bare]
      rfl
    · cases read
  · rename_i id found
    cases arguments : translated with
    | error err =>
      rw [arguments] at read
      cases read
    | ok exprs =>
      rw [arguments] at read
      cases read
      obtain ⟨given, denotes, gives⟩ := denotes
      rw [keeps.lookup name _ found]
      exact (outcome_bind_ok (parts arguments denotes)).trans (outcome_specialize_known gives)
  · cases read

mutual

/-- Reading a spelling gives the type that its expression denotes. -/
theorem resolve_denotes (orderly : ctx.Orderly) (keeps : reading.Keeps scope key.arguments) :
    (spelling : Spelling) → ∀ {expr : TypeExpr} {ty : TypeId}, scope.expr spelling = .ok expr →
    Denotes { context := ctx } key expr ty →
    outcome (reading.resolve spelling) ctx = (.ok ty, ctx)
  | .pointer target, expr, ty, translated, denotes => by
    rw [TemplateScope.expr] at translated
    obtain ⟨inner, part, same⟩ := bind_eq_ok translated
    cases same
    obtain ⟨own, denotes, form⟩ := denotes
    rw [Reading.resolve, outcome_bind_ok (resolve_denotes orderly keeps target part denotes)]
    exact outcome_intern_known orderly form
  | .slice element, expr, ty, translated, denotes => by
    rw [TemplateScope.expr] at translated
    obtain ⟨inner, part, same⟩ := bind_eq_ok translated
    cases same
    obtain ⟨own, denotes, form⟩ := denotes
    rw [Reading.resolve, outcome_bind_ok (resolve_denotes orderly keeps element part denotes)]
    exact outcome_intern_known orderly form
  | .array element (.literal length), expr, ty, translated, denotes => by
    rw [TemplateScope.expr] at translated
    obtain ⟨inner, part, same⟩ := bind_eq_ok translated
    cases same
    obtain ⟨own, denotes, form⟩ := denotes
    rw [Reading.resolve, outcome_bind_ok (resolve_denotes orderly keeps element part denotes)]
    exact outcome_intern_known orderly form
  | .array element (.parameter name), expr, ty, translated, denotes => by
    rw [TemplateScope.expr] at translated
    obtain ⟨inner, part, same⟩ := bind_eq_ok translated
    split at same
    · rename_i index own
      cases same
      obtain ⟨base, length, given, denotes, form⟩ := denotes
      rw [Reading.resolve, Reading.length?_keeps keeps own given]
      dsimp only
      rw [outcome_bind_ok (resolve_denotes orderly keeps element part denotes)]
      exact outcome_intern_known orderly form
    · cases same
  | .qualified base quals, expr, ty, translated, denotes => by
    rw [TemplateScope.expr] at translated
    obtain ⟨inner, part, same⟩ := bind_eq_ok translated
    cases same
    obtain ⟨own, denotes, qualifies⟩ := denotes
    rw [Reading.resolve, outcome_bind_ok (resolve_denotes orderly keeps base part denotes)]
    exact outcome_qualified_known qualifies
  | .named name, expr, ty, translated, denotes => by
    rw [TemplateScope.expr] at translated
    rw [Reading.resolve, keeps.argument]
    split at translated
    · rename_i index own
      cases translated
      have stored : key.arguments[index]? = some (.type ty) :=
        Specializer.typeArgument_eq denotes
      rw [own, Option.bind_some, stored]
      rfl
    · rename_i own
      rw [own, Option.bind_none]
      dsimp only
      cases named : TypeId.ofPrimitiveName? name with
      | some primitive =>
        rw [named] at translated
        cases translated
        cases denotes
        rfl
      | none =>
        rw [named] at translated
        refine exprOfName_denotes keeps (fun {exprs given} same denotes => ?_) translated denotes
        cases same
        cases given with
        | nil => exact outcome_pure _ _
        | cons argument rest => cases denotes
  | .applied name arguments, expr, ty, translated, denotes => by
    rw [TemplateScope.expr] at translated
    rw [Reading.resolve, keeps.argument]
    split at translated
    · rename_i index own
      obtain ⟨inner, part, same⟩ := bind_eq_ok translated
      cases same
      obtain ⟨id, given, template, denotes, gives⟩ := denotes
      have stored : key.arguments[index]? = some (.template id) :=
        Specializer.templateArgument_eq template
      rw [own, Option.bind_some, stored]
      dsimp only
      rw [outcome_bind_ok (resolveArguments_denotes orderly keeps arguments part denotes)]
      exact outcome_specialize_known gives
    · rename_i own
      rw [own, Option.bind_none]
      dsimp only
      exact exprOfName_denotes keeps
        (fun part denotes => resolveArguments_denotes orderly keeps arguments part denotes)
        translated denotes

/-- Reading an argument gives the argument that its expression denotes. -/
theorem resolveArgument_denotes (orderly : ctx.Orderly)
    (keeps : reading.Keeps scope key.arguments) : (argument : SpelledArgument) →
    ∀ {expr : ArgExpr} {given : TemplateArgument}, scope.argumentExpr argument = .ok expr →
    DenotesArgument { context := ctx } key expr given →
    outcome (reading.resolveArgument argument) ctx = (.ok given, ctx)
  | .int value, expr, given, translated, denotes => by
    rw [TemplateScope.argumentExpr] at translated
    cases translated
    cases denotes
    rw [Reading.resolveArgument]
    rfl
  | .bool value, expr, given, translated, denotes => by
    rw [TemplateScope.argumentExpr] at translated
    cases translated
    cases denotes
    rw [Reading.resolveArgument]
    rfl
  | .type spelling, expr, given, translated, denotes => by
    rw [TemplateScope.argumentExpr] at translated
    rw [Reading.resolveArgument]
    split at translated
    · rename_i index own
      cases translated
      have stored : key.arguments[index]? = some given :=
        Specializer.anyArgument_eq denotes
      rw [Reading.bare?_parameter keeps own stored]
      rfl
    · rename_i own
      split at translated
      · rename_i id template
        cases translated
        cases denotes
        rw [Reading.bare?_template keeps own template]
        rfl
      · rename_i template
        obtain ⟨inner, part, same⟩ := bind_eq_ok translated
        cases same
        obtain ⟨ty, rfl, denotes⟩ := denotes
        rw [Reading.bare?_none keeps own template part]
        exact outcome_bind_ok (resolve_denotes orderly keeps spelling part denotes)

theorem resolveArguments_denotes (orderly : ctx.Orderly)
    (keeps : reading.Keeps scope key.arguments) : (arguments : List SpelledArgument) →
    ∀ {exprs : List ArgExpr} {given : List TemplateArgument},
    scope.argumentExprs arguments = .ok exprs →
    DenotesArguments { context := ctx } key exprs given →
    outcome (reading.resolveArguments arguments) ctx = (.ok given, ctx)
  | [], exprs, given, translated, denotes => by
    rw [TemplateScope.argumentExprs] at translated
    cases translated
    cases given with
    | nil =>
      rw [Reading.resolveArguments]
      rfl
    | cons first others => cases denotes
  | argument :: rest, exprs, given, translated, denotes => by
    rw [TemplateScope.argumentExprs] at translated
    obtain ⟨expr, translated₁, translated⟩ := bind_eq_ok translated
    obtain ⟨others, translated₂, same⟩ := bind_eq_ok translated
    cases same
    cases given with
    | nil => cases denotes
    | cons first others =>
      rw [Reading.resolveArguments,
        outcome_bind_ok (resolveArgument_denotes orderly keeps argument translated₁ denotes.1)]
      exact outcome_bind_ok (resolveArguments_denotes orderly keeps rest translated₂ denotes.2)

end

end Spellings

end FrontEnd
