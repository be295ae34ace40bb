import FrontEnd.Proofs.Declaration.Reading
import FrontEnd.Proofs.Declaration.Roundtrip
import Mathlib

/-!
Names of primitive types. They come before all that modules declare, but for one position: where a
name stands without angle brackets for an argument, templates are looked for first, whatever the name
is. So a template with the name of a primitive type shadows the type there, and nowhere else.
-/

namespace FrontEnd

namespace Spelling

/-- The name that the spelling is, if it is a name without angle brackets. -/
def bareName? : Spelling → Option String
  | .named name => some name
  | _ => none

mutual

/-- None of the names in `bad` stands without angle brackets for an argument. -/
def Spares (bad : String → Prop) : Spelling → Prop
  | .pointer target => Spares bad target
  | .slice element => Spares bad element
  | .array element _ => Spares bad element
  | .qualified base _ => Spares bad base
  | .named _ => True
  | .applied _ arguments => SparesAll bad arguments

def SparesArgument (bad : String → Prop) : SpelledArgument → Prop
  | .int _ | .bool _ => True
  | .type spelling => (∀ name, spelling.bareName? = some name → ¬ bad name) ∧ Spares bad spelling

def SparesAll (bad : String → Prop) : List SpelledArgument → Prop
  | [] => True
  | argument :: rest => SparesArgument bad argument ∧ SparesAll bad rest

end

end Spelling

open Spelling (Spares SparesArgument SparesAll)

/-! ### Readings in which primitive types come first -/

namespace Scope

variable (scope : Scope)

/-- A visible template has the name of a primitive type. -/
def Shadows (name : String) : Prop :=
  (TypeId.ofPrimitiveName? name).isSome ∧ (scope.template? name).isSome

/-- The template that a name means when it is an argument itself, if primitive types come first. -/
def laterTemplate? (name : String) : Option TemplateId :=
  if (TypeId.ofPrimitiveName? name).isSome then none else scope.template? name

/-- What names mean outside of templates if primitive types come first in every position. -/
def primitivesFirst : Reading := { Reading.ofScope scope with template? := scope.laterTemplate? }

theorem laterTemplate?_eq {name : String} (spared : ¬ scope.Shadows name) :
    scope.laterTemplate? name = scope.template? name := by
  unfold laterTemplate?
  split
  · rename_i primitive
    exact (Option.not_isSome_iff_eq_none.1 fun taken => spared ⟨primitive, taken⟩).symm
  · rfl

theorem bareTemplate?_eq (spelling : Spelling) :
    scope.bareTemplate? spelling = spelling.bareName?.bind scope.template? := by
  cases spelling <;> rfl

end Scope

namespace TemplateScope

variable (scope : TemplateScope) (template? : String → Option TemplateId)

mutual

/-- The expression for a spelling, where `template?` tells which template a name means when it is an
argument itself. -/
def exprWith : Spelling → Except DeclareError TypeExpr
  | .pointer target => do return .pointer (← exprWith target)
  | .slice element => do return .slice (← exprWith element)
  | .array element (.literal length) => do return .array (← exprWith element) length
  | .array element (.parameter name) => do
    let element ← exprWith element
    match scope.parameter? name with
    | some index => return .arrayOfParam element index
    | none => throw (.unknownType name)
  | .qualified base quals => do return .qualified (← exprWith base) quals
  | .named name => match scope.parameter? name with
    | some index => .ok (.param index)
    | none => match TypeId.ofPrimitiveName? name with
      | some ty => .ok (.concrete ty)
      | none => scope.exprOfName name true (.ok [])
  | .applied name arguments => match scope.parameter? name with
    | some index => do return .applyParam index (← argumentExprsWith arguments)
    | none => scope.exprOfName name false (argumentExprsWith arguments)

/-- The expression for an argument. -/
def argumentExprWith : SpelledArgument → Except DeclareError ArgExpr
  | .int value => .ok (.value (.int value))
  | .bool value => .ok (.value (.bool value))
  | .type spelling => match spelling.bareName?.bind scope.parameter? with
    | some index => .ok (.param index)
    | none => match spelling.bareName?.bind template? with
      | some id => .ok (.template id)
      | none => do return .type (← exprWith spelling)

def argumentExprsWith : List SpelledArgument → Except DeclareError (List ArgExpr)
  | [] => .ok []
  | argument :: rest => do
    let argument ← argumentExprWith argument
    return argument :: (← argumentExprsWith rest)

end

/-- The expression for a spelling if primitive types come right behind parameters in every
position. -/
def exprFirst (scope : TemplateScope) : Spelling → Except DeclareError TypeExpr :=
  scope.exprWith scope.outer.laterTemplate?

/-- A visible template has the name of a primitive type, which is none of a parameter. -/
def Shadows (name : String) : Prop := scope.parameter? name = none ∧ scope.outer.Shadows name

theorem bareParameter?_eq (spelling : Spelling) :
    scope.bareParameter? spelling = spelling.bareName?.bind scope.parameter? := by
  cases spelling <;> rfl

mutual

/-- With the templates of the scope, this is the expression. -/
theorem exprWith_template : (spelling : Spelling) →
    scope.exprWith scope.outer.template? spelling = scope.expr spelling
  | .pointer target => by rw [exprWith, expr, exprWith_template target]
  | .slice element => by rw [exprWith, expr, exprWith_template element]
  | .array element (.literal length) => by rw [exprWith, expr, exprWith_template element]
  | .array element (.parameter name) => by
    rw [exprWith, exprWith_template element]
    exact (expr.eq_def scope (.array element (.parameter name))).symm
  | .qualified base quals => by rw [exprWith, expr, exprWith_template base]
  | .named name => by
    rw [exprWith]
    exact (expr.eq_def scope (.named name)).symm
  | .applied name arguments => by
    rw [exprWith, argumentExprsWith_template arguments]
    exact (expr.eq_def scope (.applied name arguments)).symm

theorem argumentExprWith_template : (argument : SpelledArgument) →
    scope.argumentExprWith scope.outer.template? argument = scope.argumentExpr argument
  | .int value => by rw [argumentExprWith, argumentExpr]
  | .bool value => by rw [argumentExprWith, argumentExpr]
  | .type spelling => by
    rw [argumentExprWith, exprWith_template spelling, ← bareParameter?_eq, ← Scope.bareTemplate?_eq]
    exact (argumentExpr.eq_def scope (.type spelling)).symm

theorem argumentExprsWith_template : (arguments : List SpelledArgument) →
    scope.argumentExprsWith scope.outer.template? arguments = scope.argumentExprs arguments
  | [] => by rw [argumentExprsWith, argumentExprs]
  | argument :: rest => by
    rw [argumentExprsWith, argumentExprs, argumentExprWith_template argument,
      argumentExprsWith_template rest]

end

end TemplateScope

/-! ### Only bare arguments tell the readings apart -/

section Spared

variable {bad : String → Prop}

namespace Reading

variable {reading : Reading} {template? : String → Option TemplateId}

theorem bare?_spared (same : ∀ name, ¬ bad name → template? name = reading.template? name)
    {spelling : Spelling} (spared : ∀ name, spelling.bareName? = some name → ¬ bad name) :
    { reading with template? }.bare? spelling = reading.bare? spelling := by
  cases spelling with
  | named name =>
    show (reading.argument? name).or ((template? name).map .template) = _
    rw [same name (spared name rfl)]
    rfl
  | _ => rfl

mutual

/-- What a spelling means depends on the templates only for the bare names of arguments. -/
theorem resolve_spared (same : ∀ name, ¬ bad name → template? name = reading.template? name) :
    (spelling : Spelling) → spelling.Spares bad →
      { reading with template? }.resolve spelling = reading.resolve spelling
  | .pointer target, spared => by
    rw [Spares] at spared
    rw [resolve, resolve, resolve_spared same target spared]
  | .slice element, spared => by
    rw [Spares] at spared
    rw [resolve, resolve, resolve_spared same element spared]
  | .array element (.literal length), spared => by
    rw [Spares] at spared
    rw [resolve, resolve, resolve_spared same element spared]
  | .array element (.parameter name), spared => by
    rw [Spares] at spared
    rw [resolve, resolve, resolve_spared same element spared]
    rfl
  | .qualified base quals, spared => by
    rw [Spares] at spared
    rw [resolve, resolve, resolve_spared same base spared]
  | .named name, _ => by
    rw [resolve, resolve]
    rfl
  | .applied name arguments, spared => by
    rw [Spares] at spared
    rw [resolve, resolve, resolveArguments_spared same arguments spared]
    rfl

theorem resolveArgument_spared
    (same : ∀ name, ¬ bad name → template? name = reading.template? name) :
    (argument : SpelledArgument) → SparesArgument bad argument →
      { reading with template? }.resolveArgument argument = reading.resolveArgument argument
  | .int value, _ => by rw [resolveArgument, resolveArgument]
  | .bool value, _ => by rw [resolveArgument, resolveArgument]
  | .type spelling, spared => by
    rw [SparesArgument] at spared
    rw [resolveArgument, resolveArgument, bare?_spared same spared.1,
      resolve_spared same spelling spared.2]

theorem resolveArguments_spared
    (same : ∀ name, ¬ bad name → template? name = reading.template? name) :
    (arguments : List SpelledArgument) → SparesAll bad arguments →
      { reading with template? }.resolveArguments arguments = reading.resolveArguments arguments
  | [], _ => by rw [resolveArguments, resolveArguments]
  | argument :: rest, spared => by
    rw [SparesAll] at spared
    rw [resolveArguments, resolveArguments, resolveArgument_spared same argument spared.1,
      resolveArguments_spared same rest spared.2]

end

end Reading

namespace TemplateScope

variable {scope : TemplateScope} {first second : String → Option TemplateId}

mutual

/-- The expression depends on the templates only for the bare names of arguments that are none of
parameters. -/
theorem exprWith_spared
    (same : ∀ name, ¬ bad name → scope.parameter? name = none → first name = second name) :
    (spelling : Spelling) → spelling.Spares bad →
      scope.exprWith first spelling = scope.exprWith second spelling
  | .pointer target, spared => by
    rw [Spares] at spared
    rw [exprWith, exprWith, exprWith_spared same target spared]
  | .slice element, spared => by
    rw [Spares] at spared
    rw [exprWith, exprWith, exprWith_spared same element spared]
  | .array element (.literal length), spared => by
    rw [Spares] at spared
    rw [exprWith, exprWith, exprWith_spared same element spared]
  | .array element (.parameter name), spared => by
    rw [Spares] at spared
    rw [exprWith, exprWith, exprWith_spared same element spared]
  | .qualified base quals, spared => by
    rw [Spares] at spared
    rw [exprWith, exprWith, exprWith_spared same base spared]
  | .named name, _ => by rw [exprWith, exprWith]
  | .applied name arguments, spared => by
    rw [Spares] at spared
    rw [exprWith, exprWith, argumentExprsWith_spared same arguments spared]

theorem argumentExprWith_spared
    (same : ∀ name, ¬ bad name → scope.parameter? name = none → first name = second name) :
    (argument : SpelledArgument) → SparesArgument bad argument →
      scope.argumentExprWith first argument = scope.argumentExprWith second argument
  | .int value, _ => by rw [argumentExprWith, argumentExprWith]
  | .bool value, _ => by rw [argumentExprWith, argumentExprWith]
  | .type spelling, spared => by
    rw [SparesArgument] at spared
    rw [argumentExprWith, argumentExprWith, exprWith_spared same spelling spared.2]
    cases bare : spelling.bareName? with
    | none => rfl
    | some name =>
      cases own : scope.parameter? name with
      | some index => simp only [Option.bind_some, own]
      | none => simp only [Option.bind_some, own, same name (spared.1 name bare) own]

theorem argumentExprsWith_spared
    (same : ∀ name, ¬ bad name → scope.parameter? name = none → first name = second name) :
    (arguments : List SpelledArgument) → SparesAll bad arguments →
      scope.argumentExprsWith first arguments = scope.argumentExprsWith second arguments
  | [], _ => by rw [argumentExprsWith, argumentExprsWith]
  | argument :: rest, spared => by
    rw [SparesAll] at spared
    rw [argumentExprsWith, argumentExprsWith, argumentExprWith_spared same argument spared.1,
      argumentExprsWith_spared same rest spared.2]

end

/-- What both results are made from in the same way is the same. -/
private theorem both_ok {α β ε : Type} {whole : β} {one other : Except ε α} {wrap : α → β}
    (injective : Function.Injective wrap) (made : (one >>= fun part => pure (wrap part)) = .ok whole)
    (made' : (other >>= fun part => pure (wrap part)) = .ok whole) :
    ∃ part, one = .ok part ∧ other = .ok part := by
  obtain ⟨part, ran, built⟩ := bind_eq_ok made
  obtain ⟨part', ran', built'⟩ := bind_eq_ok made'
  cases built
  cases injective (Except.ok.inj built')
  exact ⟨_, ran, ran'⟩

mutual

/-- Where an argument is a name that means a template for the one and none for the other, the
expressions are not the same. -/
theorem spares_of_exprWith (differ : ∀ name, bad name →
      scope.parameter? name = none ∧ (first name).isSome ∧ second name = none) :
    (spelling : Spelling) → (expr : TypeExpr) → scope.exprWith first spelling = .ok expr →
      scope.exprWith second spelling = .ok expr → spelling.Spares bad
  | .pointer target, expr, made, made' => by
    rw [exprWith] at made made'
    obtain ⟨part, ran, ran'⟩ := both_ok (fun _ _ => TypeExpr.pointer.inj) made made'
    rw [Spares]
    exact spares_of_exprWith differ target part ran ran'
  | .slice element, expr, made, made' => by
    rw [exprWith] at made made'
    obtain ⟨part, ran, ran'⟩ := both_ok (fun _ _ => TypeExpr.slice.inj) made made'
    rw [Spares]
    exact spares_of_exprWith differ element part ran ran'
  | .array element (.literal length), expr, made, made' => by
    rw [exprWith] at made made'
    obtain ⟨part, ran, ran'⟩ := both_ok (fun _ _ same => (TypeExpr.array.inj same).1) made made'
    rw [Spares]
    exact spares_of_exprWith differ element part ran ran'
  | .array element (.parameter name), expr, made, made' => by
    rw [exprWith] at made made'
    rw [Spares]
    cases own : scope.parameter? name with
    | none =>
      obtain ⟨part, -, built⟩ := bind_eq_ok made
      rw [own] at built
      cases built
    | some index =>
      rw [own] at made made'
      obtain ⟨part, ran, ran'⟩ :=
        both_ok (fun _ _ same => (TypeExpr.arrayOfParam.inj same).1) made made'
      exact spares_of_exprWith differ element part ran ran'
  | .qualified base quals, expr, made, made' => by
    rw [exprWith] at made made'
    obtain ⟨part, ran, ran'⟩ := both_ok (fun _ _ same => (TypeExpr.qualified.inj same).1) made made'
    rw [Spares]
    exact spares_of_exprWith differ base part ran ran'
  | .named name, _, _, _ => by
    rw [Spares]
    trivial
  | .applied name arguments, expr, made, made' => by
    rw [exprWith] at made made'
    rw [Spares]
    cases own : scope.parameter? name with
    | some index =>
      rw [own] at made made'
      obtain ⟨parts, ran, ran'⟩ :=
        both_ok (fun _ _ same => (TypeExpr.applyParam.inj same).2) made made'
      exact spares_of_argumentExprsWith differ arguments parts ran ran'
    | none =>
      rw [own] at made made'
      dsimp only [exprOfName] at made made'
      split at made
      · cases made
      · rename_i id found
        rw [found] at made'
        change TypeExpr.apply id <$> scope.argumentExprsWith first arguments = _ at made
        change TypeExpr.apply id <$> scope.argumentExprsWith second arguments = _ at made'
        rw [map_eq_pure_bind] at made made'
        obtain ⟨parts, ran, ran'⟩ := both_ok (fun _ _ same => (TypeExpr.apply.inj same).2) made made'
        exact spares_of_argumentExprsWith differ arguments parts ran ran'
      · cases made

theorem spares_of_argumentExprWith (differ : ∀ name, bad name →
      scope.parameter? name = none ∧ (first name).isSome ∧ second name = none) :
    (argument : SpelledArgument) → (expr : ArgExpr) →
      scope.argumentExprWith first argument = .ok expr →
      scope.argumentExprWith second argument = .ok expr → SparesArgument bad argument
  | .int value, _, _, _ => by
    rw [SparesArgument]
    trivial
  | .bool value, _, _, _ => by
    rw [SparesArgument]
    trivial
  | .type spelling, expr, made, made' => by
    rw [argumentExprWith] at made made'
    rw [SparesArgument]
    cases bare : spelling.bareName? with
    | none =>
      rw [bare] at made made'
      obtain ⟨part, ran, ran'⟩ := both_ok (fun _ _ => ArgExpr.type.inj) made made'
      exact ⟨nofun, spares_of_exprWith differ spelling part ran ran'⟩
    | some name =>
      have plain : spelling.Spares bad := by
        cases spelling <;> cases bare
        rw [Spares]
        trivial
      refine ⟨fun name' same hidden => ?_, plain⟩
      cases same
      obtain ⟨own, taken, free⟩ := differ name hidden
      obtain ⟨id, found⟩ := Option.isSome_iff_exists.1 taken
      simp only [bare, Option.bind_some, own, found, free] at made made'
      cases made
      obtain ⟨part, -, built⟩ := bind_eq_ok made'
      cases built

theorem spares_of_argumentExprsWith (differ : ∀ name, bad name →
      scope.parameter? name = none ∧ (first name).isSome ∧ second name = none) :
    (arguments : List SpelledArgument) → (exprs : List ArgExpr) →
      scope.argumentExprsWith first arguments = .ok exprs →
      scope.argumentExprsWith second arguments = .ok exprs → SparesAll bad arguments
  | [], _, _, _ => by
    rw [SparesAll]
    trivial
  | argument :: rest, exprs, made, made' => by
    rw [argumentExprsWith] at made made'
    obtain ⟨part, ran, others⟩ := bind_eq_ok made
    obtain ⟨part', ran', others'⟩ := bind_eq_ok made'
    obtain ⟨parts, rans, built⟩ := bind_eq_ok others
    obtain ⟨parts', rans', built'⟩ := bind_eq_ok others'
    cases built
    cases built'
    rw [SparesAll]
    exact ⟨spares_of_argumentExprWith differ argument _ ran ran',
      spares_of_argumentExprsWith differ rest _ rans rans'⟩

end

end TemplateScope

end Spared

/-! ### Names of primitive types -/

section Primitive

variable {name : String} {ty : TypeId} (primitive : TypeId.ofPrimitiveName? name = some ty)

include primitive

theorem Spelling.isPlain_of_primitive : Spelling.IsPlain name.toList := by
  have each : ∀ name ∈ TypeId.primitiveNames.dropLast, Spelling.IsWord name.toList = true ∧
      Spelling.qualifier? (String.ofList name.toList) = none ∧
      Spelling.truth? (String.ofList name.toList) = none := by decide
  obtain ⟨index, found, -⟩ := Option.map_eq_some_iff.1 primitive
  obtain ⟨below, same, -⟩ := List.findIdx?_eq_some_iff_getElem.1 found
  obtain ⟨word, qualifier, truth⟩ := each name (beq_iff_eq.1 same ▸ List.getElem_mem below)
  exact ⟨word, qualifier, truth⟩

theorem Scope.resolve_primitive (scope : Scope) : scope.resolve (.named name) = return ty := by
  rw [resolve, primitive]

/-- As an argument, the name means the template that shadows it, if any. -/
theorem Scope.resolveArgument_primitive (scope : Scope) : scope.resolveArgument (.type (.named name)) =
    return (scope.template? name).elim (.type ty) .template := by
  rw [resolveArgument, bareTemplate?_eq, resolve_primitive primitive]
  show (match scope.template? name with | some id => _ | none => _) = _
  cases scope.template? name <;> rfl

theorem Scope.resolveText_primitive (scope : Scope) : scope.resolveText name = return ty := by
  rw [resolveText, (Spelling.isPlain_of_primitive primitive).reads_text.ofText]
  exact scope.resolve_primitive primitive

/-- If primitive types come first, the name means the type as an argument, too. -/
theorem Scope.primitivesFirst_argument (scope : Scope) :
    scope.primitivesFirst.resolveArgument (.type (.named name)) = return .type ty := by
  have unhidden : scope.primitivesFirst.bare? (.named name) = none := by
    show (none : Option TemplateArgument).or ((scope.laterTemplate? name).map .template) = none
    rw [laterTemplate?, primitive]
    rfl
  have means : scope.primitivesFirst.resolve (.named name) = return ty := by
    rw [Reading.resolve]
    show (match TypeId.ofPrimitiveName? name with | some ty => _ | none => _) = _
    rw [primitive]
  rw [Reading.resolveArgument, unhidden, means]
  rfl

variable {scope : TemplateScope} (other : scope.parameter? name = none)

include other

theorem TemplateScope.exprWith_primitive (template? : String → Option TemplateId) :
    scope.exprWith template? (.named name) = .ok (.concrete ty) := by
  rw [exprWith, other, primitive]

theorem TemplateScope.argumentExprWith_primitive (template? : String → Option TemplateId) :
    scope.argumentExprWith template? (.type (.named name)) =
      .ok ((template? name).elim (.type (.concrete ty)) .template) := by
  rw [argumentExprWith, exprWith_primitive primitive other]
  simp only [Spelling.bareName?, Option.bind_some, other]
  cases template? name <;> rfl

/-- If primitive types come first, the name means the type as an argument, too. -/
theorem TemplateScope.argumentFirst_primitive :
    scope.argumentExprWith scope.outer.laterTemplate? (.type (.named name)) =
      .ok (.type (.concrete ty)) := by
  rw [argumentExprWith_primitive primitive other, Scope.laterTemplate?, primitive]
  rfl

end Primitive

/-- As a default of a template parameter, the name of a primitive type means the template that shadows
it, if any. -/
theorem ModuleSource.defaultArgument_primitive {source : ModuleSource} {ty : TypeId} {value : ItemId}
    {node : ItemNode} {spelled : Name} (reference : source.tree.rolesOf value node = .reference spelled)
    (primitive : TypeId.ofPrimitiveName? (source.textOf spelled) = some ty) (state : Declaring) :
    (source.defaultArgument value node).run state =
      (some ((Scope.template? ⟨source.names, state.exports, source.imports⟩
        (source.textOf spelled)).elim (.type ty) .template), state) := by
  let scope : Scope := ⟨source.names, state.exports, source.imports⟩
  have typed : (source.typeOfText (source.textOf spelled) node.span).run state = (ty, state) := by
    show (source.orError node.span (outcome (scope.resolveText _) state.types).1).run
      { state with types := (outcome (scope.resolveText _) state.types).2 } = _
    rw [scope.resolveText_primitive primitive]
    rfl
  have plain : (do return some (.type (← source.typeOfText (source.textOf spelled) node.span)) :
      DeclareM (Option TemplateArgument)).run state = (some (.type ty), state) := by
    rw [StateT.run_bind, typed]
    rfl
  rw [defaultArgument, reference]
  dsimp only
  rw [StateT.run_bind, StateT.run_get]
  show StateT.run _ state = _
  rw [Scope.template?]
  rcases scope.lookup? (source.textOf spelled) with _ | (_ | _)
  · exact plain
  · exact plain
  · rfl

/-- The name of a primitive type that is none of a parameter means the type in every position, outside
of templates and in their bodies, unless it stands without angle brackets for an argument while a
template of that name is visible. There it means the template, and this is the only difference from a
reading in which primitive types come first everywhere: spellings without such arguments are read in
the same way, with the same types and errors, and in a body no other spelling gives one expression in
both ways. -/
theorem primitive_unless_shadowed (scope : TemplateScope) :
    (∀ spelling, spelling.Spares scope.outer.Shadows →
      scope.outer.resolve spelling = scope.outer.primitivesFirst.resolve spelling) ∧
    (∀ spelling, (spelling.Spares scope.Shadows → scope.expr spelling = scope.exprFirst spelling) ∧
      ∀ expr, scope.expr spelling = .ok expr → scope.exprFirst spelling = .ok expr →
        spelling.Spares scope.Shadows) ∧
    ∀ name ty, TypeId.ofPrimitiveName? name = some ty →
      scope.outer.primitivesFirst.resolveArgument (.type (.named name)) = pure (.type ty) ∧
      scope.outer.resolve (.named name) = pure ty ∧
      scope.outer.resolveArgument (.type (.named name)) =
        pure ((scope.outer.template? name).elim (.type ty) .template) ∧
      (scope.parameter? name = none →
        scope.argumentExprWith scope.outer.laterTemplate? (.type (.named name)) =
          .ok (.type (.concrete ty)) ∧
        scope.expr (.named name) = .ok (.concrete ty) ∧
        scope.argumentExpr (.type (.named name)) =
          .ok ((scope.outer.template? name).elim (.type (.concrete ty)) .template)) ∧
      ∀ (source : ModuleSource) (state : Declaring) value node spelled,
        source.tree.rolesOf value node = .reference spelled → source.textOf spelled = name →
        (source.defaultArgument value node).run state =
          (some ((Scope.template? ⟨source.names, state.exports, source.imports⟩ name).elim
            (.type ty) .template), state) := by
  refine ⟨fun spelling spared => ?_, fun spelling => ⟨fun spared => ?_, fun expr made made' => ?_⟩,
    fun name ty primitive => ⟨scope.outer.primitivesFirst_argument primitive,
      scope.outer.resolve_primitive primitive, scope.outer.resolveArgument_primitive primitive,
      fun other => ⟨TemplateScope.argumentFirst_primitive primitive other, ?_, ?_⟩,
      fun source state value node spelled reference same => ?_⟩⟩
  · rw [← Reading.resolve_ofScope]
    exact (Reading.resolve_spared (fun name => scope.outer.laterTemplate?_eq) spelling spared).symm
  · rw [← scope.exprWith_template]
    refine TemplateScope.exprWith_spared (fun name spared other => ?_) spelling spared
    exact (scope.outer.laterTemplate?_eq fun shadows => spared ⟨other, shadows⟩).symm
  · rw [← scope.exprWith_template] at made
    refine TemplateScope.spares_of_exprWith (fun name shadows => ?_) spelling expr made made'
    exact ⟨shadows.1, shadows.2.2, if_pos shadows.2.1⟩
  · rw [← scope.exprWith_template]
    exact TemplateScope.exprWith_primitive primitive other _
  · rw [← scope.argumentExprWith_template]
    exact TemplateScope.argumentExprWith_primitive primitive other _
  · subst same
    exact ModuleSource.defaultArgument_primitive reference primitive state

/-- The first name in the shard of the name of the bytes. -/
def byteName : Name := { Name.empty with shard := Interner.shardOf "u8" }

/-- The body of a template in a module with a template that has the name of the bytes. -/
def besideByteTemplate : TemplateScope where
  outer := {
    names := Interner.bare.push "u8" byteName.slot
    own := ({} : Exports).addTemplate byteName ⟨0⟩
    imports := [] }
  id := ⟨1⟩
  name := .empty
  parameters := ["T"]

/-- Where a type is asked for, the name means bytes, but for an argument it means the template. -/
theorem primitive_unless_shadowed_beside :
    besideByteTemplate.expr (.named "u8") = .ok (.concrete ⟨6⟩) ∧
    besideByteTemplate.argumentExpr (.type (.named "u8")) = .ok (.template ⟨0⟩) ∧
    besideByteTemplate.outer.resolveArgument (.type (.named "u8")) = pure (.template ⟨0⟩) := by
  have shadowed : besideByteTemplate.outer.template? "u8" = some ⟨0⟩ := by
    have known : besideByteTemplate.outer.names.get? "u8" = some byteName := by
      simp [besideByteTemplate, byteName, Interner.get?, Interner.push, Shard.get?, Shard.push,
        Interner.bare, Array.getElem_modify]
    rw [Scope.template?, Scope.lookup?, known]
    simp [besideByteTemplate, Exports.lookup?, Exports.addTemplate]
  obtain ⟨-, -, names⟩ := primitive_unless_shadowed besideByteTemplate
  obtain ⟨-, -, outside, inside, -⟩ := names "u8" ⟨6⟩ (by decide)
  obtain ⟨-, plain, argument⟩ := inside (by decide)
  rw [shadowed] at outside argument
  exact ⟨plain, argument, outside⟩

end FrontEnd
