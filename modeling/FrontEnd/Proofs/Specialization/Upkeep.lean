import FrontEnd.Proofs.Specialization.Binding
import FrontEnd.Proofs.Specialization.Steps
import FrontEnd.Proofs.Typing.Living

/-!
What a request keeps up, whatever comes of it. A regime says what holds of all states of a request
and of all types that it comes to. If adding a type keeps it up, and so does making an instance known,
then so do evaluating what a template states and making its instance, and nothing but good types is
ever made of good types.
-/

namespace FrontEnd

/-! ### The types that templates state -/

mutual

/-- The types that an expression states. -/
def TypeExpr.stated : TypeExpr → List TypeId
  | .concrete ty => [ty]
  | .param _ => []
  | .pointer target => target.stated
  | .array element _ => element.stated
  | .arrayOfParam element _ => element.stated
  | .slice element => element.stated
  | .qualified base _ => base.stated
  | .function parameters result _ => TypeExpr.statedAll parameters ++ result.stated
  | .apply _ arguments => ArgExpr.statedAll arguments
  | .applyParam _ arguments => ArgExpr.statedAll arguments

def TypeExpr.statedAll : List TypeExpr → List TypeId
  | [] => []
  | expr :: rest => expr.stated ++ TypeExpr.statedAll rest

/-- The types that an argument in the body of a template states. -/
def ArgExpr.stated : ArgExpr → List TypeId
  | .type expr => expr.stated
  | .value _ | .template _ | .param _ => []

def ArgExpr.statedAll : List ArgExpr → List TypeId
  | [] => []
  | argument :: rest => argument.stated ++ ArgExpr.statedAll rest

end

/-- The type that an argument is, if it is one. -/
def TemplateArgument.stated : TemplateArgument → List TypeId
  | .type ty => [ty]
  | .value _ | .template _ => []

/-- The type that a data member of a template states. -/
def FieldExpr.stated (field : FieldExpr) : List TypeId := field.type.stated

/-- The types that a method of a class template states. -/
def MethodExpr.stated (method : MethodExpr) : List TypeId :=
  TypeExpr.statedAll method.parameters ++ method.result.stated

/-- The types that the body of a template states. -/
def TemplateBody.stated : TemplateBody → List TypeId
  | .struct fields | .union fields => fields.flatMap FieldExpr.stated
  | .classType base fields methods =>
    (base.map TypeExpr.stated).getD [] ++ fields.flatMap FieldExpr.stated ++
      methods.flatMap MethodExpr.stated
  | .synonym target => target.stated
  | .function parameters result _ => TypeExpr.statedAll parameters ++ result.stated

/-- The types that a template states, in its body or as defaults. -/
def TemplateDef.stated (template : TemplateDef) : List TypeId :=
  (template.parameters.filterMap (·.default)).flatMap TemplateArgument.stated ++ template.body.stated

/-- The types that a key states. -/
def SpecializationKey.stated (key : SpecializationKey) : List TypeId :=
  key.arguments.flatMap TemplateArgument.stated

/-- The type that an instance is, or the signature of the function that it is. -/
def Instance.stated : Instance → List TypeId
  | .type ty => [ty]
  | .function made => [made.signature]

/-- The types that the members, the base and the methods of a definition have. -/
def DefBody.stated (body : DefBody) : List TypeId :=
  body.members.map Member.type ++ body.base.toList ++ body.methods.map Method.signature

open TypeContext (Lasts)

namespace Specializer

variable {state : Specializer} {key : SpecializationKey} {template : TemplateDef}
  {apply : TemplateId → List TemplateArgument → SpecializeM TypeId}

/-- What is found once an instance is remembered was found before, or is the instance. -/
theorem found_remembered {made found : Instance} {other : SpecializationKey}
    (given : ({ state with pending := state.pending ++ [(key, made)] } : Specializer).find? other =
      some found) : state.find? other = some found ∨ other = key ∧ found = made := by
  simp only [find?, List.find?_append, List.find?_cons, List.find?_nil] at given ⊢
  cases own : state.pending.find? (·.1 == other) with
  | some entry =>
    rw [own] at given
    exact .inl given
  | none =>
    rw [own, Option.none_or] at given
    by_cases same : key = other
    · simp only [same, BEq.rfl] at given
      exact .inr ⟨same.symm, (Option.some.inj given).symm⟩
    · simp only [beq_false_of_ne same] at given
      exact .inl given

/-- What has to hold of the states of a request, and of the types that it comes to. -/
structure Regime where
  valid : Specializer → Prop
  good : TypeContext → TypeId → Prop

namespace Regime

variable {regime : Regime}

/-- All types of a list are good. -/
def AllGood (regime : Regime) (ctx : TypeContext) (types : List TypeId) : Prop :=
  ∀ ty ∈ types, regime.good ctx ty

/-- Whatever the steps come to, the state stays valid and nothing is lost; and where they succeed,
the result is as it should be. -/
def Keeps (regime : Regime) (state : Specializer) (steps : SpecializeM α)
    (means : TypeContext → α → Prop) : Prop :=
  regime.valid (outcome steps state).2 ∧ Lasts state.context (outcome steps state).2.context ∧
    ∀ value, (outcome steps state).1 = .ok value → means (outcome steps state).2.context value

/-- Types stay good while tables grow, and adding a type that is built from good ones keeps up the
regime, whatever request is in progress. -/
structure Lawful (regime : Regime) : Prop where
  lasts {before after : TypeContext} {ty : TypeId} (lasts : Lasts before after)
    (good : regime.good before ty) : regime.good after ty
  chain {state : Specializer} (chain : List SpecializationKey) (valid : regime.valid state) :
    regime.valid { state with chain }
  intern {state : Specializer} {form : TypeForm} (valid : regime.valid state)
    (built : form.children ≠ []) (parts : regime.AllGood state.context form.children) :
    regime.Keeps state (intern form) regime.good
  qualified {state : Specializer} {ty : TypeId} (valid : regime.valid state)
    (good : regime.good state.context ty) (quals : Qualifiers) :
    regime.Keeps state (qualified ty quals) regime.good

/-- Applying a template to good arguments keeps up the regime and gives a good type. -/
def Upholds (regime : Regime) (apply : TemplateId → List TemplateArgument → SpecializeM TypeId) :
    Prop :=
  ∀ id arguments (state : Specializer), regime.valid state →
    regime.AllGood state.context (arguments.flatMap TemplateArgument.stated) →
    regime.Keeps state (apply id arguments) regime.good

/-- What is done for the instance of a key keeps up the regime: declaring its definition, making the
instance known, and giving the definition its body. -/
structure Settles (regime : Regime) (key : SpecializationKey) : Prop where
  reserve {state : Specializer} (name : Name) (kind : DefKind) (valid : regime.valid state) :
    regime.Keeps state (reserve name kind key) fun ctx entry => regime.good ctx entry.type
  remember {state : Specializer} {made : Instance} (valid : regime.valid state)
    (good : regime.AllGood state.context made.stated) :
    regime.Keeps state (remember key made) fun _ _ => True
  complete {state : Specializer} {body : DefBody} (id : DefId) (valid : regime.valid state)
    (good : regime.AllGood state.context body.stated) :
    regime.Keeps state (complete id body) fun _ _ => True

section Lists

variable {ctx before after : TypeContext} {types others : List TypeId}

theorem allGood_nil : regime.AllGood ctx [] := nofun

@[simp] theorem allGood_append : regime.AllGood ctx (types ++ others) ↔
    regime.AllGood ctx types ∧ regime.AllGood ctx others := List.forall_mem_append

@[simp] theorem allGood_singleton {ty : TypeId} : regime.AllGood ctx [ty] ↔ regime.good ctx ty :=
  List.forall_mem_singleton

@[simp] theorem allGood_cons {ty : TypeId} : regime.AllGood ctx (ty :: types) ↔
    regime.good ctx ty ∧ regime.AllGood ctx types := List.forall_mem_cons

theorem AllGood.lasts (all : regime.AllGood before types) (lawful : regime.Lawful)
    (lasts : Lasts before after) : regime.AllGood after types :=
  fun ty member => lawful.lasts lasts (all ty member)

/-- What arguments are bound to is good, if they and the defaults of the template are. -/
theorem AllGood.bind {id : TemplateId} {arguments full : List TemplateArgument}
    (all : regime.AllGood ctx (arguments.flatMap TemplateArgument.stated))
    (stated : regime.AllGood ctx template.stated)
    (bound : ctx.bind id template arguments = .ok full) :
    regime.AllGood ctx (full.flatMap TemplateArgument.stated) := by
  rw [TypeContext.bind_fill bound, TemplateDef.fill, List.flatMap_append, allGood_append]
  refine ⟨all, fun ty listed => (allGood_append.1 stated).1 ty ?_⟩
  obtain ⟨argument, given, member⟩ := List.mem_flatMap.1 listed
  obtain ⟨param, behind, has⟩ := List.mem_filterMap.1 given
  exact List.mem_flatMap.2
    ⟨argument, List.mem_filterMap.2 ⟨param, List.mem_of_mem_drop behind, has⟩, member⟩

/-- The type argument at a position is good if the key is. -/
theorem AllGood.typeArgument (fed : regime.AllGood ctx key.stated) {index : Nat} {ty : TypeId}
    (given : typeArgument key index = .ok ty) : regime.good ctx ty := by
  unfold Specializer.typeArgument at given
  split at given
  · rename_i own found
    cases given
    exact fed ty (List.mem_flatMap.2 ⟨_, List.mem_of_getElem? found, List.mem_singleton.2 rfl⟩)
  · cases given

/-- So is the argument at a position, of whatever sort. -/
theorem AllGood.anyArgument (fed : regime.AllGood ctx key.stated) {index : Nat}
    {argument : TemplateArgument} (given : anyArgument key index = .ok argument) :
    regime.AllGood ctx argument.stated := by
  unfold Specializer.anyArgument at given
  split at given
  · rename_i own found
    cases given
    exact fun ty member => fed ty (List.mem_flatMap.2 ⟨_, List.mem_of_getElem? found, member⟩)
  · cases given

end Lists

/-! ### Single steps -/

section Steps

variable {means : TypeContext → α → Prop} {means' : TypeContext → β → Prop}
  {steps : SpecializeM α} {rest : α → SpecializeM β}

/-- What it means to keep up a regime, for steps whose outcome is known. -/
theorem keeps_iff {result : Except TypeError α} {after : Specializer}
    (ran : outcome steps state = (result, after)) : regime.Keeps state steps means ↔
      regime.valid after ∧ Lasts state.context after.context ∧
        ∀ value, result = .ok value → means after.context value := by
  rw [Keeps, ran]

theorem keeps_of_error {err : TypeError} (valid : regime.valid state)
    (ran : outcome steps state = (.error err, state)) : regime.Keeps state steps means :=
  (keeps_iff ran).2 ⟨valid, .refl _, fun _ failed => nomatch failed⟩

theorem keeps_of_ok {value : α} (valid : regime.valid state)
    (ran : outcome steps state = (.ok value, state)) (holds : means state.context value) :
    regime.Keeps state steps means :=
  (keeps_iff ran).2 ⟨valid, .refl _, fun _ same => Except.ok.inj same ▸ holds⟩

theorem keeps_pure {value : α} (valid : regime.valid state) (holds : means state.context value) :
    regime.Keeps state (pure value) means :=
  keeps_of_ok valid (outcome_pure value state) holds

theorem keeps_lift {result : Except TypeError α} (valid : regime.valid state)
    (holds : ∀ value, result = .ok value → means state.context value) :
    regime.Keeps state (liftM result) means := by
  rw [Keeps, outcome_lift]
  exact ⟨valid, .refl _, holds⟩

theorem keeps_lift_any (valid : regime.valid state) (result : Except TypeError α) :
    regime.Keeps state (liftM result) fun _ _ => True :=
  keeps_lift valid fun _ _ => trivial

theorem keeps_bind (first : regime.Keeps state steps means)
    (second : ∀ value middle, regime.valid middle → Lasts state.context middle.context →
      means middle.context value → regime.Keeps middle (rest value) means') :
    regime.Keeps state (steps >>= rest) means' := by
  rw [Keeps, outcome_bind]
  obtain ⟨valid, lasts, holds⟩ := first
  rcases ran : outcome steps state with ⟨err | value, middle⟩ <;> rw [ran] at valid lasts holds
  · exact ⟨valid, lasts, nofun⟩
  · obtain ⟨valid', lasts', holds'⟩ := second value middle valid lasts (holds value rfl)
    exact ⟨valid', lasts.trans lasts', holds'⟩

theorem keeps_nested (lawful : regime.Lawful)
    (inside : regime.Keeps { state with chain := state.chain ++ [key] } steps means) :
    regime.Keeps state (nested key steps) means := by
  rw [Keeps, outcome_nested]
  exact ⟨lawful.chain _ inside.1, inside.2⟩

/-- Steps that give a good type, which is then made the part of a form. -/
theorem keeps_form {steps : SpecializeM TypeId} {form : TypeId → TypeForm}
    (lawful : regime.Lawful) (first : regime.Keeps state steps regime.good)
    (parts : ∀ ty, (form ty).children = [ty]) :
    regime.Keeps state (do intern (form (← steps))) regime.good := by
  refine keeps_bind first fun ty middle valid _ good => lawful.intern valid ?_ ?_
  · rw [parts]
    exact List.cons_ne_nil _ _
  · rw [parts]
    exact allGood_singleton.2 good

/-- Giving a definition its body, if the state with the body is valid too. -/
theorem keeps_complete {id : DefId} {body : DefBody} (valid : regime.valid state)
    (completed : ∀ registry, state.context.registry.define id body = .ok registry →
      Lasts state.context { state.context with registry } →
        regime.valid { state with context := { state.context with registry } }) :
    regime.Keeps state (complete id body) fun _ _ => True := by
  cases defined : state.context.registry.define id body with
  | error err => exact keeps_of_error valid ((outcome_complete id body state).trans (by rw [defined]))
  | ok registry =>
    have ran := outcome_complete id body state
    rw [defined] at ran
    have lasts := TypeContext.lasts_registry defined
    exact (keeps_iff ran).2 ⟨completed registry defined lasts, lasts, fun _ _ => trivial⟩

/-- Applying a template keeps up the regime if requesting an instance does, with fewer levels of
nesting, and gives a good type where it gives one. -/
theorem upholds_applyWithin {fewer : Nat} {gives : TypeContext → Instance → Prop}
    (type : ∀ {ctx ty}, gives ctx (.type ty) → regime.good ctx ty)
    (requests : ∀ id arguments (state : Specializer), regime.valid state →
      regime.AllGood state.context (arguments.flatMap TemplateArgument.stated) →
      regime.Keeps state (specializeWithin fewer id arguments) gives) :
    regime.Upholds (applyWithin fewer) := by
  intro id arguments state valid all
  refine keeps_bind (requests id arguments state valid all) fun made _ valid _ given =>
    keeps_lift valid fun ty is => type ?_
  cases made <;> cases is
  exact given

end Steps

/-! ### Evaluation -/

mutual

theorem eval_keeps (lawful : regime.Lawful) (upholds : regime.Upholds apply) : (expr : TypeExpr) →
    ∀ {state : Specializer}, regime.valid state → regime.AllGood state.context key.stated →
    regime.AllGood state.context expr.stated →
    regime.Keeps state (eval key apply expr) regime.good
  | .concrete ty, state, valid, _, stated => by
    rw [eval]
    exact keeps_pure valid (allGood_singleton.1 stated)
  | .param index, state, valid, fed, _ => by
    rw [eval]
    exact keeps_lift valid fun ty given => fed.typeArgument given
  | .pointer target, state, valid, fed, stated => by
    rw [eval]
    exact keeps_form lawful (eval_keeps lawful upholds target valid fed stated) fun _ => rfl
  | .array element length, state, valid, fed, stated => by
    rw [eval]
    exact keeps_form lawful (eval_keeps lawful upholds element valid fed stated) fun _ => rfl
  | .arrayOfParam element index, state, valid, fed, stated => by
    rw [eval]
    refine keeps_bind (keeps_lift_any valid _) fun length middle valid lasts _ => ?_
    exact keeps_form lawful (eval_keeps lawful upholds element valid (fed.lasts lawful lasts)
      (stated.lasts lawful lasts)) fun _ => rfl
  | .slice element, state, valid, fed, stated => by
    rw [eval]
    exact keeps_form lawful (eval_keeps lawful upholds element valid fed stated) fun _ => rfl
  | .qualified base quals, state, valid, fed, stated => by
    rw [eval]
    exact keeps_bind (eval_keeps lawful upholds base valid fed stated) fun ty middle valid _ good =>
      lawful.qualified valid good quals
  | .function parameters result variadic, state, valid, fed, stated => by
    rw [eval]
    obtain ⟨first, last⟩ := allGood_append.1 stated
    refine keeps_bind (evalAll_keeps lawful upholds parameters valid fed first)
      fun types middle valid lasts all => ?_
    refine keeps_bind (eval_keeps lawful upholds result valid (fed.lasts lawful lasts)
      (last.lasts lawful lasts)) fun ty middle valid lasts good => ?_
    exact lawful.intern valid (List.cons_ne_nil _ _)
      (allGood_cons.2 ⟨good, all.lasts lawful lasts⟩)
  | .apply template arguments, state, valid, fed, stated => by
    rw [eval]
    exact keeps_bind (evalArguments_keeps lawful upholds arguments valid fed stated)
      fun given middle valid _ all => upholds template given middle valid all
  | .applyParam index arguments, state, valid, fed, stated => by
    rw [eval]
    refine keeps_bind (keeps_lift_any valid _) fun template middle valid lasts _ => ?_
    exact keeps_bind (evalArguments_keeps lawful upholds arguments valid (fed.lasts lawful lasts)
      (stated.lasts lawful lasts)) fun given middle valid _ all =>
        upholds template given middle valid all

theorem evalAll_keeps (lawful : regime.Lawful) (upholds : regime.Upholds apply) :
    (exprs : List TypeExpr) → ∀ {state : Specializer}, regime.valid state →
    regime.AllGood state.context key.stated →
    regime.AllGood state.context (TypeExpr.statedAll exprs) →
    regime.Keeps state (evalAll key apply exprs) regime.AllGood
  | [], state, valid, _, _ => by
    rw [evalAll]
    exact keeps_pure valid allGood_nil
  | expr :: rest, state, valid, fed, stated => by
    rw [evalAll]
    obtain ⟨first, last⟩ := allGood_append.1 stated
    refine keeps_bind (eval_keeps lawful upholds expr valid fed first)
      fun ty middle valid lasts good => ?_
    refine keeps_bind (evalAll_keeps lawful upholds rest valid (fed.lasts lawful lasts)
      (last.lasts lawful lasts)) fun types after valid lasts all => ?_
    exact keeps_pure valid (allGood_cons.2 ⟨lawful.lasts lasts good, all⟩)

theorem evalArgument_keeps (lawful : regime.Lawful) (upholds : regime.Upholds apply) :
    (argument : ArgExpr) → ∀ {state : Specializer}, regime.valid state →
    regime.AllGood state.context key.stated → regime.AllGood state.context argument.stated →
    regime.Keeps state (evalArgument key apply argument) fun ctx given =>
      regime.AllGood ctx given.stated
  | .type expr, state, valid, fed, stated => by
    rw [evalArgument]
    exact keeps_bind (eval_keeps lawful upholds expr valid fed stated) fun ty middle valid _ good =>
      keeps_pure valid (allGood_singleton.2 good)
  | .value value, state, valid, _, _ => by
    rw [evalArgument]
    exact keeps_pure valid allGood_nil
  | .template id, state, valid, _, _ => by
    rw [evalArgument]
    exact keeps_pure valid allGood_nil
  | .param index, state, valid, fed, _ => by
    rw [evalArgument]
    exact keeps_lift valid fun argument given => fed.anyArgument given

theorem evalArguments_keeps (lawful : regime.Lawful) (upholds : regime.Upholds apply) :
    (arguments : List ArgExpr) → ∀ {state : Specializer}, regime.valid state →
    regime.AllGood state.context key.stated →
    regime.AllGood state.context (ArgExpr.statedAll arguments) →
    regime.Keeps state (evalArguments key apply arguments) fun ctx given =>
      regime.AllGood ctx (given.flatMap TemplateArgument.stated)
  | [], state, valid, _, _ => by
    rw [evalArguments]
    exact keeps_pure valid allGood_nil
  | argument :: rest, state, valid, fed, stated => by
    rw [evalArguments]
    obtain ⟨first, last⟩ := allGood_append.1 stated
    refine keeps_bind (evalArgument_keeps lawful upholds argument valid fed first)
      fun given middle valid lasts good => ?_
    refine keeps_bind (evalArguments_keeps lawful upholds rest valid (fed.lasts lawful lasts)
      (last.lasts lawful lasts)) fun others after valid lasts all => ?_
    refine keeps_pure valid ?_
    rw [List.flatMap_cons]
    exact allGood_append.2 ⟨good.lasts lawful lasts, all⟩

end

section Bodies

variable (lawful : regime.Lawful) (upholds : regime.Upholds apply)

include lawful upholds

theorem evalFields_keeps {fields : List FieldExpr} (valid : regime.valid state)
    (fed : regime.AllGood state.context key.stated)
    (stated : regime.AllGood state.context (fields.flatMap FieldExpr.stated)) :
    regime.Keeps state (evalFields key apply fields) fun ctx members =>
      regime.AllGood ctx (members.map Member.type) := by
  induction fields generalizing state with
  | nil => exact keeps_pure valid allGood_nil
  | cons field rest ih =>
    rw [List.flatMap_cons] at stated
    obtain ⟨first, last⟩ := allGood_append.1 stated
    refine keeps_bind (eval_keeps lawful upholds field.type valid fed first)
      fun ty middle valid lasts good => ?_
    refine keeps_bind (ih valid (fed.lasts lawful lasts) (last.lasts lawful lasts))
      fun members after valid lasts all => ?_
    exact keeps_pure valid (allGood_cons.2 ⟨lawful.lasts lasts good, all⟩)

/-- The signature that parameters and a result are evaluated to. -/
theorem evalSignature_keeps (parameters : List TypeExpr) (result : TypeExpr) (variadic : Bool)
    (valid : regime.valid state) (fed : regime.AllGood state.context key.stated)
    (stated : regime.AllGood state.context (TypeExpr.statedAll parameters ++ result.stated)) :
    regime.Keeps state (do
      let parameters ← evalAll key apply parameters
      let result ← eval key apply result
      intern (.function parameters result variadic)) regime.good := by
  have kept := eval_keeps lawful upholds (.function parameters result variadic) valid fed stated
  rwa [eval] at kept

theorem evalMethods_keeps {methods : List MethodExpr} (valid : regime.valid state)
    (fed : regime.AllGood state.context key.stated)
    (stated : regime.AllGood state.context (methods.flatMap MethodExpr.stated)) :
    regime.Keeps state (evalMethods key apply methods) fun ctx made =>
      regime.AllGood ctx (made.map Method.signature) := by
  induction methods generalizing state with
  | nil => exact keeps_pure valid allGood_nil
  | cons method rest ih =>
    rw [List.flatMap_cons] at stated
    obtain ⟨own, last⟩ := allGood_append.1 stated
    obtain ⟨first, second⟩ := allGood_append.1 own
    refine keeps_bind (evalAll_keeps lawful upholds method.parameters valid fed first)
      fun types after₁ valid₁ lasts₁ all => ?_
    refine keeps_bind (eval_keeps lawful upholds method.result valid₁ (fed.lasts lawful lasts₁)
      (second.lasts lawful lasts₁)) fun ty after₂ valid₂ lasts₂ good => ?_
    refine keeps_bind (lawful.intern valid₂ (List.cons_ne_nil _ _)
      (allGood_cons.2 ⟨good, all.lasts lawful lasts₂⟩)) fun signature after₃ valid₃ lasts₃ good => ?_
    have lasts := (lasts₁.trans lasts₂).trans lasts₃
    refine keeps_bind (ih valid₃ (fed.lasts lawful lasts) (last.lasts lawful lasts))
      fun others _ valid₄ lasts₄ all => ?_
    exact keeps_pure valid₄ (allGood_cons.2 ⟨lawful.lasts lasts₄ good, all⟩)

theorem evalBody_keeps {body : TemplateBody} (valid : regime.valid state)
    (fed : regime.AllGood state.context key.stated)
    (stated : regime.AllGood state.context body.stated) :
    regime.Keeps state (evalBody key apply body) fun ctx made => regime.AllGood ctx made.stated := by
  cases body with
  | struct fields | union fields =>
    refine keeps_bind (evalFields_keeps lawful upholds valid fed stated)
      fun members after valid _ all => keeps_pure valid ?_
    simpa [DefBody.stated] using all
  | classType base fields methods =>
    obtain ⟨own, last⟩ := allGood_append.1 stated
    obtain ⟨above, first⟩ := allGood_append.1 own
    refine keeps_bind (evalFields_keeps lawful upholds valid fed first)
      fun members after₁ valid₁ lasts₁ all => ?_
    have rest : ∀ {after : Specializer} (parent : Option TypeId), regime.valid after →
        Lasts after₁.context after.context → regime.AllGood after.context parent.toList →
        regime.Keeps after (do
          return ({ members, base := parent, methods := ← evalMethods key apply methods } : DefBody))
          fun ctx made => regime.AllGood ctx made.stated := by
      intro after parent valid lasts base
      have onward := lasts₁.trans lasts
      refine keeps_bind (evalMethods_keeps lawful upholds valid (fed.lasts lawful onward)
        (last.lasts lawful onward)) fun made last valid lasts' signatures => keeps_pure valid ?_
      exact allGood_append.2 ⟨allGood_append.2 ⟨all.lasts lawful (lasts.trans lasts'),
        base.lasts lawful lasts'⟩, signatures⟩
    cases base with
    | none => exact rest none valid₁ (.refl _) allGood_nil
    | some base =>
      have parent : regime.Keeps after₁ (some <$> eval key apply base) fun ctx parent =>
          regime.AllGood ctx parent.toList := by
        rw [map_eq_pure_bind]
        exact keeps_bind (eval_keeps lawful upholds base valid₁ (fed.lasts lawful lasts₁)
          (above.lasts lawful lasts₁)) fun ty _ valid _ good =>
            keeps_pure valid (allGood_singleton.2 good)
      exact keeps_bind parent fun parent _ valid lasts base => rest parent valid lasts base
  | synonym target => exact keeps_pure valid allGood_nil
  | function parameters result variadic => exact keeps_pure valid allGood_nil

/-! ### Making an instance -/

/-- Making the instance of a key keeps up the regime, if all that the key and the template state is
good, and gives an instance that is. -/
theorem make_keeps (settles : regime.Settles key) (valid : regime.valid state)
    (fed : regime.AllGood state.context key.stated)
    (stated : regime.AllGood state.context template.stated) :
    regime.Keeps state (make key template apply) fun ctx made => regime.AllGood ctx made.stated := by
  have body : regime.AllGood state.context template.body.stated := (allGood_append.1 stated).2
  -- a template that makes no definition
  have plain : ∀ {steps : SpecializeM TypeId} (wrap : TypeId → Instance),
      (∀ ty, (wrap ty).stated = [ty]) →
      regime.Keeps { state with chain := state.chain ++ [key] } steps regime.good →
      regime.Keeps state (do
        let ty ← nested key steps
        remember key (wrap ty)
        return wrap ty) fun ctx made => regime.AllGood ctx made.stated := by
    intro steps wrap wrapped inside
    refine keeps_bind (keeps_nested lawful inside) fun ty after₁ valid₁ _ good => ?_
    have own : regime.AllGood after₁.context (wrap ty).stated := by
      rw [wrapped]
      exact allGood_singleton.2 good
    exact keeps_bind (settles.remember valid₁ own) fun _ after₂ valid₂ lasts₂ _ =>
      keeps_pure valid₂ (own.lasts lawful lasts₂)
  have nominal : ∀ kind, regime.Keeps state (do
      let entry ← reserve template.name kind key
      remember key (.type entry.type)
      let body ← nested key (evalBody key apply template.body)
      complete entry.id body
      return Instance.type entry.type) fun ctx made => regime.AllGood ctx made.stated := by
    intro kind
    refine keeps_bind (settles.reserve template.name kind valid)
      fun entry after₁ valid₁ lasts₁ good => ?_
    refine keeps_bind (settles.remember valid₁ (allGood_singleton.2 good))
      fun _ after₂ valid₂ lasts₂ _ => ?_
    have lasts := lasts₁.trans lasts₂
    refine keeps_bind (keeps_nested lawful (evalBody_keeps lawful upholds (lawful.chain _ valid₂)
      (fed.lasts lawful lasts) (body.lasts lawful lasts))) fun own after₃ valid₃ lasts₃ all => ?_
    refine keeps_bind (settles.complete entry.id valid₃ all) fun _ after₄ valid₄ lasts₄ _ => ?_
    exact keeps_pure valid₄ (allGood_singleton.2
      (lawful.lasts ((lasts₂.trans lasts₃).trans lasts₄) good))
  have inner := lawful.chain (state.chain ++ [key]) valid
  unfold make
  split
  case h_1 target shape =>
    rw [shape] at body
    exact plain .type (fun _ => rfl) (eval_keeps lawful upholds target inner fed body)
  case h_2 parameters result variadic shape =>
    rw [shape] at body
    exact plain (fun ty => .function ⟨key, ty⟩) (fun _ => rfl)
      (evalSignature_keeps lawful upholds parameters result variadic inner fed body)
  all_goals exact nominal _

end Bodies

end Regime

end Specializer

end FrontEnd
