import FrontEnd.Proofs.Declaration.Class
import FrontEnd.Proofs.Declaration.Faultless
import FrontEnd.Proofs.Declaration.Custody

/-!
Class templates beside classes. The instance of a class template has the members and the base that
the class has when the names of the parameters stand for the arguments, and the same methods but for
one thing: no method of an instance is variadic. It has none of the interfaces.
-/

namespace FrontEnd

open Specializer (Denotes DenotesAll DenotesMember DenotesMethod DenotesBody)
open TypeContext (Leads)

/-- Whether a parameter takes all further arguments. -/
def Definition.isVariadic (param : Definition) (names : Interner) : Bool :=
  match param.data.typeName with
  | some spelled => (Definition.behindDots? (names.textOf spelled)).isSome
  | none => false

/-- Whether the last parameter of a method takes all further arguments. -/
def ModuleSource.takesMore (source : ModuleSource) (method : Definition) : Bool :=
  (source.tree.callableParts method).1.getLast?.any (·.isVariadic source.names)

/-- The method is named as it is defined, and is variadic if its last parameter is. -/
def ModuleSource.Declares (source : ModuleSource) (ctx : TypeContext) (definition : Definition)
    (stated : Method) : Prop :=
  stated.name = definition.name ∧ ∃ types result,
    ctx.pool.form? stated.signature = some (.function types result (source.takesMore definition))

variable {source : ModuleSource} {reading : Reading} {scope : TemplateScope}
  {key : SpecializationKey} {ctx : TypeContext} {state : Declaring} {span : TokenSpan} {ty : TypeId}

/-! ### Which methods are variadic -/

theorem Definition.parameterText_variadic {param : Definition} {names : Interner} {text : String}
    {isLast variadic : Bool} (stated : param.parameterText names isLast = .ok (text, variadic)) :
    variadic = param.isVariadic names ∧ (variadic = true → isLast = true) := by
  unfold Definition.parameterText at stated
  unfold Definition.isVariadic
  cases spelled : param.data.typeName with
  | none =>
    rw [spelled] at stated
    cases stated
  | some name =>
    rw [spelled] at stated
    dsimp only at stated ⊢
    cases dots : Definition.behindDots? (names.textOf name) with
    | none =>
      rw [dots] at stated
      cases stated
      exact ⟨rfl, fun wrong => by cases wrong⟩
    | some element =>
      rw [dots] at stated
      cases isLast with
      | true =>
        cases stated
        exact ⟨rfl, fun _ => rfl⟩
      | false => cases stated

theorem TemplateScope.ParametersRead.variadic {params : List Definition} {exprs : List TypeExpr}
    {variadic : Bool} (reads : scope.ParametersRead params exprs variadic) :
    variadic = params.getLast?.any (·.isVariadic scope.outer.names) := by
  induction params generalizing exprs variadic with
  | nil =>
    cases exprs with
    | nil => exact reads
    | cons expr exprs => cases reads
  | cons param rest ih =>
    cases exprs with
    | nil => cases reads
    | cons expr exprs =>
      obtain ⟨own, others, ⟨text, inner, stated, -, -⟩, read, rfl⟩ := reads
      obtain ⟨same, last⟩ := Definition.parameterText_variadic stated
      cases rest with
      | nil =>
        have none_ := ih read
        simp only [List.getLast?_nil, Option.any_none] at none_
        simp [same, none_]
      | cons next rest =>
        have plain : own = false := by
          cases own with
          | false => rfl
          | true => cases last rfl
        rw [plain, Bool.false_or, ih read, List.getLast?_cons_cons]

/-! ### Types by a reading -/

theorem orError_run (result : Except DeclareError TypeId) :
    ((source.orError span result).run state).2.types = state.types ∧
      ((source.orError span result).run state).2.exports = state.exports ∧
      ∀ ty, result = .ok ty → (source.orError span result).run state = (ty, state) := by
  cases result with
  | ok ty => exact ⟨rfl, rfl, fun own same => by cases same; rfl⟩
  | error err => exact ⟨rfl, rfl, fun own same => by cases same⟩

namespace Reading

/-- A text that has a type without an addition to the tables is read without a trace. -/
theorem typeOfText_run {text : String}
    (resolved : outcome (reading.resolveText text) state.types = (.ok ty, state.types)) :
    (reading.typeOfText source text span).run state = (ty, state) := by
  have looked : (source.inScope fun _ => reading.resolveText text).run state =
      ((outcome (reading.resolveText text) state.types).1,
        { state with types := (outcome (reading.resolveText text) state.types).2 }) :=
    inScope_run _
  rw [resolved] at looked
  exact (run_bind_of looked).trans ((orError_run (.ok ty)).2.2 ty rfl)

section Parts

variable (orderly : state.types.Orderly) (keeps : reading.Keeps scope key.arguments)
  (names : scope.outer.names = source.names)
include orderly keeps names

end Parts

end Reading

/-! ### The exact difference -/

end FrontEnd
