import FrontEnd.Proofs.Renaming.Context
import FrontEnd.Proofs.Specialization.Binding

/-!
Keys of requests in tables that are the same up to a renaming: both sides take the same arguments
for the same parameters, and fill in the same defaults.
-/

namespace FrontEnd

/-- Types, templates and settings are the same up to a renaming, whatever the definitions and the
instances are. -/
structure Shared (shift : Renaming) (one two : TypeContext) : Prop where
  config : two.config = one.config
  faithful : Faithful one.extent shift
  primitive : ∀ ty : TypeId, ty.index < TypeId.primitiveCount →
    ty.index < one.extent.types ∧ shift.types ty = ty
  pool : PoolTwin one.extent shift one.pool two.pool
  templates : TemplatesTwin one.extent shift one.templates two.templates

variable {shift : Renaming} {one two : TypeContext} {id : TemplateId}

theorem Twin.shared (twin : Twin shift one two) : Shared shift one two :=
  ⟨twin.config, twin.faithful, twin.primitive, twin.pool, twin.templates⟩

namespace Shared

/-- Both sides take an argument for what a parameter asks for, or neither does. -/
theorem accepts (shared : Shared shift one two) {kind : TemplateParamKind} {argument : TemplateArgument}
    (known : Known one.extent kind) :
    two.accepts (shift.image kind) (shift.image argument) = one.accepts kind argument := by
  cases kind with
  | type => cases argument <;> rfl
  | value ty =>
    obtain ⟨same, inner⟩ := shared.pool.unqualified (known_valueParam.1 known)
    obtain ⟨below, fixed⟩ := shared.primitive .bool (by decide)
    have boolean : (shift.types (one.pool.unqualified ty) == TypeId.bool) =
        (one.pool.unqualified ty == TypeId.bool) := by
      rw [Bool.eq_iff_iff, beq_iff_eq, beq_iff_eq]
      refine ⟨fun equal => ?_, fun equal => by rw [equal, fixed]⟩
      rw [← fixed] at equal
      exact shared.faithful.types _ _ (known_type.1 inner) below equal
    rcases argument with _ | (_ | _) | _
    · rfl
    · simp only [image_valueParam, image_valueArgument, TypeContext.accepts, image_type, same, bne,
        boolean]
    · simp only [image_valueParam, image_valueArgument, TypeContext.accepts, image_type, same,
        boolean]
    · rfl
  | template arity =>
    cases argument with
    | type ty => rfl
    | value value => rfl
    | template target =>
      simp only [image_templateParam, image_templateArgument, TypeContext.accepts,
        shared.templates.get? target]
      cases one.templates.get? target with
      | none => rfl
      | some template =>
        simp only [image_some, TemplatesTwin.required_image, parameters_image, length_image]

theorem bindFrom (shared : Shared shift one two) {arity : TypeError} (fixed : shift.image arity = arity)
    (refused : Known one.extent arity) {params : List TemplateParameter} {index : Nat}
    {arguments : List TemplateArgument} (known : Known one.extent params)
    (known' : Known one.extent arguments) :
    two.bindFrom id arity index (shift.image params) (shift.image arguments) =
        shift.image (one.bindFrom id arity index params arguments) ∧
      Known one.extent (one.bindFrom id arity index params arguments) := by
  induction params generalizing index arguments with
  | nil => exact ⟨rfl, known_ok.2 known_nil⟩
  | cons param params ih =>
    obtain ⟨known₁, known₂⟩ := known_cons.1 known
    obtain ⟨kinds, defaults⟩ := known_parameter.1 known₁
    have chosen : (shift.image arguments).head?.or (shift.image param).default =
        shift.image (arguments.head?.or param.default) := by
      cases arguments <;> rfl
    have inner : Known one.extent (arguments.head?.or param.default) := by
      cases arguments with
      | nil => exact defaults
      | cons argument rest => exact known_some.2 (known_cons.1 known').1
    have dropped : (shift.image arguments).drop 1 = shift.image (arguments.drop 1) := by
      cases arguments <;> rfl
    have rest : Known one.extent (arguments.drop 1) := by
      cases arguments with
      | nil => exact known_nil
      | cons argument rest => exact (known_cons.1 known').2
    rw [image_cons, TypeContext.bindFrom_cons, TypeContext.bindFrom_cons, chosen]
    cases picked : arguments.head?.or param.default with
    | none =>
      exact ⟨congrArg Except.error fixed.symm, known_error.2 refused⟩
    | some argument =>
      rw [picked, known_some] at inner
      simp only [image_some, show (shift.image param).kind = shift.image param.kind from rfl,
        shared.accepts kinds, dropped]
      obtain ⟨same, others⟩ := ih known₂ rest
      split
      · rw [same]
        cases bound : one.bindFrom id arity (index + 1) params (arguments.drop 1) with
        | error err =>
          rw [bound] at others
          exact ⟨rfl, known_error.2 (known_error.1 others)⟩
        | ok full =>
          rw [bound, known_ok] at others
          exact ⟨rfl, known_ok.2 (known_cons.2 ⟨inner, others⟩)⟩
      · refine ⟨?_, fun _ _ _ => rfl⟩
        rw [TemplatesTwin.sort_image, TemplatesTwin.argumentSort_image]
        rfl

variable (id) in
/-- Both sides bind arguments alike. -/
theorem bind (shared : Shared shift one two) {template : TemplateDef}
    {arguments : List TemplateArgument} (known : Known one.extent template)
    (known' : Known one.extent arguments) :
    two.bind id (shift.image template) (shift.image arguments) =
        shift.image (one.bind id template arguments) ∧
      Known one.extent (one.bind id template arguments) := by
  unfold TypeContext.bind
  simp only [TemplatesTwin.required_image, parameters_image, length_image]
  split
  · exact ⟨rfl, fun _ _ _ => rfl⟩
  · exact shared.bindFrom rfl (fun _ _ _ => rfl) (known_templateDef.1 known).1 known'

end Shared

end FrontEnd
