import FrontEnd.Proofs.Renaming.Template
import FrontEnd.Proofs.Typing.History

/-!
How requests of the type tables and the answers to them are renamed.
-/

namespace FrontEnd

variable {shift : Renaming} {extent : Extent}

/-! ### Refusals -/

instance : Renames RegistryError where
  image shift
    | .duplicate name existing => .duplicate name (shift.image existing)
    | .alreadyDefined id => .alreadyDefined (shift.image id)
    | .unknownDef id => .unknownDef (shift.image id)
  image_id err := by cases err <;> simp
  image_image first second err := by cases err <;> simp

instance : Renames TypeError where
  image shift
    | .memberNotFound ty name candidates => .memberNotFound (shift.image ty) name candidates
    | .operatorNotFound ty op => .operatorNotFound (shift.image ty) op
    | .ambiguousCall name candidates => .ambiguousCall name (shift.image candidates)
    | .noMatchingOverload name arguments candidates =>
      .noMatchingOverload name (shift.image arguments) (shift.image candidates)
    | .recursionLimitExceeded limit chain => .recursionLimitExceeded limit (shift.image chain)
    | .incompleteType ty => .incompleteType (shift.image ty)
    | .infiniteSize ty => .infiniteSize (shift.image ty)
    | .unsupportedWidth ty bits => .unsupportedWidth (shift.image ty) bits
    | .registry cause => .registry (shift.image cause)
    | .foreignType ty => .foreignType (shift.image ty)
    | err => err
  image_id err := by cases err <;> simp
  image_image first second err := by cases err <;> simp

instance : Renames TemplateDefError := .constant _

instance : Renames TypeLayout := .constant _

instance : Renames RecordLayout := .constant _

section Refusals

variable {name : Name} {id : DefId} {ty : TypeId} {limit bits : Nat}
  {chain : List SpecializationKey} {cause : RegistryError}

@[simp] theorem image_duplicate :
    shift.image (RegistryError.duplicate name id) = .duplicate name (shift.image id) := rfl

@[simp] theorem image_alreadyDefined :
    shift.image (RegistryError.alreadyDefined id) = .alreadyDefined (shift.image id) := rfl

@[simp] theorem image_unknownDef :
    shift.image (RegistryError.unknownDef id) = .unknownDef (shift.image id) := rfl

@[simp] theorem image_recursionLimit : shift.image (TypeError.recursionLimitExceeded limit chain) =
    .recursionLimitExceeded limit (shift.image chain) := rfl

@[simp] theorem image_incompleteType :
    shift.image (TypeError.incompleteType ty) = .incompleteType (shift.image ty) := rfl

@[simp] theorem image_infiniteSize :
    shift.image (TypeError.infiniteSize ty) = .infiniteSize (shift.image ty) := rfl

@[simp] theorem image_unsupportedWidth :
    shift.image (TypeError.unsupportedWidth ty bits) = .unsupportedWidth (shift.image ty) bits :=
  rfl

@[simp] theorem image_registryError :
    shift.image (TypeError.registry cause) = .registry (shift.image cause) := rfl

@[simp] theorem image_foreignType :
    shift.image (TypeError.foreignType ty) = .foreignType (shift.image ty) := rfl

@[simp] theorem image_templateDefError (err : TemplateDefError) : shift.image err = err := rfl

@[simp] theorem image_layout (layout : TypeLayout) : shift.image layout = layout := rfl

@[simp] theorem image_recordLayout (layout : RecordLayout) : shift.image layout = layout := rfl

@[simp] theorem known_duplicate :
    Known extent (RegistryError.duplicate name id) ↔ Known extent id := by simp [Known]

@[simp] theorem known_alreadyDefined :
    Known extent (RegistryError.alreadyDefined id) ↔ Known extent id := by simp [Known]

@[simp] theorem known_unknownDef :
    Known extent (RegistryError.unknownDef id) ↔ Known extent id := by simp [Known]

@[simp] theorem known_recursionLimit :
    Known extent (TypeError.recursionLimitExceeded limit chain) ↔ Known extent chain := by
  simp [Known]

@[simp] theorem known_incompleteType :
    Known extent (TypeError.incompleteType ty) ↔ Known extent ty := by simp [Known]

@[simp] theorem known_infiniteSize :
    Known extent (TypeError.infiniteSize ty) ↔ Known extent ty := by simp [Known]

@[simp] theorem known_unsupportedWidth :
    Known extent (TypeError.unsupportedWidth ty bits) ↔ Known extent ty := by simp [Known]

@[simp] theorem known_registryError :
    Known extent (TypeError.registry cause) ↔ Known extent cause := by simp [Known]

@[simp] theorem known_foreignType :
    Known extent (TypeError.foreignType ty) ↔ Known extent ty := by simp [Known]

@[simp] theorem known_templateDefError (err : TemplateDefError) : Known extent err :=
  fun _ _ _ => rfl

@[simp] theorem known_layout (layout : TypeLayout) : Known extent layout := fun _ _ _ => rfl

@[simp] theorem known_recordLayout (layout : RecordLayout) : Known extent layout :=
  fun _ _ _ => rfl

end Refusals

/-! ### Requests and answers -/

instance : Renames TableRequest where
  image shift
    | .intern form => .intern (shift.image form)
    | .qualify ty quals => .qualify (shift.image ty) quals
    | .declare name kind locator => .declare name kind locator
    | .define ty body => .define (shift.image ty) (shift.image body)
    | .register template => .register (shift.image template)
    | .specialize id arguments => .specialize id (shift.image arguments)
    | .layout ty => .layout (shift.image ty)
    | .recordLayout ty => .recordLayout (shift.image ty)
  image_id request := by cases request <;> simp
  image_image first second request := by cases request <;> simp

instance : Renames TableAnswer where
  image shift
    | .type ty => .type (shift.image ty)
    | .declared result => .declared (shift.image result)
    | .defined result => .defined (shift.image result)
    | .registered result => .registered (shift.image result)
    | .specialized result => .specialized (shift.image result)
    | .layout result => .layout (shift.image result)
    | .recordLayout result => .recordLayout (shift.image result)
  image_id answer := by cases answer <;> simp
  image_image first second answer := by cases answer <;> simp

section Requests

variable {form : TypeForm} {ty : TypeId} {quals : Qualifiers} {body : DefBody}
  {template : TemplateDef} {id : TemplateId} {arguments : List TemplateArgument}

@[simp] theorem image_internRequest :
    shift.image (TableRequest.intern form) = .intern (shift.image form) := rfl

@[simp] theorem image_qualifyRequest :
    shift.image (TableRequest.qualify ty quals) = .qualify (shift.image ty) quals := rfl

@[simp] theorem image_defineRequest : shift.image (TableRequest.define ty body) =
    .define (shift.image ty) (shift.image body) := rfl

@[simp] theorem image_registerRequest :
    shift.image (TableRequest.register template) = .register (shift.image template) := rfl

@[simp] theorem image_specializeRequest : shift.image (TableRequest.specialize id arguments) =
    .specialize id (shift.image arguments) := rfl

@[simp] theorem image_layoutRequest :
    shift.image (TableRequest.layout ty) = .layout (shift.image ty) := rfl

@[simp] theorem image_recordLayoutRequest :
    shift.image (TableRequest.recordLayout ty) = .recordLayout (shift.image ty) := rfl

@[simp] theorem known_internRequest :
    Known extent (TableRequest.intern form) ↔ Known extent form := by simp [Known]

@[simp] theorem known_qualifyRequest :
    Known extent (TableRequest.qualify ty quals) ↔ Known extent ty := by simp [Known]

@[simp] theorem known_defineRequest : Known extent (TableRequest.define ty body) ↔
    Known extent ty ∧ Known extent body := by simp [Known, forall_and]

@[simp] theorem known_registerRequest :
    Known extent (TableRequest.register template) ↔ Known extent template := by simp [Known]

@[simp] theorem known_specializeRequest :
    Known extent (TableRequest.specialize id arguments) ↔ Known extent arguments := by
  simp [Known]

@[simp] theorem known_layoutRequest :
    Known extent (TableRequest.layout ty) ↔ Known extent ty := by simp [Known]

@[simp] theorem known_recordLayoutRequest :
    Known extent (TableRequest.recordLayout ty) ↔ Known extent ty := by simp [Known]

end Requests

end FrontEnd
