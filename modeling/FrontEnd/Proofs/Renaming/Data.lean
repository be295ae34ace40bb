import FrontEnd.Proofs.Renaming.Basic

/-!
How the data of the type tables are renamed: forms, arguments and keys, instances and definitions.
For each, the known data are those with known parts.
-/

namespace FrontEnd

variable {shift : Renaming} {extent : Extent}

/-! ### Forms -/

instance : Renames TypeForm where
  image shift
    | .nominal kind id => .nominal kind (shift.image id)
    | .pointer target => .pointer (shift.image target)
    | .array element length => .array (shift.image element) length
    | .slice element => .slice (shift.image element)
    | .function parameters result variadic =>
      .function (shift.image parameters) (shift.image result) variadic
    | .qualified base quals => .qualified (shift.image base) quals
    | form => form
  image_id form := by cases form <;> simp
  image_image first second form := by cases form <;> simp

section Forms

variable {kind : DefKind} {id : DefId} {ty result : TypeId} {length : Nat}
  {parameters : List TypeId} {variadic : Bool} {quals : Qualifiers}

@[simp] theorem image_nominal :
    shift.image (TypeForm.nominal kind id) = .nominal kind (shift.image id) := rfl

@[simp] theorem image_pointer :
    shift.image (TypeForm.pointer ty) = .pointer (shift.image ty) := rfl

@[simp] theorem image_array :
    shift.image (TypeForm.array ty length) = .array (shift.image ty) length := rfl

@[simp] theorem image_slice : shift.image (TypeForm.slice ty) = .slice (shift.image ty) := rfl

@[simp] theorem image_function : shift.image (TypeForm.function parameters result variadic) =
    .function (shift.image parameters) (shift.image result) variadic := rfl

@[simp] theorem image_qualified :
    shift.image (TypeForm.qualified ty quals) = .qualified (shift.image ty) quals := rfl

@[simp] theorem known_nominal :
    Known extent (TypeForm.nominal kind id) ↔ Known extent id := by simp [Known]

@[simp] theorem known_pointer :
    Known extent (TypeForm.pointer ty) ↔ Known extent ty := by simp [Known]

@[simp] theorem known_array :
    Known extent (TypeForm.array ty length) ↔ Known extent ty := by simp [Known]

@[simp] theorem known_slice : Known extent (TypeForm.slice ty) ↔ Known extent ty := by simp [Known]

@[simp] theorem known_function : Known extent (TypeForm.function parameters result variadic) ↔
    Known extent parameters ∧ Known extent result := by
  simp [Known, imp_and, forall_and]

@[simp] theorem known_qualified :
    Known extent (TypeForm.qualified ty quals) ↔ Known extent ty := by simp [Known]

end Forms

/-! ### Arguments, keys and instances -/

instance : Renames TemplateArgument where
  image shift
    | .type ty => .type (shift.image ty)
    | argument => argument
  image_id argument := by cases argument <;> simp
  image_image first second argument := by cases argument <;> simp

instance : Renames SpecializationKey where
  image shift key := ⟨key.template, shift.image key.arguments⟩
  image_id key := by simp
  image_image first second key := by simp

instance : Renames FunctionInstance where
  image shift made := ⟨shift.image made.key, shift.image made.signature⟩
  image_id made := by simp
  image_image first second made := by simp

instance : Renames Instance where
  image shift
    | .type ty => .type (shift.image ty)
    | .function made => .function (shift.image made)
  image_id made := by cases made <;> simp
  image_image first second made := by cases made <;> simp

section Instances

variable {ty signature : TypeId} {value : ConstValue} {template : TemplateId}
  {arguments : List TemplateArgument} {key : SpecializationKey} {made : FunctionInstance}

@[simp] theorem image_typeArgument :
    shift.image (TemplateArgument.type ty) = .type (shift.image ty) := rfl

@[simp] theorem image_valueArgument :
    shift.image (TemplateArgument.value value) = .value value := rfl

@[simp] theorem image_templateArgument :
    shift.image (TemplateArgument.template template) = .template template := rfl

@[simp] theorem image_key : shift.image (SpecializationKey.mk template arguments) =
    ⟨template, shift.image arguments⟩ := rfl

@[simp] theorem image_functionInstance : shift.image (FunctionInstance.mk key signature) =
    ⟨shift.image key, shift.image signature⟩ := rfl

@[simp] theorem image_instanceType :
    shift.image (Instance.type ty) = .type (shift.image ty) := rfl

@[simp] theorem image_instanceFunction :
    shift.image (Instance.function made) = .function (shift.image made) := rfl

@[simp] theorem known_typeArgument :
    Known extent (TemplateArgument.type ty) ↔ Known extent ty := by simp [Known]

@[simp] theorem known_valueArgument : Known extent (TemplateArgument.value value) := by
  simp [Known]

@[simp] theorem known_templateArgument : Known extent (TemplateArgument.template template) := by
  simp [Known]

@[simp] theorem known_key : Known extent (SpecializationKey.mk template arguments) ↔
    Known extent arguments := by simp [Known]

@[simp] theorem known_functionInstance : Known extent (FunctionInstance.mk key signature) ↔
    Known extent key ∧ Known extent signature := by
  simp [Known, imp_and, forall_and]

@[simp] theorem known_instanceType :
    Known extent (Instance.type ty) ↔ Known extent ty := by simp [Known]

@[simp] theorem known_instanceFunction :
    Known extent (Instance.function made) ↔ Known extent made := by simp [Known]

end Instances

/-! ### Definitions -/

instance : Renames Member where
  image shift member := { member with type := shift.image member.type }
  image_id member := by simp
  image_image first second member := by simp

instance : Renames Method where
  image shift method := { method with signature := shift.image method.signature }
  image_id method := by simp
  image_image first second method := by simp

instance : Renames OperatorMethod where
  image shift method := { method with signature := shift.image method.signature }
  image_id method := by simp
  image_image first second method := by simp

instance : Renames DefBody where
  image shift body := { body with
    members := shift.image body.members
    methods := shift.image body.methods
    operators := shift.image body.operators
    base := shift.image body.base
    interfaces := shift.image body.interfaces
    indexType := shift.image body.indexType }
  image_id body := by simp
  image_image first second body := by simp

instance : Renames TypeDef where
  image shift entry := { entry with
    id := shift.image entry.id
    type := shift.image entry.type
    specialization := shift.image entry.specialization
    body := shift.image entry.body }
  image_id entry := by simp
  image_image first second entry := by simp

section Definitions

variable {name : Name} {ty : TypeId} {isStatic : Bool} {body : DefBody} {entry : TypeDef}

@[simp] theorem image_member : shift.image (Member.mk name ty) = ⟨name, shift.image ty⟩ := rfl

@[simp] theorem image_method :
    shift.image (Method.mk name ty isStatic) = ⟨name, shift.image ty, isStatic⟩ := rfl

theorem image_body : shift.image body = { body with
    members := shift.image body.members
    methods := shift.image body.methods
    operators := shift.image body.operators
    base := shift.image body.base
    interfaces := shift.image body.interfaces
    indexType := shift.image body.indexType } := rfl

theorem image_entry : shift.image entry = { entry with
    id := shift.image entry.id
    type := shift.image entry.type
    specialization := shift.image entry.specialization
    body := shift.image entry.body } := rfl

@[simp] theorem known_member : Known extent (Member.mk name ty) ↔ Known extent ty := by
  simp [Known]

@[simp] theorem known_method : Known extent (Method.mk name ty isStatic) ↔ Known extent ty := by
  simp [Known]

theorem known_body : Known extent body ↔ Known extent body.members ∧
    Known extent body.methods ∧ Known extent body.operators ∧ Known extent body.base ∧
    Known extent body.interfaces ∧ Known extent body.indexType := by
  simp only [Known, image_body, ← forall_and, DefBody.mk.injEq, true_and]

theorem known_entry : Known extent entry ↔ Known extent entry.id ∧
    Known extent entry.type ∧ Known extent entry.specialization ∧ Known extent entry.body := by
  simp only [Known, image_entry, ← forall_and, TypeDef.mk.injEq, true_and]

end Definitions

end FrontEnd
