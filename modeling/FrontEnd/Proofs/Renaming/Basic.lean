import FrontEnd.Typing.Context
import Mathlib.Logic.Basic

/-!
Renamings of types and definitions. Two sessions that differ only in the numbers they gave out are
told apart by nothing else, so a fact about one is a fact about the other under a renaming. What is
known below an extent does not depend on how a renaming treats ids beyond it.
-/

namespace FrontEnd

/-- New numbers for types and definitions. Templates keep theirs. -/
structure Renaming where
  types : TypeId → TypeId
  defs : DefId → DefId

namespace Renaming

/-- The renaming that changes nothing. -/
protected def id : Renaming := ⟨fun ty => ty, fun id => id⟩

/-- One renaming after another. -/
def andThen (first second : Renaming) : Renaming :=
  ⟨fun ty => second.types (first.types ty), fun id => second.defs (first.defs id)⟩

variable (first second : Renaming)

@[simp] theorem id_types (ty : TypeId) : Renaming.id.types ty = ty := rfl

@[simp] theorem id_defs (id : DefId) : Renaming.id.defs id = id := rfl

@[simp] theorem andThen_types (ty : TypeId) :
    (first.andThen second).types ty = second.types (first.types ty) := rfl

@[simp] theorem andThen_defs (id : DefId) :
    (first.andThen second).defs id = second.defs (first.defs id) := rfl

end Renaming

/-- Data that mention types and definitions, and so are renamed with them. -/
class Renames (α : Type) where
  image : Renaming → α → α
  image_id : ∀ x, image .id x = x
  image_image : ∀ first second x, image second (image first x) = image (first.andThen second) x

/-- What becomes of data under a renaming. -/
abbrev Renaming.image (shift : Renaming) [Renames α] (x : α) : α := Renames.image shift x

attribute [simp] Renames.image_id Renames.image_image

/-- The renaming that keeps every number keeps everything. -/
theorem Renaming.image_id [Renames α] (x : α) : Renaming.id.image x = x := Renames.image_id x

/-! ### Common data -/

section Instances

/-- Data that mention neither types nor definitions. -/
@[reducible] def Renames.constant (α : Type) : Renames α where
  image _ x := x
  image_id _ := rfl
  image_image _ _ _ := rfl

instance : Renames Unit := .constant _

instance : Renames Nat := .constant _

instance : Renames TemplateId := .constant _

instance : Renames TypeId where
  image shift ty := shift.types ty
  image_id _ := rfl
  image_image _ _ _ := rfl

instance : Renames DefId where
  image shift id := shift.defs id
  image_id _ := rfl
  image_image _ _ _ := rfl

instance [Renames α] : Renames (List α) where
  image shift xs := xs.map shift.image
  image_id xs := by induction xs <;> simp_all
  image_image first second xs := by simp

instance [Renames α] : Renames (Option α) where
  image shift x := x.map shift.image
  image_id x := by cases x <;> simp
  image_image first second x := by cases x <;> simp

instance [Renames α] [Renames β] : Renames (α × β) where
  image shift pair := (shift.image pair.1, shift.image pair.2)
  image_id pair := by simp
  image_image first second pair := by simp

instance [Renames ε] [Renames α] : Renames (Except ε α) where
  image shift
    | .ok value => .ok (shift.image value)
    | .error err => .error (shift.image err)
  image_id result := by cases result <;> simp
  image_image first second result := by cases result <;> simp

end Instances

variable [Renames α] [Renames β] [Renames ε] {shift other : Renaming}

@[simp] theorem image_type (ty : TypeId) : shift.image ty = shift.types ty := rfl

@[simp] theorem image_def (id : DefId) : shift.image id = shift.defs id := rfl

@[simp] theorem image_nat (number : Nat) : shift.image number = number := rfl

@[simp] theorem image_template (id : TemplateId) : shift.image id = id := rfl

@[simp] theorem image_nil : shift.image ([] : List α) = [] := rfl

@[simp] theorem image_cons (x : α) (rest : List α) :
    shift.image (x :: rest) = shift.image x :: shift.image rest := rfl

@[simp] theorem image_append (front back : List α) :
    shift.image (front ++ back) = shift.image front ++ shift.image back :=
  List.map_append

@[simp] theorem length_image (xs : List α) : (shift.image xs).length = xs.length :=
  List.length_map _

@[simp] theorem image_none : shift.image (none : Option α) = none := rfl

@[simp] theorem image_some (x : α) : shift.image (some x) = some (shift.image x) := rfl

@[simp] theorem image_pair (x : α) (y : β) :
    shift.image (x, y) = (shift.image x, shift.image y) := rfl

@[simp] theorem image_ok (x : α) :
    shift.image (.ok x : Except ε α) = .ok (shift.image x) := rfl

@[simp] theorem image_error (err : ε) :
    shift.image (.error err : Except ε α) = .error (shift.image err) := rfl

/-! ### What is known -/

/-- How many types and definitions have been given out. -/
structure Extent where
  types : Nat
  defs : Nat

namespace Extent

/-- The first extent reaches no further than the second. -/
structure Within (inner outer : Extent) : Prop where
  types : inner.types ≤ outer.types
  defs : inner.defs ≤ outer.defs

theorem Within.refl (extent : Extent) : extent.Within extent := ⟨Nat.le_refl _, Nat.le_refl _⟩

theorem Within.trans {first second third : Extent} (inner : first.Within second)
    (outer : second.Within third) : first.Within third :=
  ⟨Nat.le_trans inner.types outer.types, Nat.le_trans inner.defs outer.defs⟩

end Extent

/-- The renamings treat everything below the extent alike. -/
structure Agrees (extent : Extent) (first second : Renaming) : Prop where
  types : ∀ ty : TypeId, ty.index < extent.types → first.types ty = second.types ty
  defs : ∀ id : DefId, id.index < extent.defs → first.defs id = second.defs id

/-- Different ids below the extent stay different. -/
structure Faithful (extent : Extent) (shift : Renaming) : Prop where
  types : ∀ first second : TypeId, first.index < extent.types → second.index < extent.types →
    shift.types first = shift.types second → first = second
  defs : ∀ first second : DefId, first.index < extent.defs → second.index < extent.defs →
    shift.defs first = shift.defs second → first = second

/-- The data mention only ids below the extent: no renaming of ids beyond it changes them. -/
def Known (extent : Extent) (x : α) : Prop :=
  ∀ first second, Agrees extent first second → first.image x = second.image x

variable {extent inner outer : Extent}

theorem Agrees.refl (extent : Extent) (shift : Renaming) : Agrees extent shift shift :=
  ⟨fun _ _ => rfl, fun _ _ => rfl⟩

theorem Agrees.symm {first second : Renaming} (agrees : Agrees extent first second) :
    Agrees extent second first :=
  ⟨fun ty below => (agrees.types ty below).symm, fun id below => (agrees.defs id below).symm⟩

theorem Agrees.trans {first second third : Renaming} (left : Agrees extent first second)
    (right : Agrees extent second third) : Agrees extent first third :=
  ⟨fun ty below => (left.types ty below).trans (right.types ty below),
    fun id below => (left.defs id below).trans (right.defs id below)⟩

theorem Agrees.within {first second : Renaming} (within : inner.Within outer)
    (agrees : Agrees outer first second) : Agrees inner first second :=
  ⟨fun ty below => agrees.types ty (Nat.lt_of_lt_of_le below within.types),
    fun id below => agrees.defs id (Nat.lt_of_lt_of_le below within.defs)⟩

theorem Known.within {x : α} (known : Known inner x) (within : inner.Within outer) :
    Known outer x :=
  fun first second agrees => known first second (agrees.within within)

/-- The renaming back, from the images of what is below the extent. -/
private noncomputable def Renaming.back (extent : Extent) (shift : Renaming) : Renaming where
  types image := open Classical in
    if found : ∃ ty : TypeId, ty.index < extent.types ∧ shift.types ty = image then found.choose
    else image
  defs image := open Classical in
    if found : ∃ id : DefId, id.index < extent.defs ∧ shift.defs id = image then found.choose
    else image

private theorem agrees_back (faithful : Faithful extent shift) :
    Agrees extent (shift.andThen (shift.back extent)) .id := by
  constructor
  · intro ty below
    have found : ∃ own : TypeId, own.index < extent.types ∧
        shift.types own = shift.types ty := ⟨ty, below, rfl⟩
    simp only [Renaming.andThen, Renaming.back, Renaming.id, dif_pos found]
    exact faithful.types _ _ found.choose_spec.1 below found.choose_spec.2
  · intro id below
    have found : ∃ own : DefId, own.index < extent.defs ∧
        shift.defs own = shift.defs id := ⟨id, below, rfl⟩
    simp only [Renaming.andThen, Renaming.back, Renaming.id, dif_pos found]
    exact faithful.defs _ _ found.choose_spec.1 below found.choose_spec.2

/-- Different data below the extent stay different. -/
theorem image_injective (faithful : Faithful extent shift) {x y : α} (left : Known extent x)
    (right : Known extent y) (same : shift.image x = shift.image y) : x = y := by
  have back := agrees_back faithful
  have undone : ∀ z : α, Known extent z → (shift.back extent).image (shift.image z) = z := by
    intro z known
    exact (Renames.image_image _ _ z).trans ((known _ _ back).trans (Renames.image_id z))
  rw [← undone x left, same, undone y right]

theorem image_eq_iff (faithful : Faithful extent shift) {x y : α} (left : Known extent x)
    (right : Known extent y) : shift.image x = shift.image y ↔ x = y :=
  ⟨image_injective faithful left right, congrArg _⟩

@[simp] theorem known_type {ty : TypeId} : Known extent ty ↔ ty.index < extent.types := by
  refine ⟨fun known => ?_, fun below first second agrees => agrees.types ty below⟩
  refine Nat.lt_of_not_le fun beyond => ?_
  have moved := known .id ⟨fun other => if other = ty then ⟨ty.index + 1⟩ else other, fun id => id⟩
    ⟨fun other below => (if_neg (by rintro rfl; omega)).symm, fun _ _ => rfl⟩
  have contradiction : ty.index = ty.index + 1 := by
    simpa [Renaming.id] using congrArg TypeId.index moved
  omega

@[simp] theorem known_def {id : DefId} : Known extent id ↔ id.index < extent.defs := by
  refine ⟨fun known => ?_, fun below first second agrees => agrees.defs id below⟩
  refine Nat.lt_of_not_le fun beyond => ?_
  have moved := known .id ⟨fun ty => ty, fun other => if other = id then ⟨id.index + 1⟩ else other⟩
    ⟨fun _ _ => rfl, fun other below => (if_neg (by rintro rfl; omega)).symm⟩
  have contradiction : id.index = id.index + 1 := by
    simpa [Renaming.id] using congrArg DefId.index moved
  omega

@[simp] theorem known_nat (number : Nat) : Known extent number := fun _ _ _ => rfl

@[simp] theorem known_template (id : TemplateId) : Known extent id := fun _ _ _ => rfl

@[simp] theorem known_unit (value : Unit) : Known extent value := fun _ _ _ => rfl

@[simp] theorem known_nil : Known extent ([] : List α) := fun _ _ _ => rfl

@[simp] theorem known_cons {x : α} {rest : List α} :
    Known extent (x :: rest) ↔ Known extent x ∧ Known extent rest := by
  simp [Known, imp_and, forall_and]

theorem known_list {xs : List α} : Known extent xs ↔ ∀ x ∈ xs, Known extent x := by
  induction xs with
  | nil => simp
  | cons x rest ih => simp [ih]

theorem mem_image_iff (faithful : Faithful extent shift) {x : α} {xs : List α}
    (known : Known extent x) (all : Known extent xs) : shift.image x ∈ shift.image xs ↔ x ∈ xs := by
  refine ⟨fun member => ?_, List.mem_map_of_mem⟩
  obtain ⟨y, present, same⟩ := List.mem_map.1 member
  exact image_injective faithful (known_list.1 all y present) known same ▸ present

@[simp] theorem known_append {front back : List α} :
    Known extent (front ++ back) ↔ Known extent front ∧ Known extent back := by
  simp [known_list, or_imp, forall_and]

@[simp] theorem known_none : Known extent (none : Option α) := fun _ _ _ => rfl

@[simp] theorem known_some {x : α} : Known extent (some x) ↔ Known extent x := by
  simp [Known]

@[simp] theorem known_pair {x : α} {y : β} :
    Known extent (x, y) ↔ Known extent x ∧ Known extent y := by
  simp [Known, imp_and, forall_and]

@[simp] theorem known_ok {x : α} : Known extent (.ok x : Except ε α) ↔ Known extent x := by
  simp [Known]

@[simp] theorem known_error {err : ε} :
    Known extent (.error err : Except ε α) ↔ Known extent err := by
  simp [Known]

end FrontEnd
