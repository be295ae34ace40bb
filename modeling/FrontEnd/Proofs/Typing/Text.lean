import FrontEnd.Proofs.Typing.Pool
import FrontEnd.Typing.Text
import Mathlib.Logic.Relation

/-!
The text of a type is put together from the texts of its parts. A type may be an instance that has
types as arguments, so the parts of a type need not have been there before it; but where no type is
a part of itself, no chain of parts is longer than the pool.
-/

namespace FrontEnd

open Relation (TransGen)

namespace TypeContext

variable {ctx : TypeContext} {names : Interner} {ty : TypeId}

/-- The type that an argument is. -/
def argumentType? : TemplateArgument → Option TypeId
  | .type ty => some ty
  | _ => none

/-- The types whose texts are part of that of a form. -/
def shown (ctx : TypeContext) (form : TypeForm) : List TypeId :=
  match form with
  | .nominal _ id => match (ctx.registry.get? id).bind (·.specialization) with
    | some key => key.arguments.filterMap argumentType?
    | none => []
  | form => form.children

/-- The text of the first type is part of that of the second. -/
def Part (ctx : TypeContext) (inner outer : TypeId) : Prop :=
  ∃ form, ctx.pool.form? outer = some form ∧ inner ∈ ctx.shown form

/-- A type ends in finitely many steps if all of its parts do. -/
theorem acc_of_form {form : TypeForm} (found : ctx.pool.form? ty = some form)
    (parts : ∀ inner ∈ ctx.shown form, Acc ctx.Part inner) : Acc ctx.Part ty := by
  refine ⟨ty, fun inner part => ?_⟩
  obtain ⟨form', found', member⟩ := part
  cases found.symm.trans found'
  exact parts inner member

section Congruence

variable {type type' : TypeId → String}

theorem parameterTexts_congr (variadic : Bool) {parameters : List TypeId}
    (same : ∀ ty ∈ parameters, type ty = type' ty) :
    parameterTexts type variadic parameters = parameterTexts type' variadic parameters := by
  induction parameters with
  | nil => rfl
  | cons first rest ih =>
    obtain ⟨head, tail⟩ := List.forall_mem_cons.1 same
    cases rest with
    | nil => simp only [parameterTexts, head]
    | cons second rest => simp only [parameterTexts, head, ih tail]

theorem keyText_congr {key : SpecializationKey}
    (same : ∀ ty, .type ty ∈ key.arguments → type ty = type' ty) :
    ctx.keyText names type key = ctx.keyText names type' key := by
  have texts : key.arguments.map (ctx.argumentText names type) =
      key.arguments.map (ctx.argumentText names type') := by
    refine List.map_congr_left fun argument member => ?_
    cases argument with
    | type ty => exact same ty member
    | value value => rfl
    | template id => rfl
  rw [keyText, keyText, texts]

/-- The text of a form depends on those of its parts only. -/
theorem formText_congr {form : TypeForm} (same : ∀ ty ∈ ctx.shown form, type ty = type' ty) :
    ctx.formText names type form = ctx.formText names type' form := by
  cases form with
  | nominal kind id =>
    simp only [formText, defText]
    cases live : ctx.registry.get? id with
    | none => rfl
    | some entry =>
      cases carries : entry.specialization with
      | none =>
        simp only [carries]
        cases entry.name <;> rfl
      | some key =>
        simp only [carries]
        refine keyText_congr fun ty member => same ty ?_
        simp only [shown, live, Option.bind_some, carries]
        exact List.mem_filterMap.2 ⟨_, member, rfl⟩
  | pointer target | array element length | slice element | qualified base quals =>
    simp only [formText, same _ (List.mem_singleton.2 rfl)]
  | function parameters result variadic =>
    obtain ⟨head, tail⟩ := List.forall_mem_cons.1 same
    simp only [formText, head, parameterTexts_congr variadic tail]
  | void | bool | int | float | param | error => rfl

end Congruence

private theorem not_transGen_self {α : Type} {r : α → α → Prop} {a : α} (ends : Acc r a) :
    ¬ TransGen r a a := by
  have chains := ends.transGen
  clear ends
  induction chains with
  | intro a _ ih => exact fun cycle => ih a cycle cycle

/-- The text of a type is the same for all numbers of steps that are enough, whatever types it is
part of. -/
private theorem textWithin_stable (ends : Acc ctx.Part ty) {outer : List TypeId}
    (once : outer.Nodup) (inside : ∀ other ∈ outer, other.index < ctx.pool.size)
    (above : ∀ other ∈ outer, TransGen ctx.Part ty other) {depth depth' : Nat}
    (room : ctx.pool.size < depth + outer.length) (room' : ctx.pool.size < depth' + outer.length) :
    ctx.textWithin names depth ty = ctx.textWithin names depth' ty := by
  induction ends generalizing outer depth depth' with
  | intro ty ends ih =>
    have fewer := TypeId.length_le_of_nodup once inside
    obtain ⟨depth, rfl⟩ : ∃ fewer, depth = fewer + 1 := ⟨depth - 1, by omega⟩
    obtain ⟨depth', rfl⟩ : ∃ fewer, depth' = fewer + 1 := ⟨depth' - 1, by omega⟩
    rw [textWithin, textWithin]
    split
    · rfl
    · split
      · rfl
      · rename_i form found
        refine formText_congr fun inner member => ?_
        have part : ctx.Part inner ty := ⟨form, found, member⟩
        have new : ty ∉ outer := fun member => not_transGen_self ⟨ty, ends⟩ (above ty member)
        refine ih inner part (List.nodup_cons.2 ⟨new, once⟩) ?_ ?_ ?_ ?_
        · exact List.forall_mem_cons.2 ⟨TypePool.lt_size_of_form? found, inside⟩
        · exact List.forall_mem_cons.2 ⟨.single part, fun other member =>
            .head part (above other member)⟩
        · rw [List.length_cons]
          omega
        · rw [List.length_cons]
          omega

/-- A type that is built from its parts in finitely many steps is shown as its form says, over the
texts of its parts. -/
theorem display_eq {form : TypeForm} (ends : Acc ctx.Part ty) (plain : ty.primitiveName? = none)
    (found : ctx.pool.form? ty = some form) :
    ctx.display names ty = ctx.formText names (ctx.display names) form := by
  rw [display, textWithin, plain]
  simp only [found]
  refine formText_congr fun inner member => ?_
  have part : ctx.Part inner ty := ⟨form, found, member⟩
  have below := TypePool.lt_size_of_form? found
  refine textWithin_stable (ends.inv part) (List.nodup_singleton ty) ?_ ?_ ?_ ?_
  · exact List.forall_mem_singleton.2 below
  · exact List.forall_mem_singleton.2 (.single part)
  · exact Nat.lt_succ_self _
  · rw [List.length_singleton]
    omega

theorem display_primitive {name : String} (primitive : ty.primitiveName? = some name) :
    ctx.display names ty = name := by
  rw [display, textWithin, primitive]

end TypeContext

end FrontEnd
