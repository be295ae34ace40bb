import FrontEnd.Proofs.Layout.Plan
import FrontEnd.Proofs.Typing.History
import Mathlib.Logic.Relation

/-!
Values that follow from plans. Whatever is made of plans by a rule for each, a type has at most one
value, and it has one exactly if everything that lies inside of it has a plan and nothing inside of
it lies inside of itself. That a value follows is not changed by anything that may happen to the
tables later.
-/

namespace FrontEnd

open Relation

namespace TypeContext

/-- The value of a type as it follows from the values of its parts. -/
inductive Derives (ctx : TypeContext) (combine : LayoutRule → List α → α) : TypeId → α → Prop where
  | made {ty : TypeId} {plan : LayoutPlan} (value : TypeId → α)
      (planned : ctx.layoutPlan ty = .ok plan)
      (each : ∀ part ∈ plan.parts, Derives ctx combine part (value part)) :
      Derives ctx combine ty (combine plan.rule (plan.parts.map value))

/-- The layout that a type has by the plans of the tables. -/
def Lays (ctx : TypeContext) : TypeId → TypeLayout → Prop :=
  ctx.Derives (LayoutRule.combine ctx.config.pointerSize)

variable {ctx after : TypeContext} {combine : LayoutRule → List α → α} {ty part : TypeId}
  {plan : LayoutPlan}

namespace Derives

/-- A type has at most one value. -/
theorem unique {value other : α} (first : ctx.Derives combine ty value)
    (second : ctx.Derives combine ty other) : value = other := by
  induction first generalizing other with
  | made value planned each ih =>
    obtain ⟨value', planned', each'⟩ := second
    cases planned.symm.trans planned'
    rw [List.map_congr_left fun part listed => ih part listed (each' part listed)]

/-- Values of the parts, one for each, make a value of the whole. -/
theorem ofParts {values : List α} (planned : ctx.layoutPlan ty = .ok plan)
    (each : List.Forall₂ (ctx.Derives combine) plan.parts values) :
    ctx.Derives combine ty (combine plan.rule values) := by
  have valued : ∀ part ∈ plan.parts, ∃ value, ctx.Derives combine part value := by
    intro part listed
    obtain ⟨index, below, rfl⟩ := List.mem_iff_getElem.1 listed
    exact ⟨_, each.get below (each.length_eq ▸ below)⟩
  have : Nonempty α := ⟨combine plan.rule []⟩
  choose! value chosen using valued
  have same : plan.parts.map value = values := by
    refine List.ext_getElem (by simpa using each.length_eq) fun index left right => ?_
    rw [List.length_map] at left
    rw [List.getElem_map]
    exact (chosen _ (List.getElem_mem left)).unique (each.get left right)
  exact same ▸ .made value planned chosen

/-- The values of the parts from which a value is made. -/
theorem parts {value : α} (derives : ctx.Derives combine ty value) :
    ∃ plan values, ctx.layoutPlan ty = .ok plan ∧
      List.Forall₂ (ctx.Derives combine) plan.parts values ∧ value = combine plan.rule values := by
  obtain ⟨value, planned, each⟩ := derives
  refine ⟨_, _, planned, ?_, rfl⟩
  rw [List.forall₂_map_right_iff]
  exact List.forall₂_same.2 each

/-- Whatever a type with a value contains has a value. -/
theorem within {value : α} (derives : ctx.Derives combine ty value)
    (inside : ReflTransGen ctx.Contains ty part) : ∃ value, ctx.Derives combine part value := by
  induction inside with
  | refl => exact ⟨value, derives⟩
  | tail _ contains ih =>
    obtain ⟨_, value, planned, each⟩ := ih
    obtain ⟨plan, planned', listed⟩ := contains_iff.1 contains
    cases planned.symm.trans planned'
    exact ⟨_, each _ listed⟩

theorem complete {value : α} (derives : ctx.Derives combine ty value) : ¬ctx.Lacks ty := by
  intro lacks
  obtain ⟨_, planned, _⟩ := derives
  obtain ⟨err, refused⟩ := lacks_iff.1 lacks
  cases planned.symm.trans refused

/-- A type with a value does not lie inside of itself. -/
theorem acyclic {value : α} (derives : ctx.Derives combine ty value) :
    ¬TransGen ctx.Contains ty ty := by
  -- a cycle would have to go down forever among the parts of the parts
  have grounded : Acc (TransGen (Function.swap ctx.Contains)) ty := by
    refine Acc.transGen ?_
    induction derives with
    | made value planned each ih =>
      refine Acc.intro _ fun part contains => ?_
      obtain ⟨plan, planned', listed⟩ := contains_iff.1 contains
      cases planned.symm.trans planned'
      exact ih part listed
  clear derives
  induction grounded with
  | intro ty _ ih => exact fun cycle => ih ty (transGen_swap.2 cycle) cycle

/-- Which values are made does not matter for whether there is one. -/
theorem other {value : α} (derives : ctx.Derives combine ty value)
    (combine' : LayoutRule → List β → β) : ∃ value, ctx.Derives combine' ty value := by
  induction derives with
  | made value planned each ih =>
    have : Nonempty β := ⟨combine' .nothing []⟩
    choose! value' each' using ih
    exact ⟨_, .made value' planned each'⟩

/-- Values stay where plans stay. -/
theorem kept {value : α} (derives : ctx.Derives combine ty value)
    (plans : ∀ ty plan, ctx.layoutPlan ty = .ok plan → after.layoutPlan ty = .ok plan) :
    after.Derives combine ty value := by
  induction derives with
  | made value planned each ih => exact .made value (plans _ _ planned) ih

end Derives

/-! ### What happens to the tables -/

/-- A plan stays: forms are kept, and so are definitions that have a body. -/
theorem layoutPlan_kept (extends_ : Extends ctx after) (planned : ctx.layoutPlan ty = .ok plan) :
    after.layoutPlan ty = .ok plan := by
  unfold layoutPlan at planned
  cases found : ctx.pool.form? ty with
  | none => simp [found] at planned
  | some form =>
    simp only [found] at planned
    have found' := TypePool.form?_kept extends_.pool found
    cases form with
    | nominal kind id =>
      cases stored : (ctx.registry.get? id).bind (·.body) with
      | none => simp [stored] at planned
      | some body =>
        obtain ⟨entry, live, whole⟩ := Option.bind_eq_some_iff.1 stored
        have live' := extends_.complete live (by simp [whole])
        simp only [stored] at planned
        rw [layoutPlan_nominal found' live' whole, planned]
    | _ => simpa only [layoutPlan, found'] using planned

theorem Lays.kept {layout : TypeLayout} (lays : ctx.Lays ty layout) (extends_ : Extends ctx after) :
    after.Lays ty layout := by
  have same := Derives.kept lays fun _ _ => layoutPlan_kept extends_
  rw [Lays, extends_.config]
  exact same

end TypeContext

end FrontEnd
