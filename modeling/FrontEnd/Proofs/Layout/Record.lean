import FrontEnd.Proofs.Layout.Search

/-!
Layouts of records. The question for the members of a nominal type enters the search inside of the
type, so it finds what the question for the type finds, and fails where that fails.
-/

namespace FrontEnd

open Relation

/-- How a record is laid out: the types around, the parts, and what is made of their layouts. -/
structure RecordPlan where
  outer : List TypeId
  parts : List TypeId
  finish : List TypeLayout → RecordLayout

namespace TypeContext

variable {ctx : TypeContext} {ty : TypeId} {entry : TypeDef} {body : DefBody}

/-- The plan for the members of a definition with a body. -/
def recordPlanOf (ctx : TypeContext) (ty : TypeId) (body : DefBody) : DefKind → RecordPlan
  | .struct | .classType => ⟨[ctx.pool.unqualified ty],
      body.base.toList ++ body.members.map (·.type), .ofParts body.base.isSome⟩
  | .union => ⟨[ctx.pool.unqualified ty], body.members.map (·.type),
      fun parts => ⟨.overlay parts, body.members.map fun _ => 0⟩⟩
  | .enumeration | .interface => ⟨[], [ty], fun parts => ⟨parts.headD .empty, []⟩⟩

/-- The plan for the members of a type, or why there is none. -/
def recordPlan (ctx : TypeContext) (ty : TypeId) : Except TypeError RecordPlan :=
  match ctx.defOf ty with
  | .error err => .error err
  | .ok none => .error (.incompleteType ty)
  | .ok (some entry) => match entry.body with
    | none => .error (.incompleteType ty)
    | some body => .ok (ctx.recordPlanOf ty body entry.kind)

/-- The search that answers the question for the members of a type. -/
def recordSearch (ctx : TypeContext) (ty : TypeId) : LayoutM RecordLayout := do
  let plan ← ctx.recordPlan ty
  return plan.finish (← plan.parts.mapM (ctx.layoutWithin ctx.layoutDepth plan.outer))

theorem recordLayoutOf_eq (ctx : TypeContext) (ty : TypeId) :
    ctx.recordLayoutOf ty = ctx.runLayout (ctx.recordSearch ty) := by
  unfold recordLayoutOf recordSearch recordPlan
  cases ctx.defOf ty with
  | error err => rfl
  | ok found =>
    cases found with
    | none => rfl
    | some entry =>
      simp only [lift_ok, pure_bind]
      cases entry.body with
      | none => rfl
      | some body =>
        simp only [lift_ok, pure_bind]
        cases entry.kind with
        | struct | classType => simp only [recordParts_eq, recordPlanOf]
        | union => simp [unionParts_eq, recordPlanOf]
        | enumeration | interface => simp [recordPlanOf]

/-- What the question for a type is answered, and what is remembered after it. -/
theorem runLayout_eq (ctx : TypeContext) (search : LayoutM α) :
    ctx.runLayout search = ((outcome search ctx.layouts).1,
      { ctx with layouts := (outcome search ctx.layouts).2 }) := rfl

theorem room_alone (ctx : TypeContext) : ctx.Room ctx.layoutDepth [] :=
  ⟨List.nodup_nil, by simp, by simp [layoutDepth]⟩

theorem room_inside {outer : TypeId} (known : outer.index < ctx.pool.size) :
    ctx.Room ctx.layoutDepth [outer] :=
  ⟨List.nodup_singleton _, by simpa using known, by
    rw [layoutDepth, List.length_singleton]
    omega⟩

theorem recordPlan_room {plan : RecordPlan} (planned : ctx.recordPlan ty = .ok plan) :
    ctx.Room ctx.layoutDepth plan.outer := by
  have known : ∀ entry, ctx.defOf ty = .ok (some entry) →
      (ctx.pool.unqualified ty).index < ctx.pool.size := by
    intro entry behind
    unfold defOf TypePool.form at behind
    cases found : ctx.pool.form? (ctx.pool.unqualified ty) with
    | none =>
      rw [found] at behind
      cases behind
    | some form => exact TypePool.lt_size_of_form? found
  unfold recordPlan at planned
  split at planned
  · cases planned
  · cases planned
  · rename_i entry behind
    split at planned
    · cases planned
    · cases planned
      cases entry.kind with
      | struct | classType | union => exact room_inside (known entry behind)
      | enumeration | interface => exact room_alone ctx

/-- The question for the members is answered with the layouts of the parts, or there is a reason. -/
theorem recordSearch_finds (ctx : TypeContext) (ty : TypeId) :
    ctx.Finds
      (fun record => ∃ plan parts, ctx.recordPlan ty = .ok plan ∧
        List.Forall₂ ctx.Lays plan.parts parts ∧ record = plan.finish parts)
      (fun err => ctx.recordPlan ty = .error err ∨ ∃ plan part, ctx.recordPlan ty = .ok plan ∧
        part ∈ plan.parts ∧ ctx.Blames plan.outer part err)
      (ctx.recordSearch ty) := by
  unfold recordSearch
  cases planned : ctx.recordPlan ty with
  | error err => exact .throw (.inl rfl)
  | ok plan =>
    rw [lift_ok, pure_bind]
    have room := recordPlan_room planned
    refine .bind (.mapM fun part listed => (layoutWithin_finds room part).because fun err blames =>
      ?_) fun parts each => ?_
    · exact .inr ⟨plan, part, rfl, listed, blames⟩
    · exact .pure ⟨plan, parts, rfl, each, rfl⟩

end TypeContext

end FrontEnd
