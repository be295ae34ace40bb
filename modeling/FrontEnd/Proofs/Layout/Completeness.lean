import FrontEnd.Proofs.Layout.Record
import FrontEnd.Proofs.Typing.Living

/-!
Complete types. A nominal type is complete if the definition behind it is live and has a body.
Whatever is laid out and whatever is remembered, no such type is blamed for being incomplete.
-/

namespace FrontEnd

namespace TypeContext

variable {ctx : TypeContext} {ty other : TypeId}

/-- The type is nominal, and the definition behind it is live and has a body. -/
def Complete (ctx : TypeContext) (ty : TypeId) : Prop :=
  ∃ entry, ctx.defOf ty = .ok (some entry) ∧ ctx.registry.get? entry.id = some entry ∧
    entry.body.isSome

/-- A nominal type that lives is complete where every live definition has a body. -/
theorem Lives.complete (lives : ctx.Lives ty) (indexed : ctx.Indexed) (whole : ctx.Whole)
    {kind : DefKind} {id : DefId}
    (nominal : ctx.pool.form? (ctx.pool.unqualified ty) = some (.nominal kind id)) :
    ctx.Complete ty := by
  obtain ⟨entry, live, behind⟩ := lives.defOf indexed nominal
  refine ⟨entry, behind, ?_, whole id entry live⟩
  rw [(indexed.defs id entry live).1]
  exact live

theorem Complete.not_lacks (complete : ctx.Complete ty) : ¬ctx.Lacks ty := by
  obtain ⟨entry, behind, -, whole⟩ := complete
  intro lacks
  cases lacks with
  | body found bare =>
    rw [defOf_nominal found] at behind
    rw [bare entry (Except.ok.inj behind)] at whole
    cases whole
  | foreign found | param found | error found | int found | float found =>
    simp [defOf, TypePool.unqualified, TypePool.split, TypePool.form, found,
      Bind.bind, Except.bind, pure, Except.pure] at behind

/-- Only a type that lacks something is refused a plan as incomplete. -/
theorem Complete.planned (complete : ctx.Complete ty) (other : TypeId) :
    ctx.layoutPlan other ≠ .error (.incompleteType ty) := by
  intro refused
  have same : other = ty := by
    unfold layoutPlan at refused
    repeat' split at refused
    all_goals cases refused
    all_goals rfl
  exact complete.not_lacks (lacks_iff.2 ⟨_, same ▸ refused⟩)

theorem Complete.recordPlanned (complete : ctx.Complete ty) (other : TypeId) :
    ctx.recordPlan other ≠ .error (.incompleteType ty) := by
  obtain ⟨entry, behind, -, whole⟩ := complete
  intro refused
  unfold recordPlan at refused
  split at refused
  · rename_i err failed
    cases refused
    unfold defOf TypePool.form at failed
    cases found : ctx.pool.form? (ctx.pool.unqualified other) with
    | none =>
      rw [found] at failed
      cases failed
    | some form =>
      rw [found] at failed
      cases form <;> cases failed
  · rename_i none_
    cases refused
    cases behind.symm.trans none_
  · rename_i own behind'
    split at refused
    · rename_i bare
      cases refused
      cases behind.symm.trans behind'
      rw [bare] at whole
      cases whole
    · cases refused

/-! ### Reasons -/

/-- Whatever is remembered, the search fails only for such reasons. -/
def FailsFor (reason : TypeError → Prop) (search : LayoutM α) : Prop :=
  ∀ layouts err, (outcome search layouts).1 = .error err → reason err

section

variable {reason : TypeError → Prop} {search : LayoutM α} {rest : α → LayoutM β}

theorem failsFor_pure (value : α) : FailsFor reason (pure value : LayoutM α) :=
  fun _ _ failed => by cases failed

theorem failsFor_throw {err : TypeError} (given : reason err) :
    FailsFor reason (throw err : LayoutM α) := by
  intro layouts other failed
  cases failed
  exact given

theorem failsFor_bind (first : FailsFor reason search) (second : ∀ value, FailsFor reason (rest value)) :
    FailsFor reason (search >>= rest) := by
  intro layouts err failed
  rw [outcome_bind] at failed
  rcases ran : outcome search layouts with ⟨own | value, middle⟩
  · rw [ran] at failed
    cases failed
    exact first layouts err (congrArg Prod.fst ran)
  · rw [ran] at failed
    exact second value middle err failed

theorem failsFor_mapM {search : TypeId → LayoutM α} (each : ∀ ty, FailsFor reason (search ty))
    (types : List TypeId) : FailsFor reason (types.mapM search) := by
  induction types with
  | nil => exact failsFor_pure []
  | cons ty rest ih =>
    rw [List.mapM_cons]
    exact failsFor_bind (each ty) fun first => failsFor_bind ih fun others => failsFor_pure _

end

/-- Either some type has no plan for that reason, or some type lies inside of itself. -/
def Refuses (ctx : TypeContext) (err : TypeError) : Prop :=
  ∃ ty, ctx.layoutPlan ty = .error err ∨ err = .infiniteSize ty

theorem layoutWithin_failsFor (ctx : TypeContext) (depth : Nat) (outer : List TypeId) (ty : TypeId) :
    FailsFor ctx.Refuses (ctx.layoutWithin depth outer ty) := by
  induction depth generalizing outer ty with
  | zero => exact failsFor_throw ⟨ty, .inr rfl⟩
  | succ depth ih =>
    have step : FailsFor ctx.Refuses (ctx.layoutStep ty (ctx.layoutWithin depth (ty :: outer))) := by
      rw [layoutStep_eq]
      cases planned : ctx.layoutPlan ty with
      | error err => exact failsFor_throw ⟨ty, .inl planned⟩
      | ok plan =>
        rw [lift_ok, pure_bind]
        exact failsFor_bind (failsFor_mapM (ih (ty :: outer)) plan.parts) fun _ => failsFor_pure _
    intro layouts err failed
    rw [outcome_layoutWithin] at failed
    split at failed
    · cases failed
    · split at failed
      · cases failed
        exact ⟨ty, .inr rfl⟩
      · rw [outcome_kept] at failed
        exact step layouts err failed

/-- The question for the layout of no type is answered that a complete type is incomplete. -/
theorem Complete.layoutOf (complete : ctx.Complete ty) (other : TypeId) :
    (ctx.layoutOf other).1 ≠ .error (.incompleteType ty) := by
  intro failed
  obtain ⟨part, refused | wrong⟩ := layoutWithin_failsFor ctx ctx.layoutDepth [] other ctx.layouts
    _ failed
  · exact complete.planned part refused
  · cases wrong

theorem Complete.recordLayoutOf (complete : ctx.Complete ty) (other : TypeId) :
    (ctx.recordLayoutOf other).1 ≠ .error (.incompleteType ty) := by
  have search : FailsFor (fun err => ctx.recordPlan other = .error err ∨ ctx.Refuses err)
      (ctx.recordSearch other) := by
    unfold recordSearch
    cases planned : ctx.recordPlan other with
    | error err => exact failsFor_throw (.inl rfl)
    | ok plan =>
      rw [lift_ok, pure_bind]
      have parts := failsFor_mapM (layoutWithin_failsFor ctx ctx.layoutDepth plan.outer) plan.parts
      exact failsFor_bind (fun layouts err failed => .inr (parts layouts err failed))
        fun _ => failsFor_pure _
  intro failed
  rw [recordLayoutOf_eq] at failed
  rcases search ctx.layouts _ failed with refused | ⟨part, refused | wrong⟩
  · exact complete.recordPlanned other refused
  · exact complete.planned part refused
  · cases wrong

end TypeContext

end FrontEnd
