import FrontEnd.Proofs.Layout.Derivation

/-!
The search for layouts. As long as what is remembered is right, the search finds the layout of a
type that has one, and otherwise blames a type that lies inside of it and lacks something or lies
inside of itself. The depth never runs out, and neither it nor what is remembered changes a result.
-/

namespace FrontEnd

open Relation

namespace TypeContext

variable {ctx after : TypeContext} {ty part : TypeId} {plan : LayoutPlan} {depth depth' : Nat}
  {outer : List TypeId} {layouts : Std.HashMap TypeId TypeLayout}

/-! ### What a search may answer -/

/-- Every layout that is remembered is the layout of its type. -/
def Remembered (ctx : TypeContext) (layouts : Std.HashMap TypeId TypeLayout) : Prop :=
  ∀ ty layout, layouts[ty]? = some layout → ctx.Lays ty layout

/-- Why a type has no layout inside of others: something inside of it has no plan, or is one of the
others, or lies inside of itself. -/
def Blames (ctx : TypeContext) (outer : List TypeId) (ty : TypeId) (err : TypeError) : Prop :=
  ∃ part, ReflTransGen ctx.Contains ty part ∧ (ctx.layoutPlan part = .error err ∨
    err = .infiniteSize part ∧ (part ∈ outer ∨ TransGen ctx.Contains part part))

/-- Who is to blame for a part is to blame for the whole. -/
theorem Blames.of_part {err : TypeError} (contains : ctx.Contains ty part)
    (blames : ctx.Blames (ty :: outer) part err) : ctx.Blames outer ty err := by
  obtain ⟨culprit, inside, refused | ⟨infinite, listed | cycle⟩⟩ := blames
  · exact ⟨culprit, inside.head contains, .inl refused⟩
  · rcases List.mem_cons.1 listed with rfl | further
    · exact ⟨culprit, .refl, .inr ⟨infinite, .inr (.head' contains inside)⟩⟩
    · exact ⟨culprit, inside.head contains, .inr ⟨infinite, .inl further⟩⟩
  · exact ⟨culprit, inside.head contains, .inr ⟨infinite, .inr cycle⟩⟩

/-- Types around the one that is searched for are only met again on a cycle. -/
theorem Blames.alone {err : TypeError} (around : ∀ around ∈ outer, TransGen ctx.Contains around ty)
    (blames : ctx.Blames outer ty err) : ctx.Blames [] ty err := by
  obtain ⟨culprit, inside, refused | ⟨infinite, listed | cycle⟩⟩ := blames
  · exact ⟨culprit, inside, .inl refused⟩
  · exact ⟨culprit, inside, .inr ⟨infinite, .inr ((around culprit listed).trans_left inside)⟩⟩
  · exact ⟨culprit, inside, .inr ⟨infinite, .inr cycle⟩⟩

/-- A type with a layout is not to blame. -/
theorem Lays.blameless {layout : TypeLayout} (lays : ctx.Lays ty layout) (err : TypeError) :
    ¬ctx.Blames [] ty err := by
  rintro ⟨part, inside, refused | ⟨-, listed | cycle⟩⟩
  · obtain ⟨_, derives⟩ := Derives.within lays inside
    exact derives.complete (lacks_iff.2 ⟨err, refused⟩)
  · simp at listed
  · obtain ⟨_, derives⟩ := Derives.within lays inside
    exact derives.acyclic cycle

/-- A result is good, or an error has a reason. -/
def Answers (good : α → Prop) (reason : TypeError → Prop) : Except TypeError α → Prop
  | .ok value => good value
  | .error err => reason err

/-- From what is remembered rightly, the search remembers rightly, gives only results that are good
and fails only for reasons. -/
def Finds (ctx : TypeContext) (good : α → Prop) (reason : TypeError → Prop) (search : LayoutM α) :
    Prop :=
  ∀ layouts, ctx.Remembered layouts → ctx.Remembered (outcome search layouts).2 ∧
    Answers good reason (outcome search layouts).1

namespace Finds

variable {good : α → Prop} {good' : β → Prop} {reason reason' : TypeError → Prop}
  {search : LayoutM α} {rest : α → LayoutM β}

theorem pure {value : α} (fine : good value) : ctx.Finds good reason (pure value) :=
  fun _ right => ⟨right, fine⟩

theorem throw {err : TypeError} (given : reason err) :
    ctx.Finds good reason (throw err : LayoutM α) :=
  fun _ right => ⟨right, given⟩

theorem bind (first : ctx.Finds good reason search)
    (second : ∀ value, good value → ctx.Finds good' reason (rest value)) :
    ctx.Finds good' reason (search >>= rest) := by
  intro layouts right
  obtain ⟨right', answers⟩ := first layouts right
  rw [outcome_bind]
  generalize outcome search layouts = found at right' answers ⊢
  obtain ⟨err | value, layouts'⟩ := found
  · exact ⟨right', answers⟩
  · exact second value answers layouts' right'

theorem because (finds : ctx.Finds good reason search)
    (clearer : ∀ err, reason err → reason' err) : ctx.Finds good reason' search := by
  intro layouts right
  obtain ⟨right', answers⟩ := finds layouts right
  refine ⟨right', ?_⟩
  generalize (outcome search layouts).1 = answer at answers ⊢
  cases answer with
  | error err => exact clearer err answers
  | ok value => exact answers

theorem mapM {good : TypeId → α → Prop} {search : TypeId → LayoutM α} {types : List TypeId}
    (each : ∀ ty ∈ types, ctx.Finds (good ty) reason (search ty)) :
    ctx.Finds (List.Forall₂ good types) reason (types.mapM search) := by
  induction types with
  | nil => exact pure .nil
  | cons ty rest ih =>
    rw [List.mapM_cons]
    refine bind (each ty (by simp)) fun value fine => ?_
    exact bind (ih fun other listed => each other (by simp [listed])) fun values all =>
      pure (.cons fine all)

end Finds

/-! ### There is room for every part -/

/-- The types around are different types of the pool, and there is enough depth for all types of
the pool that are not among them. -/
structure Room (ctx : TypeContext) (depth : Nat) (outer : List TypeId) : Prop where
  once : outer.Nodup
  known : ∀ around ∈ outer, around.index < ctx.pool.size
  enough : ctx.pool.size < depth + outer.length

theorem Room.depth_pos (room : ctx.Room depth outer) : 0 < depth := by
  have fewer := TypeId.length_le_of_nodup room.once room.known
  have enough := room.enough
  omega

theorem lt_size_of_layoutPlan (planned : ctx.layoutPlan ty = .ok plan) :
    ty.index < ctx.pool.size := by
  cases found : ctx.pool.form? ty with
  | none => simp [layoutPlan, found] at planned
  | some form => exact TypePool.lt_size_of_form? found

/-- There is room for the parts of a type with a plan. -/
theorem Room.inward (room : ctx.Room (depth + 1) outer) (outside : ty ∉ outer)
    (planned : ctx.layoutPlan ty = .ok plan) : ctx.Room depth (ty :: outer) := by
  refine ⟨List.nodup_cons.2 ⟨outside, room.once⟩, ?_, ?_⟩
  · rintro around (_ | ⟨_, further⟩)
    · exact lt_size_of_layoutPlan planned
    · exact room.known around further
  · have enough := room.enough
    simp only [List.length_cons]
    omega

/-- What one turn of the search comes to. -/
theorem outcome_layoutWithin (depth : Nat) (outer : List TypeId) (ty : TypeId)
    (layouts : Std.HashMap TypeId TypeLayout) :
    outcome (ctx.layoutWithin (depth + 1) outer ty) layouts =
      match layouts[ty]? with
      | some layout => (.ok layout, layouts)
      | none =>
        if ty ∈ outer then (.error (.infiniteSize ty), layouts)
        else outcome (ctx.layoutStep ty (ctx.layoutWithin depth (ty :: outer)) >>= fun layout => do
          modify (·.insert ty layout)
          return layout) layouts := by
  unfold layoutWithin
  rw [outcome_get_bind]
  cases layouts[ty]? with
  | some layout => rfl
  | none =>
    dsimp only
    split <;> rfl

/-- Remembering a layout does not change the answer. -/
theorem outcome_kept (search : LayoutM TypeLayout) (ty : TypeId)
    (layouts : Std.HashMap TypeId TypeLayout) :
    (outcome (search >>= fun layout => do
      modify (·.insert ty layout)
      return layout) layouts).1 = (outcome search layouts).1 := by
  rw [outcome_bind]
  rcases outcome search layouts with ⟨err | layout, layouts'⟩ <;> rfl

theorem remembered_insert {layout : TypeLayout} (right : ctx.Remembered layouts)
    (lays : ctx.Lays ty layout) : ctx.Remembered (layouts.insert ty layout) := by
  intro other found same
  rw [Std.HashMap.getElem?_insert] at same
  split at same
  · rename_i equal
    cases same
    exact eq_of_beq equal ▸ lays
  · exact right other found same

/-- A step finds the layout if the search inside finds the layouts of the parts. -/
theorem layoutStep_finds {layout : TypeId → LayoutM TypeLayout}
    (inside : ∀ plan, ctx.layoutPlan ty = .ok plan → ∀ part ∈ plan.parts,
      ctx.Finds (ctx.Lays part) (ctx.Blames (ty :: outer) part) (layout part)) :
    ctx.Finds (ctx.Lays ty) (ctx.Blames outer ty) (ctx.layoutStep ty layout) := by
  rw [layoutStep_eq]
  cases planned : ctx.layoutPlan ty with
  | error err => exact .throw ⟨ty, .refl, .inl planned⟩
  | ok plan =>
    rw [lift_ok, pure_bind]
    have parts : ctx.Finds (List.Forall₂ ctx.Lays plan.parts) (ctx.Blames outer ty)
        (plan.parts.mapM layout) := by
      refine .mapM fun part listed => (inside plan planned part listed).because ?_
      exact fun err blames => blames.of_part (contains_iff.2 ⟨plan, planned, listed⟩)
    exact parts.bind fun values each => .pure (Derives.ofParts planned each)

/-- The search finds the layout of a type, or who is to blame that there is none. -/
theorem layoutWithin_finds (room : ctx.Room depth outer) (ty : TypeId) :
    ctx.Finds (ctx.Lays ty) (ctx.Blames outer ty) (ctx.layoutWithin depth outer ty) := by
  induction depth generalizing outer ty with
  | zero => exact absurd room.depth_pos (Nat.lt_irrefl 0)
  | succ depth ih =>
    intro layouts right
    rw [outcome_layoutWithin]
    cases found : layouts[ty]? with
    | some layout => exact Finds.pure (right ty layout found) layouts right
    | none =>
      dsimp only
      split
      · rename_i inside
        exact Finds.throw ⟨ty, .refl, .inr ⟨rfl, .inl inside⟩⟩ layouts right
      · rename_i outside
        have step : ctx.Finds (ctx.Lays ty) (ctx.Blames outer ty)
            (ctx.layoutStep ty (ctx.layoutWithin depth (ty :: outer))) :=
          layoutStep_finds fun plan planned part _ => ih (room.inward outside planned) part
        refine Finds.bind step (fun layout lays => ?_) layouts right
        exact fun layouts right => ⟨remembered_insert right lays, lays⟩

/-! ### Only the type decides -/

/-- Two searches answer alike, whatever they remember rightly, and keep remembering rightly. -/
def Alike (ctx : TypeContext) (first second : LayoutM α) : Prop :=
  ∀ layouts layouts', ctx.Remembered layouts → ctx.Remembered layouts' →
    (outcome first layouts).1 = (outcome second layouts').1 ∧
      ctx.Remembered (outcome first layouts).2 ∧ ctx.Remembered (outcome second layouts').2

namespace Alike

theorem pure (value : α) : ctx.Alike (pure value) (pure value) :=
  fun _ _ right right' => ⟨rfl, right, right'⟩

theorem throw (err : TypeError) : ctx.Alike (throw err : LayoutM α) (throw err) :=
  fun _ _ right right' => ⟨rfl, right, right'⟩

theorem bind {first second : LayoutM α} {rest rest' : α → LayoutM β}
    (searched : ctx.Alike first second) (following : ∀ value, ctx.Alike (rest value) (rest' value)) :
    ctx.Alike (first >>= rest) (second >>= rest') := by
  intro layouts layouts' right right'
  obtain ⟨same, next, next'⟩ := searched layouts layouts' right right'
  rw [outcome_bind, outcome_bind]
  generalize outcome first layouts = left at same next ⊢
  generalize outcome second layouts' = other at same next' ⊢
  rcases left with ⟨err | value, left⟩ <;> rcases other with ⟨err' | value', other⟩ <;> cases same
  · exact ⟨rfl, next, next'⟩
  · exact following value left other next next'

theorem mapM {types : List TypeId} {search search' : TypeId → LayoutM α}
    (each : ∀ ty ∈ types, ctx.Alike (search ty) (search' ty)) :
    ctx.Alike (types.mapM search) (types.mapM search') := by
  induction types with
  | nil => exact pure []
  | cons ty rest ih =>
    rw [List.mapM_cons, List.mapM_cons]
    refine bind (each ty (by simp)) fun value => ?_
    exact bind (ih fun other listed => each other (by simp [listed])) fun values => pure _

end Alike

/-- Where the search stands: with room for what is inside, and with each of the types around
holding the type that is searched for. -/
structure Trail (ctx : TypeContext) (depth : Nat) (outer : List TypeId) (ty : TypeId) : Prop where
  room : ctx.Room depth outer
  around : ∀ around ∈ outer, TransGen ctx.Contains around ty

theorem Trail.inward (trail : ctx.Trail (depth + 1) outer ty) (outside : ty ∉ outer)
    (planned : ctx.layoutPlan ty = .ok plan) (listed : part ∈ plan.parts) :
    ctx.Trail depth (ty :: outer) part := by
  have contains : ctx.Contains ty part := contains_iff.2 ⟨plan, planned, listed⟩
  refine ⟨trail.room.inward outside planned, ?_⟩
  rintro around (_ | ⟨_, further⟩)
  · exact .single contains
  · exact (trail.around around further).tail contains

/-- The search finds every layout that there is. -/
theorem layoutWithin_complete {layout : TypeLayout} (trail : ctx.Trail depth outer ty)
    (right : ctx.Remembered layouts) (lays : ctx.Lays ty layout) :
    (outcome (ctx.layoutWithin depth outer ty) layouts).1 = .ok layout := by
  obtain ⟨-, answers⟩ := layoutWithin_finds trail.room ty layouts right
  cases answer : (outcome (ctx.layoutWithin depth outer ty) layouts).1 with
  | error err =>
    rw [answer] at answers
    exact absurd (answers.alone trail.around) (lays.blameless err)
  | ok found =>
    rw [answer] at answers
    rw [Derives.unique answers lays]

end TypeContext

end FrontEnd
