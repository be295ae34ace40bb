import FrontEnd.Proofs.Outcome
import FrontEnd.Typing.Layout

/-!
What the layout of a type is made of. The plan of a type names the types that lie inside of it, in
the order of search, and the rule that puts their layouts together. A type that lacks something has
no plan. The search for layouts follows plans and does nothing else.
-/

namespace FrontEnd

/-- How the layout of a type follows from those of its parts. -/
inductive LayoutRule where
  | nothing
  | scalar (bytes : Nat)
  | pointer
  /-- Two pointers. -/
  | pair
  | array (length : Nat)
  /-- As the only part. -/
  | same
  /-- Members one behind the other. If the record is based, the first part is the base class. -/
  | record (based : Bool)
  | union

/-- The parts of a type, and what is made of their layouts. -/
structure LayoutPlan where
  rule : LayoutRule
  parts : List TypeId

namespace RecordLayout

/-- The layout of the base: that of the first part if the record is based. -/
def baseOf (based : Bool) (parts : List TypeLayout) : TypeLayout :=
  if based then parts.headD .empty else .empty

/-- The layouts of the members. -/
def membersOf (based : Bool) (parts : List TypeLayout) : List TypeLayout :=
  if based then parts.tail else parts

/-- The record of the layouts of its parts. -/
def ofParts (based : Bool) (parts : List TypeLayout) : RecordLayout :=
  place (baseOf based parts).size (baseOf based parts).align (membersOf based parts)

end RecordLayout

/-- What a rule makes of the layouts of the parts. -/
def LayoutRule.combine (pointer : UInt64) : LayoutRule → List TypeLayout → TypeLayout
  | .nothing, _ => .empty
  | .scalar bytes, _ => .scalar (UInt64.ofNat bytes)
  | .pointer, _ => .scalar pointer
  | .pair, _ => ⟨2 * pointer, pointer⟩
  | .array length, parts => ⟨sizeMul (parts.headD .empty).size length, (parts.headD .empty).align⟩
  | .same, parts => parts.headD .empty
  | .record based, parts => (RecordLayout.ofParts based parts).layout
  | .union, parts => .overlay parts

/-- The plan of a nominal type of some kind. A union has no base class. -/
def DefBody.layoutPlan (body : DefBody) : DefKind → LayoutPlan
  | .enumeration => ⟨.same, [body.indexType.getD .i32]⟩
  | .interface => ⟨.pair, []⟩
  | .struct | .classType =>
    ⟨.record body.base.isSome, body.base.toList ++ body.members.map (·.type)⟩
  | .union => ⟨.union, body.members.map (·.type)⟩

namespace TypeContext

/-- The widths in bits for which there are numbers. -/
def numberWidths : List Nat := [8, 16, 32, 64, 128]

/-- The plan of a type, or why it has none. -/
def layoutPlan (ctx : TypeContext) (ty : TypeId) : Except TypeError LayoutPlan :=
  match ctx.pool.form? ty with
  | none => .error (.foreignType ty)
  | some form => match form with
    | .void => .ok ⟨.nothing, []⟩
    | .bool => .ok ⟨.scalar 1, []⟩
    | .int bits _ | .float bits =>
      if bits ∈ numberWidths then .ok ⟨.scalar (bits / 8), []⟩
      else .error (.unsupportedWidth ty bits)
    | .pointer _ | .function .. => .ok ⟨.pointer, []⟩
    | .slice _ => .ok ⟨.pair, []⟩
    | .array element length => .ok ⟨.array length, [element]⟩
    | .qualified base _ => .ok ⟨.same, [base]⟩
    | .param .. | .error => .error (.incompleteType ty)
    | .nominal kind id => match (ctx.registry.get? id).bind (·.body) with
      | none => .error (.incompleteType ty)
      | some body => .ok (body.layoutPlan kind)

variable {ctx : TypeContext} {ty part : TypeId} {plan : LayoutPlan} {err : TypeError}

/-! ### Plans read off the tables -/

/-- A value of the one type holds a value of the other, and not only a reference to one. -/
inductive Contains (ctx : TypeContext) : TypeId → TypeId → Prop where
  | element {ty element : TypeId} {length : Nat}
      (found : ctx.pool.form? ty = some (.array element length)) : Contains ctx ty element
  | unqualified {ty base : TypeId} {quals : Qualifiers}
      (found : ctx.pool.form? ty = some (.qualified base quals)) : Contains ctx ty base
  | index {ty : TypeId} {id : DefId} {entry : TypeDef} {body : DefBody}
      (found : ctx.pool.form? ty = some (.nominal .enumeration id))
      (live : ctx.registry.get? id = some entry) (whole : entry.body = some body) :
      Contains ctx ty (body.indexType.getD .i32)
  | base {ty base : TypeId} {kind : DefKind} {id : DefId} {entry : TypeDef} {body : DefBody}
      (found : ctx.pool.form? ty = some (.nominal kind id))
      (record : kind = .struct ∨ kind = .classType)
      (live : ctx.registry.get? id = some entry) (whole : entry.body = some body)
      (derived : body.base = some base) : Contains ctx ty base
  | member {ty : TypeId} {kind : DefKind} {id : DefId} {entry : TypeDef} {body : DefBody}
      {member : Member} (found : ctx.pool.form? ty = some (.nominal kind id))
      (aggregate : kind = .struct ∨ kind = .classType ∨ kind = .union)
      (live : ctx.registry.get? id = some entry) (whole : entry.body = some body)
      (listed : member ∈ body.members) : Contains ctx ty member.type

/-- The type has no values of known size: it is a template parameter, the error type, a number of a
width that there is not, a nominal type without a body, or none of the pool's types. -/
inductive Lacks (ctx : TypeContext) (ty : TypeId) : Prop where
  | foreign (unknown : ctx.pool.form? ty = none)
  | param {template : TemplateId} {index : Nat}
      (found : ctx.pool.form? ty = some (.param template index))
  | error (found : ctx.pool.form? ty = some .error)
  | int {bits : Nat} {signed : Bool} (found : ctx.pool.form? ty = some (.int bits signed))
      (unsupported : bits ∉ numberWidths)
  | float {bits : Nat} (found : ctx.pool.form? ty = some (.float bits))
      (unsupported : bits ∉ numberWidths)
  | body {kind : DefKind} {id : DefId} (found : ctx.pool.form? ty = some (.nominal kind id))
      (bare : ∀ entry, ctx.registry.get? id = some entry → entry.body = none)

theorem layoutPlan_nominal {kind : DefKind} {id : DefId} {entry : TypeDef} {body : DefBody}
    (found : ctx.pool.form? ty = some (.nominal kind id))
    (live : ctx.registry.get? id = some entry) (whole : entry.body = some body) :
    ctx.layoutPlan ty = .ok (body.layoutPlan kind) := by
  simp [layoutPlan, found, live, whole]

/-- The parts of a plan are what the type contains. -/
theorem contains_iff :
    ctx.Contains ty part ↔ ∃ plan, ctx.layoutPlan ty = .ok plan ∧ part ∈ plan.parts := by
  constructor
  · intro contains
    cases contains with
    | element found => exact ⟨_, by simp only [layoutPlan, found]; rfl, List.mem_singleton.2 rfl⟩
    | unqualified found => exact ⟨_, by simp only [layoutPlan, found]; rfl, List.mem_singleton.2 rfl⟩
    | index found live whole =>
      exact ⟨_, layoutPlan_nominal found live whole, by simp [DefBody.layoutPlan]⟩
    | base found record live whole derived =>
      refine ⟨_, layoutPlan_nominal found live whole, ?_⟩
      rcases record with rfl | rfl <;> simp [DefBody.layoutPlan, derived]
    | member found aggregate live whole listed =>
      refine ⟨_, layoutPlan_nominal found live whole, ?_⟩
      have mapped := List.mem_map_of_mem (f := Member.type) listed
      rcases aggregate with rfl | rfl | rfl <;> simp_all [DefBody.layoutPlan]
  · rintro ⟨plan, planned, listed⟩
    unfold layoutPlan at planned
    cases found : ctx.pool.form? ty with
    | none => simp [found] at planned
    | some form =>
      cases form with
      | array element length =>
        simp only [found, Except.ok.injEq] at planned
        subst planned
        rw [List.mem_singleton.1 listed]
        exact .element found
      | qualified base quals =>
        simp only [found, Except.ok.injEq] at planned
        subst planned
        rw [List.mem_singleton.1 listed]
        exact .unqualified found
      | int bits signed | float bits =>
        simp only [found] at planned
        split at planned <;> cases planned
        simp at listed
      | nominal kind id =>
        simp only [found] at planned
        cases stored : (ctx.registry.get? id).bind (·.body) with
        | none => simp [stored] at planned
        | some body =>
          obtain ⟨entry, live, whole⟩ := Option.bind_eq_some_iff.1 stored
          simp only [stored, Except.ok.injEq] at planned
          subst planned
          cases kind with
          | enumeration =>
            rw [List.mem_singleton.1 listed]
            exact .index found live whole
          | interface => simp [DefBody.layoutPlan] at listed
          | struct =>
            rcases List.mem_append.1 listed with first | later
            · exact .base found (.inl rfl) live whole (Option.mem_toList.1 first)
            · obtain ⟨member, present, rfl⟩ := List.mem_map.1 later
              exact .member found (.inl rfl) live whole present
          | classType =>
            rcases List.mem_append.1 listed with first | later
            · exact .base found (.inr rfl) live whole (Option.mem_toList.1 first)
            · obtain ⟨member, present, rfl⟩ := List.mem_map.1 later
              exact .member found (.inr (.inl rfl)) live whole present
          | union =>
            obtain ⟨member, present, rfl⟩ := List.mem_map.1 listed
            exact .member found (.inr (.inr rfl)) live whole present
      | _ =>
        simp only [found] at planned
        cases planned <;> simp at listed

/-- A type has no plan exactly if it lacks something. -/
theorem lacks_iff : ctx.Lacks ty ↔ ∃ err, ctx.layoutPlan ty = .error err := by
  constructor
  · intro lacks
    cases lacks with
    | foreign unknown => exact ⟨.foreignType ty, by simp only [layoutPlan, unknown]⟩
    | param found => exact ⟨.incompleteType ty, by simp only [layoutPlan, found]⟩
    | error found => exact ⟨.incompleteType ty, by simp only [layoutPlan, found]⟩
    | int found unsupported | float found unsupported =>
      exact ⟨_, by simp only [layoutPlan, found, if_neg unsupported]; rfl⟩
    | body found bare =>
      have bodiless := Option.bind_eq_none_iff.2 bare
      exact ⟨.incompleteType ty, by simp only [layoutPlan, found, bodiless]⟩
  · rintro ⟨err, refused⟩
    unfold layoutPlan at refused
    cases found : ctx.pool.form? ty with
    | none => exact .foreign found
    | some form =>
      cases form with
      | param template index => exact .param found
      | error => exact .error found
      | int bits signed =>
        simp only [found] at refused
        split at refused
        · cases refused
        · rename_i unsupported
          exact .int found unsupported
      | float bits =>
        simp only [found] at refused
        split at refused
        · cases refused
        · rename_i unsupported
          exact .float found unsupported
      | nominal kind id =>
        refine .body found fun entry live => ?_
        cases whole : entry.body with
        | none => rfl
        | some body => simp [found, live, whole] at refused
      | _ => simp [found] at refused

theorem defOf_nominal {kind : DefKind} {id : DefId}
    (found : ctx.pool.form? ty = some (.nominal kind id)) :
    ctx.defOf ty = .ok (ctx.registry.get? id) := by
  have plain : ctx.pool.unqualified ty = ty := by
    simp [TypePool.unqualified, TypePool.split, found]
  simp [defOf, plain, TypePool.form, found, bind, Except.bind, pure, Except.pure]

theorem bodyOf_nominal {kind : DefKind} {id : DefId}
    (found : ctx.pool.form? ty = some (.nominal kind id)) :
    ctx.bodyOf ty = .ok ((ctx.registry.get? id).bind (·.body)) := by
  rw [bodyOf, defOf_nominal found]
  rfl

/-- To lay out members is to lay out their types. -/
theorem mapM_members (members : List Member) (layout : TypeId → LayoutM TypeLayout) :
    (members.mapM fun member => layout member.type) = (members.map (·.type)).mapM layout :=
  List.mapM_map.symm

theorem recordParts_eq (body : DefBody) (layout : TypeId → LayoutM TypeLayout) :
    recordParts body layout = do
      return .ofParts body.base.isSome
        (← (body.base.toList ++ body.members.map (·.type)).mapM layout) := by
  rw [recordParts, mapM_members]
  cases body.base with
  | none => simp only [pure_bind]; rfl
  | some base =>
    simp only [Option.toList_some, List.singleton_append, List.mapM_cons, bind_assoc, pure_bind]
    rfl

theorem unionParts_eq (body : DefBody) (layout : TypeId → LayoutM TypeLayout) :
    unionParts body layout = do
      return .overlay (← (body.members.map (·.type)).mapM layout) := by
  rw [unionParts, mapM_members]

/-- One step of the search lays out the parts of the plan in their order and combines them. -/
theorem layoutStep_eq (ctx : TypeContext) (ty : TypeId) (layout : TypeId → LayoutM TypeLayout) :
    ctx.layoutStep ty layout = do
      let plan ← ctx.layoutPlan ty
      return plan.rule.combine ctx.config.pointerSize (← plan.parts.mapM layout) := by
  unfold layoutStep layoutPlan TypePool.form
  cases found : ctx.pool.form? ty with
  | none => rfl
  | some form =>
    simp only [lift_ok, pure_bind]
    cases form with
    | int bits signed | float bits =>
      by_cases supported : bits ∈ numberWidths
      · have layouts : TypeLayout.ofBits? bits = some (.scalar (UInt64.ofNat (bits / 8))) :=
          if_pos supported
        simp [layouts, supported, lift_ok, LayoutRule.combine]
      · have refused : TypeLayout.ofBits? bits = none := if_neg supported
        simp [refused, supported, lift_error]
    | nominal kind id =>
      simp only [bodyOf_nominal found]
      cases (ctx.registry.get? id).bind (·.body) with
      | none => rfl
      | some body =>
        simp only [lift_ok, pure_bind]
        cases kind with
        | struct | classType => simp [recordParts_eq, DefBody.layoutPlan, LayoutRule.combine]
        | union => simp [unionParts_eq, DefBody.layoutPlan, LayoutRule.combine]
        | enumeration | interface => simp [DefBody.layoutPlan, LayoutRule.combine]
    | _ => simp [lift_ok, lift_error, LayoutRule.combine]

end TypeContext

end FrontEnd
