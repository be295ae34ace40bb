import FrontEnd.Proofs.Overload.Ranking

/-!
Tables that differ in methods alone. What types inherit, how they convert and which candidate is
called does not depend on what methods the definitions have.
-/

namespace FrontEnd

def DefBody.withoutMethods (body : DefBody) : DefBody := { body with methods := [] }

def TypeDef.withoutMethods (entry : TypeDef) : TypeDef :=
  { entry with body := entry.body.map DefBody.withoutMethods }

namespace TypeContext

variable {ctx ctx' : TypeContext}

/-- The definitions of the same types differ in no more than their methods. -/
structure SameButMethods (ctx ctx' : TypeContext) : Prop where
  pool : ctx'.pool = ctx.pool
  registry : ∀ id, (ctx'.registry.get? id).map TypeDef.withoutMethods =
    (ctx.registry.get? id).map TypeDef.withoutMethods

/-- Steps that see no more of a result than is the same in another go on alike from both. -/
theorem bind_congr_of_map {first first' : Except ε α} {view : α → γ} {next next' : α → Except ε β}
    (same : first'.map view = first.map view)
    (alike : ∀ value value', view value' = view value → next' value' = next value) :
    first' >>= next' = first >>= next := by
  cases first with
  | error err =>
    cases first' with
    | error err' => exact congrArg _ (Except.error.inj same)
    | ok value' => cases same
  | ok value =>
    cases first' with
    | error err' => cases same
    | ok value' => exact alike value value' (Except.ok.inj same)

theorem mapM_congr_of_map {steps steps' : α → Except ε β} (view : β → γ)
    (same : ∀ value, (steps' value).map view = (steps value).map view) (values : List α) :
    (values.mapM steps').map (List.map view) = (values.mapM steps).map (List.map view) := by
  induction values with
  | nil => rfl
  | cons value rest ih =>
    have first := same value
    rw [List.mapM_cons, List.mapM_cons]
    revert first ih
    cases steps' value <;> cases steps value <;> cases rest.mapM steps' <;>
      cases rest.mapM steps <;> simp +contextual [Except.map, Bind.bind, Except.bind, pure, Except.pure]

namespace SameButMethods

variable (same : ctx.SameButMethods ctx')

include same

theorem defOf (ty : TypeId) : (ctx'.defOf ty).map (Option.map TypeDef.withoutMethods) =
    (ctx.defOf ty).map (Option.map TypeDef.withoutMethods) := by
  unfold TypeContext.defOf
  rw [same.pool]
  cases ctx.pool.form (ctx.pool.unqualified ty) with
  | error err => rfl
  | ok form =>
    cases form with
    | nominal kind id => exact congrArg Except.ok (same.registry id)
    | _ => rfl

theorem bodyOf (ty : TypeId) : (ctx'.bodyOf ty).map (Option.map DefBody.withoutMethods) =
    (ctx.bodyOf ty).map (Option.map DefBody.withoutMethods) := by
  have seen (ctx : TypeContext) : (ctx.bodyOf ty).map (Option.map DefBody.withoutMethods) =
      ((ctx.defOf ty).map (Option.map TypeDef.withoutMethods)).map (·.bind TypeDef.body) := by
    unfold TypeContext.bodyOf
    cases ctx.defOf ty with
    | error err => rfl
    | ok entry => cases entry <;> rfl
  rw [seen, seen, same.defOf]

theorem supertypes : ctx'.supertypes = ctx.supertypes := by
  funext ty
  have seen (ctx : TypeContext) : ctx.supertypes ty =
      (((ctx.bodyOf ty).map (Option.map DefBody.withoutMethods)).toOption.join.map
        (·.supertypes.map ctx.pool.unqualified)).getD [] := by
    unfold TypeContext.supertypes
    cases ctx.bodyOf ty with
    | error err => rfl
    | ok body => cases body <;> rfl
  rw [seen, seen, same.bodyOf, same.pool]

theorem searchOrder (ty : TypeId) : ctx'.searchOrder ty = ctx.searchOrder ty := by
  have order := searchOrder_depthFirst ctx' ty
  rw [same.supertypes, same.pool] at order
  exact order.unique (searchOrder_depthFirst ctx ty)

theorem knownOrder (ty : TypeId) : ctx'.knownOrder ty = ctx.knownOrder ty := by
  rw [TypeContext.knownOrder, TypeContext.knownOrder, same.searchOrder, same.pool]

theorem isSubtype (ty target : TypeId) : ctx'.isSubtype ty target = ctx.isSubtype ty target := by
  rw [TypeContext.isSubtype, TypeContext.isSubtype, same.knownOrder, same.pool]

theorem isRecord (ty : TypeId) : ctx'.isRecord ty = ctx.isRecord ty := by
  refine bind_congr_of_map (same.defOf ty) fun entry entry' alike => ?_
  cases entry with
  | none =>
    cases entry' with
    | none => rfl
    | some entry' => cases alike
  | some entry =>
    cases entry' with
    | none => cases alike
    | some entry' =>
      have alike : entry'.withoutMethods = entry.withoutMethods := Option.some.inj alike
      have kind : entry'.kind = entry.kind := (congrArg TypeDef.kind alike :)
      dsimp only
      rw [kind]

theorem targetConverts (source target : TypeId) :
    ctx'.targetConverts source target = ctx.targetConverts source target := by
  unfold TypeContext.targetConverts
  rw [same.pool]
  simp only [same.isRecord, same.isSubtype]

theorem converts (source target : TypeId) : ctx'.converts source target = ctx.converts source target := by
  unfold TypeContext.converts
  rw [same.pool]
  simp only [same.targetConverts]
  cases ctx.pool.form source with
  | error err => rfl
  | ok form =>
    cases ctx.pool.form target with
    | error err => rfl
    | ok toForm =>
      dsimp only [Bind.bind, Except.bind]
      split
      case h_4 =>
        refine bind_congr_of_map (same.bodyOf source) fun body body' alike => ?_
        have index (body : Option DefBody) : body.bind (·.indexType) =
            (body.map DefBody.withoutMethods).bind (·.indexType) := by cases body <;> rfl
        rw [index body', alike, ← index body]
      all_goals rfl

theorem conversion (source target : TypeId) :
    ctx'.conversion source target = ctx.conversion source target := by
  unfold TypeContext.conversion
  rw [same.pool]
  simp only [same.converts]

theorem rankFixed (arguments parameters : List TypeId) :
    ctx'.rankFixed arguments parameters = ctx.rankFixed arguments parameters := by
  induction arguments generalizing parameters with
  | nil => rfl
  | cons argument arguments ih =>
    cases parameters with
    | nil => rfl
    | cons parameter parameters =>
      rw [TypeContext.rankFixed, TypeContext.rankFixed, same.conversion, ih]

theorem rankVariadic (element : TypeId) (arguments : List TypeId) :
    ctx'.rankVariadic element arguments = ctx.rankVariadic element arguments := by
  induction arguments with
  | nil => rfl
  | cons argument arguments ih =>
    rw [TypeContext.rankVariadic, TypeContext.rankVariadic, same.conversion, ih]

theorem rankCandidate (signature : TypeId) (arguments : List TypeId) :
    ctx'.rankCandidate signature arguments = ctx.rankCandidate signature arguments := by
  unfold TypeContext.rankCandidate TypeContext.variadicElement?
  rw [same.pool]
  simp only [same.rankFixed, same.rankVariadic]

theorem viableFrom (index : Nat) (candidates arguments : List TypeId) :
    ctx'.viableFrom index arguments candidates = ctx.viableFrom index arguments candidates := by
  induction candidates generalizing index with
  | nil => rfl
  | cons signature rest ih =>
    rw [TypeContext.viableFrom, TypeContext.viableFrom, same.rankCandidate, ih]

theorem resolveOverload (name : Name) (candidates arguments : List TypeId) :
    ctx'.resolveOverload name candidates arguments =
      ctx.resolveOverload name candidates arguments := by
  rw [TypeContext.resolveOverload, TypeContext.resolveOverload, same.viableFrom]

theorem ownerBody (owner : TypeId) :
    (do return (owner, ← ctx'.bodyOf owner) : Except TypeError (TypeId × Option DefBody)).map
        (Prod.map id (Option.map DefBody.withoutMethods)) =
      (do return (owner, ← ctx.bodyOf owner) : Except TypeError (TypeId × Option DefBody)).map
        (Prod.map id (Option.map DefBody.withoutMethods)) := by
  have seen (answer : Except TypeError (Option DefBody)) :
      (answer >>= fun body => pure (owner, body)).map
          (Prod.map id (Option.map DefBody.withoutMethods)) =
        (answer.map (Option.map DefBody.withoutMethods)).map (owner, ·) := by
    cases answer <;> rfl
  rw [seen, seen, same.bodyOf]

/-- The search meets the same types with bodies, and fails in the same way. -/
theorem bodiesInOrder (ty : TypeId) :
    (ctx'.bodiesInOrder ty).map (List.map (Prod.map id DefBody.withoutMethods)) =
      (ctx.bodiesInOrder ty).map (List.map (Prod.map id DefBody.withoutMethods)) := by
  have seen (answers : Except TypeError (List (TypeId × Option DefBody))) :
      (answers >>= fun bodies => pure (bodies.filterMap fun pair => pair.2.map (pair.1, ·))).map
          (List.map (Prod.map id DefBody.withoutMethods)) =
        (answers.map (List.map (Prod.map id (Option.map DefBody.withoutMethods)))).map
          (List.filterMap fun pair => pair.2.map (pair.1, ·)) := by
    cases answers with
    | error err => rfl
    | ok bodies =>
      refine congrArg Except.ok ?_
      rw [List.map_filterMap, List.filterMap_map]
      refine List.filterMap_congr fun pair _ => ?_
      obtain ⟨owner, _ | body⟩ := pair <;> rfl
  rw [TypeContext.bodiesInOrder, TypeContext.bodiesInOrder, same.knownOrder]
  cases ctx.knownOrder ty with
  | error err => rfl
  | ok order =>
    refine (seen _).trans (Eq.trans ?_ (seen _).symm)
    rw [mapM_congr_of_map _ same.ownerBody order]

end SameButMethods

end TypeContext

end FrontEnd
